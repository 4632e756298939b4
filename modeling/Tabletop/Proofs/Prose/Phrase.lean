import Tabletop.Notation.Prose
import Tabletop.Proofs.Notation.Sentence
import Tabletop.Proofs.Text.Stretch

/-!
# Phrases

The notation that prose is searched for, said without a reader: a die
without blanks, and any number of further terms, each a sign with spaces
or tabs around it and a die or a numeral. A **phrase** found in a text has
to stand free of what follows it.

The readers never go back. That loses nothing, since the character after
an operand settles where the operand ends: a free operand is the only one
that a text begins with (`Prose.operand?_eq_some_iff`), so the terms that
are read from a phrase are the terms of every phrase that the text begins
with, and more (`Prose.exists_phrase?`). Nor does a later start find more:
a phrase that begins inside another one, free of what stands before it,
begins at an operand of it, and then the two make one phrase
(`Prose.IsPhrase.graft`).
-/

namespace Tabletop

open Text

variable {c : Char}

/-! ## Letters and numbers among the classes of a phrase -/

theorem isAlphanumeric_of_isDigit (h : c.isDigit = true) : isAlphanumeric c = true :=
  isAlphanumeric_of_isAlphanum (isAlphanum_of_isDigit h)

theorem isAlphanumeric_of_isDieLetter (h : isDieLetter c = true) : isAlphanumeric c = true :=
  isAlphanumeric_of_isAlphanum (isAlphanum_of_isDieLetter h)

theorem isAlphanumeric_of_isSign (h : isSign c = true) : isAlphanumeric c = false := by
  rcases eq_of_isSign h with rfl | rfl <;> decide

namespace Prose

variable {cs p r : List Char}

theorem eq_of_isPadding (h : isPadding c = true) : c = ' ' ∨ c = '\t' := by
  simpa [isPadding] using h

theorem isAlphanumeric_of_isPadding (h : isPadding c = true) : isAlphanumeric c = false := by
  rcases eq_of_isPadding h with rfl | rfl <;> decide

theorem isPadding_of_isAlphanumeric (h : isAlphanumeric c = true) : isPadding c = false :=
  Bool.eq_false_iff.2 fun hc => by simp [isAlphanumeric_of_isPadding hc] at h

theorem isPadding_of_isSign (h : isSign c = true) : isPadding c = false := by
  rcases eq_of_isSign h with rfl | rfl <;> rfl

/-- A text stands free if no letter or number is at its front. -/
def Free (cs : List Char) : Prop :=
  beginsWith isAlphanumeric cs = false

theorem Free.beginsWith_isDigit (h : Free cs) : beginsWith Char.isDigit cs = false :=
  beginsWith_of_imp (fun _ => isAlphanumeric_of_isDigit) h

/-! ## The grammar of phrases -/

/-- **A compact die**: digits or none, the letter, and a numeral. -/
def IsDie (cs : List Char) : Prop :=
  ∃ (count : List Char) (letter : Char) (sides : List Char), cs = count ++ letter :: sides ∧
    count.all Char.isDigit = true ∧ isDieLetter letter = true ∧ IsNumeral sides

/-- **A further term**: a sign with padding around it, and a die or a
numeral. -/
def IsFurther (cs : List Char) : Prop :=
  ∃ (before : List Char) (sign : Char) (after operand : List Char),
    cs = before ++ sign :: (after ++ operand) ∧ before.all isPadding = true ∧
      isSign sign = true ∧ after.all isPadding = true ∧ (IsDie operand ∨ IsNumeral operand)

/-- **A phrase**: a die and further terms. -/
def IsPhrase (cs : List Char) : Prop :=
  ∃ (die : List Char) (further : List (List Char)), cs = die ++ further.flatten ∧ IsDie die ∧
    ∀ t ∈ further, IsFurther t

/-- An operand is not empty, and holds letters and digits only. -/
theorem operand_alphanumeric (h : IsDie cs ∨ IsNumeral cs) :
    cs ≠ [] ∧ cs.all isAlphanumeric = true := by
  have hdigits {ds : List Char} (hds : ds.all Char.isDigit = true) :
      ds.all isAlphanumeric = true :=
    List.all_eq_true.2 fun d hd => isAlphanumeric_of_isDigit (List.all_eq_true.1 hds d hd)
  rcases h with ⟨count, letter, sides, rfl, hcount, hletter, -, hsides⟩ | ⟨hne, hall⟩
  · refine ⟨by simp, ?_⟩
    rw [List.all_append, List.all_cons, hdigits hcount, isAlphanumeric_of_isDieLetter hletter,
      hdigits hsides]
    rfl
  · exact ⟨hne, hdigits hall⟩

theorem beginsWith_reverse_operand (h : IsDie cs ∨ IsNumeral cs) (front : List Char) :
    beginsWith isAlphanumeric (front ++ cs).reverse = true := by
  obtain ⟨hne, hall⟩ := operand_alphanumeric h
  have hall' : cs.reverse.all isAlphanumeric = true := by rw [List.all_reverse, hall]
  have hne' : cs.reverse ≠ [] := fun hnil => hne (List.reverse_eq_nil_iff.1 hnil)
  rw [List.reverse_append, beginsWith_append hne']
  obtain ⟨c, rest, hc⟩ := List.exists_cons_of_ne_nil hne'
  rw [hc, List.all_cons, Bool.and_eq_true] at hall'
  rw [hc, beginsWith_cons, hall'.1]

theorem beginsWith_reverse_further (h : IsFurther cs) (front : List Char) :
    beginsWith isAlphanumeric (front ++ cs).reverse = true := by
  obtain ⟨before, sign, after, operand, rfl, -, -, -, hoperand⟩ := h
  rw [show front ++ (before ++ sign :: (after ++ operand)) =
    front ++ (before ++ sign :: after) ++ operand from by
      simp only [List.append_assoc, List.cons_append]]
  exact beginsWith_reverse_operand hoperand _

/-- A phrase ends in a letter or digit, whatever stands before it. -/
theorem IsPhrase.beginsWith_reverse (h : IsPhrase cs) (front : List Char) :
    beginsWith isAlphanumeric (front ++ cs).reverse = true := by
  obtain ⟨die, further, rfl, hdie, hfurther⟩ := h
  rw [← List.append_assoc]
  rcases List.eq_nil_or_concat further with rfl | ⟨more, t, rfl⟩
  · rw [List.flatten_nil, List.append_nil]
    exact beginsWith_reverse_operand (.inl hdie) front
  · rw [List.concat_eq_append, List.flatten_append, List.flatten_singleton, ← List.append_assoc]
    exact beginsWith_reverse_further (hfurther t (by simp)) _

theorem IsPhrase.exists_cons (h : IsPhrase cs) :
    ∃ c rest, cs = c :: rest ∧ isAlphanumeric c = true := by
  obtain ⟨die, further, rfl, hdie, -⟩ := h
  obtain ⟨hne, hall⟩ := operand_alphanumeric (.inl hdie)
  obtain ⟨c, rest, rfl⟩ := List.exists_cons_of_ne_nil hne
  rw [List.all_cons, Bool.and_eq_true] at hall
  exact ⟨c, rest ++ further.flatten, rfl, hall.1⟩

theorem free_further {further : List (List Char)} (h : ∀ t ∈ further, IsFurther t)
    (hr : Free r) : Free (further.flatten ++ r) := by
  cases further with
  | nil => exact hr
  | cons t more =>
    obtain ⟨before, sign, after, operand, rfl, hbefore, hsign, -, -⟩ := h t List.mem_cons_self
    rw [List.flatten_cons, List.append_assoc, List.append_assoc]
    exact beginsWith_stretch (fun _ => isAlphanumeric_of_isPadding) hbefore
      (isAlphanumeric_of_isSign hsign)

/-! ## The readers -/

/-- Cutting succeeds exactly where the rest is free. -/
theorem cutFree?_eq_some_iff {piece rest : List Char} :
    cutFree? piece rest = some (p, r) ↔ p = piece ∧ r = rest ∧ Free rest := by
  unfold cutFree? Free
  by_cases h : beginsWith isAlphanumeric rest = true
  · rw [if_pos h]
    simp [h]
  · rw [if_neg h]
    simp only [Option.some.injEq, Prod.mk.injEq, Bool.not_eq_true] at h ⊢
    simp only [h, and_true, eq_comm]

/-- **Reading a die**: the compact die that a text begins with is read, where
the rest is free. -/
theorem die?_eq_some_iff : die? cs = some (p, r) ↔ IsDie p ∧ cs = p ++ r ∧ Free r := by
  constructor
  · intro h
    have happend := (append_of_die? h).symm
    unfold die? at h
    split at h
    · cases h
    · next letter digits hsplit =>
      dsimp only at h
      split at h
      · next hcond =>
        simp only [Bool.and_eq_true, Bool.not_eq_true', List.isEmpty_eq_false_iff] at hcond
        obtain ⟨rfl, rfl, hfree⟩ := cutFree?_eq_some_iff.1 h
        exact ⟨⟨_, letter, _, rfl, List.all_takeWhile, hcond.1, hcond.2, List.all_takeWhile⟩,
          happend, hfree⟩
      · cases h
  · rintro ⟨⟨count, letter, sides, rfl, hcount, hletter, hne, hsides⟩, rfl, hfree⟩
    have hdigit : beginsWith Char.isDigit (letter :: (sides ++ r)) = false :=
      isDigit_of_isDieLetter hletter
    have hchars : count ++ letter :: sides ++ r = count ++ letter :: (sides ++ r) := by
      rw [List.append_assoc, List.cons_append]
    rw [hchars, die?, dropWhile_append_rest hcount hdigit, takeWhile_append_rest hcount hdigit]
    dsimp only
    rw [takeWhile_append_rest hsides hfree.beginsWith_isDigit,
      dropWhile_append_rest hsides hfree.beginsWith_isDigit, if_pos (by simp [hletter, hne])]
    exact cutFree?_eq_some_iff.2 ⟨rfl, rfl, hfree⟩

/-- **Reading a number**: the numeral that a text begins with is read, where
the rest is free. -/
theorem number?_eq_some_iff : number? cs = some (p, r) ↔ IsNumeral p ∧ cs = p ++ r ∧ Free r := by
  constructor
  · intro h
    have happend := (append_of_number? h).symm
    unfold number? at h
    dsimp only at h
    split at h
    · cases h
    · next hne =>
      obtain ⟨rfl, rfl, hfree⟩ := cutFree?_eq_some_iff.1 h
      rw [List.isEmpty_iff] at hne
      exact ⟨⟨hne, List.all_takeWhile⟩, happend, hfree⟩
  · rintro ⟨⟨hne, hall⟩, rfl, hfree⟩
    rw [number?, takeWhile_append_rest hall hfree.beginsWith_isDigit,
      dropWhile_append_rest hall hfree.beginsWith_isDigit, if_neg (by simp [hne])]
    exact cutFree?_eq_some_iff.2 ⟨rfl, rfl, hfree⟩

/-- No die is read where a numeral stands free. -/
theorem die?_eq_none (hp : IsNumeral p) (hfree : Free r) : die? (p ++ r) = none := by
  unfold die?
  rw [dropWhile_append_rest hp.2 hfree.beginsWith_isDigit]
  cases r with
  | nil => rfl
  | cons letter rest =>
    have hletter : isDieLetter letter = false := by
      refine Bool.eq_false_iff.2 fun h => ?_
      have halnum : isAlphanumeric letter = false := hfree
      rw [isAlphanumeric_of_isDieLetter h] at halnum
      cases halnum
    dsimp only
    rw [hletter, Bool.false_and, if_neg Bool.false_ne_true]

/-- **Reading an operand**: there is no more than one that a text begins with
and that leaves the rest free. -/
theorem operand?_eq_some_iff :
    (die? cs).or (number? cs) = some (p, r) ↔
      (IsDie p ∨ IsNumeral p) ∧ cs = p ++ r ∧ Free r := by
  rw [Option.or_eq_some_iff, die?_eq_some_iff]
  constructor
  · rintro (⟨hdie, happend⟩ | ⟨-, hnumber⟩)
    · exact ⟨.inl hdie, happend⟩
    · obtain ⟨hnumeral, happend⟩ := number?_eq_some_iff.1 hnumber
      exact ⟨.inr hnumeral, happend⟩
  · rintro ⟨hdie | hnumeral, rfl, hfree⟩
    · exact .inl ⟨hdie, rfl, hfree⟩
    · exact .inr ⟨die?_eq_none hnumeral hfree, number?_eq_some_iff.2 ⟨hnumeral, rfl, hfree⟩⟩

/-- **Reading a further term**: the one that a text begins with is read, where
the rest is free. -/
theorem further?_eq_some_iff :
    further? cs = some (p, r) ↔ IsFurther p ∧ cs = p ++ r ∧ Free r := by
  constructor
  · intro h
    have happend := (append_of_further? h).symm
    unfold further? at h
    split at h
    · cases h
    · next sign padded hsplit =>
      dsimp only at h
      split at h
      · next hsign =>
        obtain ⟨⟨operand, rest⟩, hop, hpr⟩ := Option.map_eq_some_iff.1 h
        simp only [Prod.mk.injEq] at hpr
        obtain ⟨rfl, rfl⟩ := hpr
        obtain ⟨hoperand, -, hfree⟩ := operand?_eq_some_iff.1 hop
        refine ⟨⟨cs.takeWhile isPadding, sign, padded.takeWhile isPadding, operand, ?_,
          List.all_takeWhile, hsign, List.all_takeWhile, hoperand⟩, happend, hfree⟩
        rw [List.append_assoc, List.cons_append]
      · cases h
  · rintro ⟨⟨before, sign, after, operand, rfl, hbefore, hsign, hafter, hoperand⟩, rfl, hfree⟩
    -- padding ends at the sign on one side and at the operand on the other
    have hsign' : beginsWith isPadding (sign :: (after ++ (operand ++ r))) = false :=
      isPadding_of_isSign hsign
    have hoperand' : beginsWith isPadding (operand ++ r) = false := by
      obtain ⟨hne, hall⟩ := operand_alphanumeric hoperand
      rw [beginsWith_append hne]
      exact beginsWith_of_all (fun _ => isPadding_of_isAlphanumeric) hall
    have hchars : before ++ sign :: (after ++ operand) ++ r =
        before ++ sign :: (after ++ (operand ++ r)) := by
      simp only [List.append_assoc, List.cons_append]
    rw [hchars, further?, dropWhile_append_rest hbefore hsign',
      takeWhile_append_rest hbefore hsign']
    dsimp only
    rw [if_pos hsign, takeWhile_append_rest hafter hoperand',
      dropWhile_append_rest hafter hoperand', operand?_eq_some_iff.2 ⟨hoperand, rfl, hfree⟩]
    simp only [Option.map_some, List.append_assoc, List.cons_append]

theorem furtherTerms_fst (cs : List Char) :
    ∃ further : List (List Char), (furtherTerms cs).1 = further.flatten ∧
      ∀ t ∈ further, IsFurther t := by
  fun_induction furtherTerms cs with
  | case1 cs h => exact ⟨[], rfl, fun t ht => absurd ht List.not_mem_nil⟩
  | case2 cs term rest h more ih =>
    obtain ⟨further, hmore, hall⟩ := ih
    refine ⟨term :: further, ?_, ?_⟩
    · rw [List.flatten_cons, ← hmore]
    · rw [List.forall_mem_cons]
      exact ⟨(further?_eq_some_iff.1 h).1, hall⟩

theorem free_furtherTerms (h : Free cs) : Free (furtherTerms cs).2 := by
  fun_induction furtherTerms cs with
  | case1 cs hnone => exact h
  | case2 cs term rest hsome more ih => exact ih (further?_eq_some_iff.1 hsome).2.2

/-- **Reading further terms goes as far as any**: further terms that a text
begins with, where the rest is free, are read, and perhaps more. -/
theorem prefix_furtherTerms {further : List (List Char)} (h : ∀ t ∈ further, IsFurther t)
    (hr : Free r) : further.flatten <+: (furtherTerms (further.flatten ++ r)).1 := by
  induction further with
  | nil => exact List.nil_prefix
  | cons t more ih =>
    rw [List.forall_mem_cons] at h
    have hread : further? ((t :: more).flatten ++ r) = some (t, more.flatten ++ r) := by
      rw [List.flatten_cons, List.append_assoc]
      exact further?_eq_some_iff.2 ⟨h.1, rfl, free_further h.2 hr⟩
    rw [furtherTerms]
    split
    · next hnone =>
      rw [hnone] at hread
      cases hread
    · next term rest hsome =>
      rw [hsome, Option.some.injEq, Prod.mk.injEq] at hread
      obtain ⟨rfl, rfl⟩ := hread
      rw [List.flatten_cons]
      exact (List.prefix_append_right_inj term).2 (ih h.2)

/-- **What is read as a phrase** is one, and the rest is free. -/
theorem isPhrase_of_phrase? (h : phrase? cs = some (p, r)) :
    IsPhrase p ∧ cs = p ++ r ∧ Free r := by
  have happend := (append_of_phrase? h).symm
  obtain ⟨⟨die, rest⟩, hdie, hpr⟩ := Option.map_eq_some_iff.1 h
  simp only [Prod.mk.injEq] at hpr
  obtain ⟨rfl, rfl⟩ := hpr
  obtain ⟨hdie, -, hfree⟩ := die?_eq_some_iff.1 hdie
  obtain ⟨further, hfurther, hall⟩ := furtherTerms_fst rest
  exact ⟨⟨die, further, by rw [hfurther], hdie, hall⟩, happend, free_furtherTerms hfree⟩

/-- **Reading a phrase goes as far as any**: where a text begins with a phrase
and the rest is free, that phrase is read, and perhaps more. -/
theorem exists_phrase? {q : List Char} (hq : IsPhrase q) (hr : Free r) :
    ∃ p rest, phrase? (q ++ r) = some (p, rest) ∧ q <+: p := by
  obtain ⟨die, further, rfl, hdie, hfurther⟩ := hq
  have hread : die? (die ++ further.flatten ++ r) = some (die, further.flatten ++ r) :=
    die?_eq_some_iff.2 ⟨hdie, List.append_assoc .., free_further hfurther hr⟩
  refine ⟨_, _, by rw [phrase?, hread]; rfl, ?_⟩
  exact (List.prefix_append_right_inj die).2 (prefix_furtherTerms hfurther hr)

/-! ## Phrases inside phrases -/

/-- Cut before an operand, further terms go on with any phrase. -/
theorem graft_further {further : List (List Char)} {a b q : List Char}
    (hfurther : ∀ t ∈ further, IsFurther t) (hab : further.flatten = a ++ b) (hne : a ≠ [])
    (ha : beginsWith isAlphanumeric a.reverse = false) (hb : beginsWith isAlphanumeric b = true)
    (hq : IsPhrase q) :
    ∃ grafted : List (List Char), a ++ q = grafted.flatten ∧ ∀ t ∈ grafted, IsFurther t := by
  induction further generalizing a with
  | nil => exact absurd (List.append_eq_nil_iff.1 hab.symm).1 hne
  | cons t more ih =>
    rw [List.forall_mem_cons] at hfurther
    have hlast := beginsWith_reverse_further hfurther.1 []
    rw [List.nil_append] at hlast
    rw [List.flatten_cons] at hab
    rcases List.append_eq_append_iff.1 hab with ⟨a', rfl, hmore⟩ | ⟨c, ht, hc⟩
    · -- the cut lies behind the first term
      by_cases hnil : a' = []
      · rw [hnil, List.append_nil, hlast] at ha
        cases ha
      · have hne' : a'.reverse ≠ [] := fun h => hnil (List.reverse_eq_nil_iff.1 h)
        rw [List.reverse_append, beginsWith_append hne'] at ha
        obtain ⟨grafted, happend, hall⟩ := ih hfurther.2 hmore hnil ha
        refine ⟨t :: grafted, ?_, ?_⟩
        · rw [List.append_assoc, happend, List.flatten_cons]
        · rw [List.forall_mem_cons]
          exact ⟨hfurther.1, hall⟩
    · -- the cut lies inside the first term, so it lies before its operand
      have hcne : c ≠ [] := by
        rintro rfl
        rw [ht, List.append_nil, ha] at hlast
        cases hlast
      rw [hc, beginsWith_append hcne] at hb
      obtain ⟨before, sign, after, operand, rfl, hbefore, hsign, hafter, hoperand⟩ := hfurther.1
      obtain ⟨die, us, rfl, hdie, hus⟩ := hq
      have hlead : ∀ x ∈ before ++ sign :: after, isAlphanumeric x = false := by
        intro x hx
        rw [List.mem_append, List.mem_cons] at hx
        rcases hx with hx | rfl | hx
        · exact isAlphanumeric_of_isPadding (List.all_eq_true.1 hbefore x hx)
        · exact isAlphanumeric_of_isSign hsign
        · exact isAlphanumeric_of_isPadding (List.all_eq_true.1 hafter x hx)
      have hcut : before ++ sign :: after ++ operand = a ++ c := by
        rw [← ht, List.append_assoc, List.cons_append]
      obtain ⟨rfl, -⟩ := eq_of_append_eq_append hcut hlead (operand_alphanumeric hoperand).2 ha hb
      refine ⟨(before ++ sign :: (after ++ die)) :: us, ?_, ?_⟩
      · simp only [List.flatten_cons, List.append_assoc, List.cons_append]
      · rw [List.forall_mem_cons]
        exact ⟨⟨before, sign, after, die, rfl, hbefore, hsign, hafter, .inl hdie⟩, hus⟩

/-- **A phrase cut before an operand goes on with any phrase.** An operand is
where a letter or digit follows none. -/
theorem IsPhrase.graft {a b q : List Char} (hp : IsPhrase (a ++ b))
    (ha : beginsWith isAlphanumeric a.reverse = false) (hb : beginsWith isAlphanumeric b = true)
    (hq : IsPhrase q) : IsPhrase (a ++ q) := by
  by_cases hne : a = []
  · rw [hne]
    exact hq
  · obtain ⟨die, further, happend, hdie, hfurther⟩ := hp
    obtain ⟨hdne, hdall⟩ := operand_alphanumeric (.inl hdie)
    rcases List.append_eq_append_iff.1 happend with ⟨c, rfl, -⟩ | ⟨a', rfl, hcut⟩
    · -- no cut inside the die follows a character that is no letter or digit
      rw [List.all_append, Bool.and_eq_true] at hdall
      obtain ⟨x, front, hx⟩ := List.exists_cons_of_ne_nil
        fun h => hne (List.reverse_eq_nil_iff.1 h)
      have hmem : x ∈ a := List.mem_reverse.1 (by rw [hx]; exact List.mem_cons_self)
      rw [hx, beginsWith_cons, List.all_eq_true.1 hdall.1 x hmem] at ha
      cases ha
    · have hne' : a' ≠ [] := by
        rintro rfl
        have hlast := beginsWith_reverse_operand (.inl hdie) []
        rw [List.nil_append] at hlast
        rw [List.append_nil, hlast] at ha
        cases ha
      have hrev : a'.reverse ≠ [] := fun h => hne' (List.reverse_eq_nil_iff.1 h)
      rw [List.reverse_append, beginsWith_append hrev] at ha
      obtain ⟨grafted, hgraft, hall⟩ := graft_further hfurther hcut hne' ha hb hq
      exact ⟨die, grafted, by rw [List.append_assoc, hgraft], hdie, hall⟩

end Prose

end Tabletop
