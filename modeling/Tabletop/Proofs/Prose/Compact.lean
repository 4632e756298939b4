import Tabletop.Proofs.Notation.Canonical
import Tabletop.Proofs.Prose.Verdicts

/-!
# Compact notations

Reading allows blanks of all kinds, within dice and around the whole text,
and a sign at the front. Prose is searched for less. A notation is
**compact** if it is what prose is searched for, told by its tokens and its
blanks: it opens with a die, no die holds blanks, none stand at its ends,
and all others are spaces and tabs.

Of a text that is read as an expression this is just to be a phrase
(`Prose.isCompact_iff_of_parse`), and so is the canonical form of every
expression (`Prose.isPhrase_canonical`).
-/

namespace Tabletop

open Text

/-! ## The lexemes of a sentence -/

namespace Token

/-- The lexemes of further terms are their signs and operands. -/
theorem lexemes_summands (start : Nat) (more : List Summand) (trail : Gap) :
    (scan start (more.flatMap Summand.chars ++ trail.chars)).map Token.lexeme =
      more.flatMap fun x => [.sign x.sign, x.operand.bare.lexeme] := by
  induction more generalizing start with
  | nil =>
    rw [List.flatMap_nil, List.nil_append, ← List.append_nil trail.chars, scan_gap, scan_nil]
    rfl
  | cons x more ih =>
    have hchars : (x :: more).flatMap Summand.chars ++ trail.chars =
        x.before.chars ++ (x.sign.char :: (x.after.chars ++ (x.operand.chars ++
          (more.flatMap Summand.chars ++ trail.chars)))) := by
      simp only [List.flatMap_cons, Summand.chars, List.append_assoc, List.cons_append]
    rw [hchars, scan_gap, scan_sign, scan_gap,
      scan_operand x.operand (Reading.detached_summands more trail), List.map_cons, List.map_cons,
      ih, List.flatMap_cons]
    rfl

/-- **The lexemes of a sentence** are its opening sign, if it has one, its first operand, and
the signs and operands of its further terms. -/
theorem lexemes_sentence (start : Nat) (s : Sentence) :
    (scan start s.chars).map Token.lexeme =
      (s.opening.map fun op => Lexeme.sign op.1).toList ++ s.first.bare.lexeme ::
        s.more.flatMap fun x => [.sign x.sign, x.operand.bare.lexeme] := by
  obtain ⟨lead, opening, first, more, trail⟩ := s
  have hfirst (start : Nat) :
      (scan start (first.chars ++ (more.flatMap Summand.chars ++ trail.chars))).map Token.lexeme =
        first.bare.lexeme :: more.flatMap fun x => [.sign x.sign, x.operand.bare.lexeme] := by
    rw [scan_operand first (Reading.detached_summands more trail), List.map_cons, lexemes_summands]
  unfold Sentence.chars Sentence.openingChars
  rw [scan_gap]
  cases opening with
  | none => exact hfirst _
  | some op =>
    obtain ⟨sign, gap⟩ := op
    show (scan _ (sign.char :: (gap.chars ++ _))).map Token.lexeme = _
    rw [scan_sign, scan_gap, List.map_cons, hfirst]
    rfl

end Token

namespace Prose

variable {cs : List Char}

/-! ## Compact notations -/

/-- **Whether a notation is compact**: no blanks stand at its ends, it opens with a die, no die
holds blanks, and all blanks are spaces and tabs. -/
structure IsCompact (cs : List Char) : Prop where
  /-- No blanks stand at its ends. -/
  stripped : strip isBlank cs = cs
  /-- It opens with a die. -/
  opens : ∃ d lexemes, (Token.scan 0 cs).map Token.lexeme = .die d :: lexemes
  /-- No die holds blanks. -/
  dice : ∀ d, .die d ∈ (Token.scan 0 cs).map Token.lexeme → d.before = [] ∧ d.after = []
  /-- All blanks are spaces and tabs. -/
  blanks : ∀ c ∈ cs, isBlank c = true → isPadding c = true

/-- A die of the grammar that holds no blanks is a compact die. -/
theorem isDie_of_lexeme {o : Operand} {d : DieText} (ho : o.lexeme = .die d)
    (hd : d.before = [] ∧ d.after = []) : IsDie o.chars := by
  cases o with
  | number digits hdigits => cases ho
  | die d' hd' =>
    obtain rfl : d' = d := Lexeme.die.inj ho
    obtain ⟨count, before, letter, after, sides⟩ := d'
    obtain ⟨rfl, rfl⟩ : before = [] ∧ after = [] := hd
    refine ⟨count, letter, sides, ?_, hd'.count, hd'.letter, hd'.sides⟩
    simp only [Operand.chars, DieText.chars, List.append_nil, List.nil_append]

/-- **An operand without blanks** is a compact die or a numeral. -/
theorem isDie_or_isNumeral {o : Operand}
    (h : ∀ d, o.lexeme = .die d → d.before = [] ∧ d.after = []) :
    IsDie o.chars ∨ IsNumeral o.chars := by
  cases o with
  | number digits hdigits => exact .inr hdigits
  | die d hd => exact .inl (isDie_of_lexeme rfl (h d rfl))

/-- **A further term of a compact notation** is one of prose. -/
theorem isFurther_of_compact {x : Summand}
    (hdice : ∀ d, x.operand.bare.lexeme = .die d → d.before = [] ∧ d.after = [])
    (hblanks : ∀ c ∈ x.chars, isBlank c = true → isPadding c = true) : IsFurther x.chars := by
  have hchars : x.chars = x.before.chars ++ x.sign.char ::
      ((x.after.append x.operand.indent).chars ++ x.operand.bare.chars) := by
    simp only [Summand.chars, Gap.append, List.append_assoc, x.operand.chars_bare]
  have hpadding {g : Gap} (hg : ∀ c ∈ g.chars, c ∈ x.chars) : g.chars.all isPadding = true :=
    List.all_eq_true.2 fun c hc => hblanks c (hg c hc) (List.all_eq_true.1 g.all_blank c hc)
  refine ⟨_, _, _, _, hchars, hpadding ?_, isSign_char x.sign, hpadding ?_,
    isDie_or_isNumeral hdice⟩
  · intro c hc
    rw [hchars]
    exact List.mem_append_left _ hc
  · intro c hc
    rw [hchars]
    exact List.mem_append_right _ (List.mem_cons_of_mem _ (List.mem_append_left _ hc))

/-- **A sentence that is compact spells a phrase.** -/
theorem IsCompact.isPhrase {s : Sentence} (h : IsCompact s.chars) : IsPhrase s.chars := by
  have hlexemes := Token.lexemes_sentence 0 s
  obtain ⟨d, lexemes, hopens⟩ := h.opens
  have hnone : s.opening = none := by
    cases hopening : s.opening with
    | none => rfl
    | some op =>
      rw [hopening, hopens] at hlexemes
      cases hlexemes
  rw [hnone] at hlexemes
  have hfirst : s.first.bare.lexeme = .die d := by
    rw [hopens] at hlexemes
    exact (List.cons.inj hlexemes).1.symm
  -- what stands before the first die and behind the last term has been stripped
  have hchars : s.chars = s.first.bare.chars ++ (s.more.map Summand.chars).flatten := by
    rw [← h.stripped, s.strip_chars, ← List.flatMap_def]
    simp [Sentence.chars, Sentence.openingChars, Sentence.trim, Gap.empty, hnone]
  refine ⟨_, _, hchars, isDie_of_lexeme hfirst (h.dice d ?_), ?_⟩
  · rw [hopens]
    exact List.mem_cons_self
  · rw [List.forall_mem_map]
    intro x hx
    refine isFurther_of_compact (fun d hd => h.dice d ?_) fun c hc => h.blanks c ?_
    · rw [hlexemes, ← hd]
      exact List.mem_cons_of_mem _ (List.mem_flatMap.2
        ⟨x, hx, List.mem_cons_of_mem _ List.mem_cons_self⟩)
    · rw [hchars, ← List.flatMap_def]
      exact List.mem_append_right _ (List.mem_flatMap.2 ⟨x, hx, hc⟩)

/-! ## Phrases are compact -/

theorem isBlank_of_mem_operand (h : IsDie cs ∨ IsNumeral cs) {c : Char} (hc : c ∈ cs) :
    isBlank c = false := by
  rcases h with ⟨count, letter, sides, rfl, hcount, hletter, -, hsides⟩ | ⟨-, hall⟩
  · rcases List.mem_append.1 hc with hc | hc
    · exact isBlank_of_isDigit (List.all_eq_true.1 hcount c hc)
    · rcases List.mem_cons.1 hc with rfl | hc
      · exact isBlank_of_isDieLetter hletter
      · exact isBlank_of_isDigit (List.all_eq_true.1 hsides c hc)
  · exact isBlank_of_isDigit (List.all_eq_true.1 hall c hc)

/-- A die that is spelled by a compact die holds no blanks. -/
theorem eq_nil_of_isDie {d : DieText} (hd : d.WellFormed) (h : IsDie d.chars) :
    d.before = [] ∧ d.after = [] := by
  have hnone {gap : List Char} (hgap : gap.all isBlank = true) (hsub : gap ⊆ d.chars) :
      gap = [] := by
    refine List.eq_nil_iff_forall_not_mem.2 fun c hc => ?_
    have hblank := isBlank_of_mem_operand (.inl h) (hsub hc)
    rw [List.all_eq_true.1 hgap c hc] at hblank
    cases hblank
  refine ⟨hnone hd.before fun c hc => ?_, hnone hd.after fun c hc => ?_⟩
  · exact List.mem_append_left _ (List.mem_append_right _ hc)
  · exact List.mem_append_right _ (List.mem_cons_of_mem _ (List.mem_append_left _ hc))

/-- All blanks of a phrase are spaces and tabs. -/
theorem IsPhrase.isPadding_of_isBlank (h : IsPhrase cs) :
    ∀ c ∈ cs, isBlank c = true → isPadding c = true := by
  obtain ⟨die, further, rfl, hdie, hfurther⟩ := h
  intro c hc hblank
  rcases List.mem_append.1 hc with hc | hc
  · rw [isBlank_of_mem_operand (.inl hdie) hc] at hblank
    cases hblank
  · obtain ⟨t, ht, hct⟩ := List.mem_flatten.1 hc
    obtain ⟨before, sign, after, operand, rfl, hbefore, hsign, hafter, hoperand⟩ := hfurther t ht
    rcases List.mem_append.1 hct with hct | hct
    · exact List.all_eq_true.1 hbefore c hct
    · rcases List.mem_cons.1 hct with rfl | hct
      · rw [isBlank_of_isSign hsign] at hblank
        cases hblank
      · rcases List.mem_append.1 hct with hct | hct
        · exact List.all_eq_true.1 hafter c hct
        · rw [isBlank_of_mem_operand hoperand hct] at hblank
          cases hblank

/-- An operand that spells a compact die, if it is a die, has a lexeme without blanks. -/
theorem eq_nil_of_lexeme_bare {o : Operand} (h : o.die? ≠ none → IsDie o.chars) {d : DieText}
    (hd : o.bare.lexeme = .die d) : d.before = [] ∧ d.after = [] := by
  cases o with
  | number digits hdigits => cases hd
  | die d' hd' =>
    obtain ⟨hbefore, hafter⟩ := eq_nil_of_isDie hd' (h (Option.some_ne_none d'))
    rw [Operand.bare] at hd
    split at hd
    · cases hd
      exact ⟨rfl, hafter⟩
    · cases hd
      exact ⟨hbefore, hafter⟩

/-- The first operand of a sentence that spells a phrase is its first die, if nothing stands
before it. -/
theorem isDie_first {s : Sentence} (h : IsPhrase s.chars) (hs : IsProse s) :
    IsDie s.first.chars := by
  obtain ⟨lead, opening, first, more, trail⟩ := s
  obtain ⟨⟨d, hd, -, hlead, hopening, hfirst⟩, -, -⟩ := hs
  dsimp only at hlead hopening hfirst
  subst hlead hopening hfirst
  obtain ⟨die, further, hchars, hdie, hfurther⟩ := h
  obtain ⟨d', hd', rfl, -⟩ := hdie.exists_dieText
  -- a text begins with one die only that no letter or digit follows
  have hfree : Free (further.flatten ++ []) := free_further hfurther rfl
  have hrest : beginsWith Char.isAlphanum further.flatten = false := by
    rw [List.append_nil] at hfree
    exact beginsWith_of_imp (fun _ => isAlphanumeric_of_isAlphanum) hfree
  have hread := DieText.read?_eq_some_iff.2 ⟨hd, rfl, (Reading.detached_summands more trail).1⟩
  have hread' := DieText.read?_eq_some_iff.2 ⟨hd', hchars, hrest⟩
  obtain ⟨rfl, -⟩ := Prod.mk.inj (Option.some.inj (hread.symm.trans hread'))
  exact hdie

/-- **A phrase is a compact notation.** -/
theorem IsPhrase.isCompact (h : IsPhrase cs) : IsCompact cs := by
  have hblanks := h.isPadding_of_isBlank
  obtain ⟨s, rfl, hs⟩ := h.exists_sentence
  obtain ⟨d, hd, -, -, hopening, hfirst⟩ := hs.opens
  have hlexemes := Token.lexemes_sentence 0 s
  rw [hopening] at hlexemes
  refine ⟨hs.strip_chars, ?_, fun d' hd' => ?_, hblanks⟩
  · rw [hlexemes, hfirst, Operand.bare]
    split <;> exact ⟨_, _, rfl⟩
  · rw [hlexemes] at hd'
    rcases List.mem_cons.1 hd' with hlexeme | hmem
    · exact eq_nil_of_lexeme_bare (fun _ => isDie_first h hs) hlexeme.symm
    · obtain ⟨x, hx, hmem⟩ := List.mem_flatMap.1 hmem
      rcases List.mem_pair.1 hmem with hsign | hlexeme
      · cases hsign
      · exact eq_nil_of_lexeme_bare (hs.further x hx).2 hlexeme.symm

/-- **A text that is read as an expression is compact** exactly if it is a phrase. -/
theorem isCompact_iff_of_parse {limits : Limits} {text : String} {e : Expression}
    (h : Expression.parse limits text = .ok e) :
    IsCompact text.toList ↔ IsPhrase text.toList := by
  obtain ⟨s, hs, -⟩ := Expression.read_eq_ok_iff.1 h
  rw [← hs]
  exact ⟨IsCompact.isPhrase, IsPhrase.isCompact⟩

/-! ## The canonical form -/

theorem isDie_operand (g : Group) : IsDie g.operand.chars :=
  isDie_of_lexeme (d := g.typed) rfl ⟨rfl, rfl⟩

theorem isFurther_spaced (s : Sign) {o : Operand} (ho : IsDie o.chars ∨ IsNumeral o.chars) :
    IsFurther (Summand.spaced s o).chars :=
  ⟨[' '], s.char, [' '], o.chars, rfl, by decide, isSign_char s, by decide, ho⟩

/-- **The canonical form is a phrase.** -/
theorem isPhrase_canonical {e : Expression} (h : ∀ g ∈ e.groups, 0 ≤ g.count ∧ 0 ≤ g.sides) :
    IsPhrase e.canonical.toList := by
  have hchars : e.canonical.toList =
      e.first.operand.chars ++ (e.sentence.more.map Summand.chars).flatten := by
    rw [← Expression.chars_sentence h, ← List.flatMap_def]
    show [] ++ ([] ++ (_ ++ (_ ++ []))) = _
    rw [List.nil_append, List.nil_append, List.append_nil]
    rfl
  refine ⟨_, _, hchars, isDie_operand e.first, ?_⟩
  rw [List.forall_mem_map]
  intro x hx
  rcases List.mem_append.1 hx with hx | hx
  · obtain ⟨g, -, rfl⟩ := List.mem_map.1 hx
    exact isFurther_spaced .plus (.inl (isDie_operand g))
  · obtain ⟨s, rfl⟩ := Expression.eq_of_mem_modifierSummands hx
    exact isFurther_spaced s (.inr (Numeral.isNumeral_toDigits _))

/-- **The canonical form is read**, where the groups and the modifier are within the limits. -/
theorem exists_parse_canonical {limits : Limits} {e : Expression}
    (hgroups : ∀ g ∈ e.groups, g.Within limits) (hmodifier : e.modifier.natAbs ≤ limits.maxModifier) :
    IsCompact e.canonical.toList ∧ ∃ e', Expression.parse limits e.canonical = .ok e' := by
  have hnonneg : ∀ g ∈ e.groups, 0 ≤ g.count ∧ 0 ≤ g.sides := fun g hg =>
    ⟨Int.le_trans (by decide) (hgroups g hg).1.1, Int.le_trans (by decide) (hgroups g hg).2.1⟩
  have haccepted := Expression.accepted_sentence hgroups hmodifier
  exact ⟨(isPhrase_canonical hnonneg).isCompact, ⟨_, haccepted.groups, _, _⟩,
    (Expression.read_sentence (Expression.chars_sentence hnonneg)).2 ⟨haccepted, rfl, rfl, rfl⟩⟩

end Prose

end Tabletop
