import Tabletop.Proofs.Prose.Compact

/-!
# Notation embedded in prose

A compact notation is put into a text that holds no digits of its own and
touches the notation with no letter or number. Prose then finds the
notation whole and nothing else, and can roll it as what it is read as
(`Prose.embedded_found`).

The surroundings may hold letters of dice, signs and blanks, so they may
look like the beginning or the end of a notation. But a phrase ends in a
digit and has one in its first die, and no letter or number touches the
notation; so a phrase that stands free anywhere in the text lies inside
the notation (`Prose.Surrounds.inside`), and the notation is the one that
all others lie inside.
-/

namespace Tabletop.Prose

open Text

variable {cs before after : List Char}

/-! ## Digits of a phrase -/

theorem IsDie.exists_isDigit (h : IsDie cs) : ∃ c ∈ cs, c.isDigit = true := by
  obtain ⟨count, letter, sides, rfl, -, -, hne, hsides⟩ := h
  obtain ⟨c, rest, rfl⟩ := List.exists_cons_of_ne_nil hne
  exact ⟨c, List.mem_append_right _ (List.mem_cons_of_mem _ List.mem_cons_self),
    List.all_eq_true.1 hsides c List.mem_cons_self⟩

theorem exists_concat_of_isNumeral (h : IsNumeral cs) :
    ∃ front c, cs = front ++ [c] ∧ c.isDigit = true := by
  obtain hnil | ⟨front, c, rfl⟩ := List.eq_nil_or_concat cs
  · exact absurd hnil h.1
  · rw [List.concat_eq_append] at h ⊢
    exact ⟨front, c, rfl, List.all_eq_true.1 h.2 c (List.mem_append_right _ List.mem_cons_self)⟩

theorem exists_concat_of_operand (h : IsDie cs ∨ IsNumeral cs) :
    ∃ front c, cs = front ++ [c] ∧ c.isDigit = true := by
  rcases h with ⟨count, letter, sides, rfl, -, -, hsides⟩ | hnumeral
  · obtain ⟨front, c, rfl, hc⟩ := exists_concat_of_isNumeral hsides
    exact ⟨count ++ letter :: front, c, by rw [List.append_assoc, List.cons_append], hc⟩
  · exact exists_concat_of_isNumeral hnumeral

/-- **A phrase ends in a digit.** -/
theorem IsPhrase.exists_concat (h : IsPhrase cs) :
    ∃ front c, cs = front ++ [c] ∧ c.isDigit = true := by
  obtain ⟨die, further, rfl, hdie, hfurther⟩ := h
  obtain rfl | ⟨more, t, rfl⟩ := List.eq_nil_or_concat further
  · rw [List.flatten_nil, List.append_nil]
    exact exists_concat_of_operand (.inl hdie)
  · rw [List.concat_eq_append] at hfurther ⊢
    obtain ⟨lead, sign, gap, operand, rfl, -, -, -, hoperand⟩ :=
      hfurther t (List.mem_append_right _ List.mem_cons_self)
    obtain ⟨front, c, rfl, hc⟩ := exists_concat_of_operand hoperand
    refine ⟨die ++ (more.flatten ++ (lead ++ sign :: (gap ++ front))), c, ?_, hc⟩
    simp only [List.flatten_append, List.flatten_singleton, List.append_assoc, List.cons_append]

/-! ## Surroundings -/

/-- **What a notation may stand between**: texts without digits that touch it with no letter or
number. -/
structure Surrounds (before after : List Char) : Prop where
  /-- What stands before holds no digit. -/
  before_digits : ∀ c ∈ before, c.isDigit = false
  /-- What stands before ends in no letter or number. -/
  before_free : Free before.reverse
  /-- What stands after holds no digit. -/
  after_digits : ∀ c ∈ after, c.isDigit = false
  /-- What stands after begins with no letter or number. -/
  after_free : Free after

namespace Surrounds

variable {inner pre piece post : List Char}

/-- **No phrase that stands free begins in what stands before**: its first die would have its
digits there, or be touched there. -/
theorem length_le (h : Surrounds before after) (hstands : Stands pre piece post)
    (htext : before ++ inner = pre ++ (piece ++ post)) : before.length ≤ pre.length := by
  obtain ⟨⟨die, further, rfl, hdie, -⟩, -, -⟩ := hstands
  rcases List.append_eq_append_iff.1 htext with ⟨gap, rfl, -⟩ | ⟨cut, rfl, hcut⟩
  · rw [List.length_append]
    exact Nat.le_add_right _ _
  by_cases hnil : cut = []
  · refine Nat.le_of_eq ?_
    rw [hnil, List.append_nil]
  exfalso
  rw [List.append_assoc] at hcut
  rcases List.append_eq_append_iff.1 hcut with ⟨tail, rfl, -⟩ | ⟨tail, rfl, -⟩
  · obtain ⟨c, hc, hdigit⟩ := hdie.exists_isDigit
    have hnone := h.before_digits c (List.mem_append_right _ (List.mem_append_left _ hc))
    rw [hdigit] at hnone
    cases hnone
  · -- the die begins in what stands before and goes on behind it
    have hall := (operand_alphanumeric (.inl hdie)).2
    rw [List.all_append, Bool.and_eq_true] at hall
    obtain ⟨c, front, hc⟩ := List.exists_cons_of_ne_nil fun h => hnil (List.reverse_eq_nil_iff.1 h)
    have hmem : c ∈ cut := List.mem_reverse.1 (by rw [hc]; exact List.mem_cons_self)
    have hfree := h.before_free
    rw [List.reverse_append, hc] at hfree
    have hletter : isAlphanumeric c = false := hfree
    rw [List.all_eq_true.1 hall.1 c hmem] at hletter
    cases hletter

/-- **No phrase ends in what stands after**, since it ends in a digit. -/
theorem stop_le (h : Surrounds before after) (hpiece : IsPhrase piece)
    (htext : inner ++ after = pre ++ (piece ++ post)) :
    pre.length + piece.length ≤ inner.length := by
  obtain ⟨front, c, rfl, hdigit⟩ := hpiece.exists_concat
  have hmem : c ∉ after := fun hc => by
    rw [h.after_digits c hc] at hdigit
    cases hdigit
  rw [List.append_assoc, ← List.append_assoc] at htext
  rcases List.append_eq_append_iff.1 htext with ⟨gap, -, rfl⟩ | ⟨tail, rfl, htail⟩
  · exact absurd (List.mem_append_right _ List.mem_cons_self) hmem
  · cases tail with
    | nil =>
      obtain rfl : [c] ++ post = after := htail
      exact absurd List.mem_cons_self hmem
    | cons d tail =>
      simp only [List.length_append, List.length_cons, List.length_nil]
      omega

/-- **Every phrase that stands free lies inside the notation.** -/
theorem inside (h : Surrounds before after) {start stop : Nat}
    (hoccurs : Occurs (before ++ (inner ++ after)) start stop) :
    before.length ≤ start ∧ stop ≤ before.length + inner.length := by
  obtain ⟨pre, piece, post, hstands, htext, rfl, rfl⟩ := occurs_iff.1 hoccurs
  refine ⟨h.length_le hstands htext, ?_⟩
  rw [← List.append_assoc] at htext
  have hstop := h.stop_le hstands.phrase htext
  rwa [List.length_append] at hstop

end Surrounds

/-! ## The notation is found -/

/-- A list of spans that all are one, apart from each other, is that one. -/
theorem eq_singleton_of_forall {xs : List Span} {x : Span}
    (hapart : xs.Pairwise fun x y => x.start < y.start ∧ x.stop ≤ y.start) (hmem : x ∈ xs)
    (hall : ∀ y ∈ xs, y = x) : xs = [x] := by
  cases xs with
  | nil => cases hmem
  | cons y ys =>
    obtain rfl := hall y List.mem_cons_self
    refine congrArg (y :: ·) (List.eq_nil_iff_forall_not_mem.2 fun z hz => ?_)
    have hlt := ((List.pairwise_cons.1 hapart).1 z hz).1
    rw [hall z (List.mem_cons_of_mem _ hz)] at hlt
    exact Nat.lt_irrefl _ hlt

/-- **A phrase with such surroundings is the one span** of the whole text. -/
theorem spans_embedded {p t s : String} (h : Surrounds p.toList s.toList)
    (ht : IsPhrase t.toList) : spans (p ++ t ++ s) = [⟨p.length, t.toList⟩] := by
  have htext : (p ++ t ++ s).toList = p.toList ++ (t.toList ++ s.toList) := by
    rw [String.toList_append, String.toList_append, List.append_assoc]
  have hoccurs : Occurs (p ++ t ++ s).toList p.toList.length
      (p.toList.length + t.toList.length) :=
    occurs_iff.2 ⟨_, _, _, ⟨ht, h.before_free, h.after_free⟩, htext, rfl, rfl⟩
  have hinside {x : Span} (hx : x ∈ spans (p ++ t ++ s)) : p.toList.length ≤ x.start ∧
      x.stop ≤ p.toList.length + t.toList.length :=
    h.inside (htext ▸ (occurs_of_mem_spans hx).1)
  -- the span that the notation lies inside lies inside the notation
  obtain ⟨x, hx, hstart, hstop⟩ := exists_span_of_occurs hoccurs
  have hstart' : x.start = p.toList.length := Nat.le_antisymm hstart (hinside hx).1
  have hstop' : x.stop = p.toList.length + t.toList.length := Nat.le_antisymm (hinside hx).2 hstop
  have hchars : x.chars = t.toList := by
    rw [(occurs_of_mem_spans hx).2, hstart', hstop', htext, ← List.append_assoc,
      slice_append_append]
  have hone : ∀ y ∈ spans (p ++ t ++ s), y = x := by
    intro y hy
    obtain ⟨hlow, hhigh⟩ := hinside hy
    refine eq_of_mem_spans hy hx (occurs_of_mem_spans hy).1.lt ⟨Nat.le_refl _, Nat.le_refl _⟩ ?_
    rw [hstart', hstop']
    exact ⟨hlow, hhigh⟩
  have hsingle : spans (p ++ t ++ s) = [x] :=
    eq_singleton_of_forall (pairwise_spansFrom passed_nil) hx hone
  rw [hsingle, ← String.length_toList, ← hstart', ← hchars]

/-- **A compact notation is found whole** between texts that hold no digits and touch it with no
letter or number: it is the one span, and it is what can be rolled, as the expression that it is
read as. The canonical form of every expression within the limits is such a notation. -/
theorem embedded_found (limits : Limits) {p s : String} (h : Surrounds p.toList s.toList) :
    (∀ t e, Expression.parse limits t = .ok e → IsCompact t.toList →
      spans (p ++ t ++ s) = [⟨p.length, t.toList⟩] ∧
        rollable limits (p ++ t ++ s) = [(⟨p.length, t.toList⟩, e)]) ∧
      ∀ e : Expression, (∀ g ∈ e.groups, g.Within limits) →
        e.modifier.natAbs ≤ limits.maxModifier →
          IsCompact e.canonical.toList ∧ ∃ e', Expression.parse limits e.canonical = .ok e' := by
  refine ⟨fun t e hparse hcompact => ?_, fun e => exists_parse_canonical⟩
  have hspans := spans_embedded h ((isCompact_iff_of_parse hparse).1 hcompact)
  refine ⟨hspans, ?_⟩
  have htext : Span.text ⟨p.length, t.toList⟩ = t := String.ofList_toList
  rw [rollable, hspans, List.filterMap_cons, htext, hparse]
  rfl

/-- Letters of dice and signs stand on either side of a notation, and are no part of it. -/
theorem embedded_found_among_signs :
    let p := "+d d - "
    let t := "2d6 + 3"
    let s := " - d!"
    let e : Expression := ⟨[⟨2, 6⟩], by decide, 3, t⟩
    Surrounds p.toList s.toList ∧ Expression.parse {} t = .ok e ∧ IsCompact t.toList ∧
      spans (p ++ t ++ s) = [⟨7, t.toList⟩] ∧ rollable {} (p ++ t ++ s) = [(⟨7, t.toList⟩, e)] := by
  intro p t s e
  have hbefore : beginsWith isAlphanumeric p.toList.reverse = false := by decide
  have hafter : beginsWith isAlphanumeric s.toList = false := by decide
  have hdigits {cs : List Char} (h : cs.any Char.isDigit = false) : ∀ c ∈ cs, c.isDigit = false :=
    fun c hc => Bool.eq_false_iff.2 (List.any_eq_false.1 h c hc)
  have hsurrounds : Surrounds p.toList s.toList :=
    ⟨hdigits (by decide), hbefore, hdigits (by decide), hafter⟩
  have hlength : p.length = 7 := by decide
  have hparse : Expression.parse {} t = .ok e := by decide +kernel
  have hcanonical : e.canonical = t := by decide +kernel
  obtain ⟨hfound, hwithin⟩ := embedded_found {} hsurrounds
  have hcompact : IsCompact t.toList :=
    hcanonical ▸ (hwithin e (by decide) (by decide)).1
  rw [← hlength]
  exact ⟨hsurrounds, hparse, hcompact, hfound t e hparse hcompact⟩

end Tabletop.Prose
