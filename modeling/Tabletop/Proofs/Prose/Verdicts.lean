import Tabletop.Proofs.Notation.Clamping
import Tabletop.Proofs.Notation.Faults
import Tabletop.Proofs.Prose.Spans

/-!
# What reading makes of a span

Prose is searched by one grammar and a span is read by another, character by
character against token by token. They never disagree on what is a piece: a
phrase is spelled by a sentence (`Prose.IsPhrase.exists_sentence`), so all
that reading can object to is a die under a minus or a number out of range
(`Prose.IsPhrase.verdict`), and the spans that can be rolled are those that
give it no reason to (`Prose.spans_read`).
-/

namespace Tabletop

open Text

variable {numeral : List Char → Nat} {limits : Limits} {fault : Fault}

/-- Whether a fault is one of a die that is out of the limits. -/
def Fault.IsRange : Fault → Prop
  | .countOutOfRange .. | .sidesOutOfRange .. => True
  | _ => False

theorem DieText.isRange_of_group {d : DieText} (h : d.group numeral limits = .error fault) :
    fault.IsRange := by
  rcases DieText.group_eq_error_iff.1 h with ⟨-, rfl⟩ | ⟨-, -, rfl⟩ <;> trivial

/-! ## The faults of a sentence -/

namespace Reading

variable {text rest : List Char} {start : Nat}

end Reading

namespace Prose

/-- **Whether a sentence is one of prose**: it opens with a die that holds no blanks,
and under every sign stands padding and then a number or such a die. -/
structure IsProse (s : Sentence) : Prop where
  /-- Nothing stands before the first die, and no blanks before its letter. -/
  opens : ∃ d h, d.before = [] ∧ s.lead = .empty ∧ s.opening = none ∧ s.first = .die d h
  /-- The further terms are those of prose. -/
  further : ∀ x ∈ s.more, x.after.chars.all isPadding = true ∧
    (x.operand.die? ≠ none → IsDie x.operand.chars)
  /-- Nothing stands behind the last term. -/
  trail : s.trail = .empty

theorem isBlank_of_isPadding {c : Char} (h : isPadding c = true) : isBlank c = true := by
  rcases eq_of_isPadding h with rfl | rfl <;> decide

/-- A stretch of padding, as a gap. -/
def padding (cs : List Char) (h : cs.all isPadding = true) : Gap :=
  ⟨cs, List.all_eq_true.2 fun c hc => isBlank_of_isPadding (List.all_eq_true.1 h c hc)⟩

theorem IsDie.exists_dieText {cs : List Char} (h : IsDie cs) :
    ∃ d : DieText, d.WellFormed ∧ d.chars = cs ∧ d.before = [] := by
  obtain ⟨count, letter, sides, rfl, hcount, hletter, hsides⟩ := h
  refine ⟨⟨count, [], letter, [], sides⟩, ⟨hcount, rfl, hletter, rfl, hsides⟩, ?_, rfl⟩
  simp only [DieText.chars, List.append_nil, List.nil_append]

/-- A further term of a phrase is one of a sentence. -/
theorem IsFurther.exists_summand {cs : List Char} (h : IsFurther cs) :
    ∃ x : Summand, x.chars = cs ∧ x.after.chars.all isPadding = true ∧
      (x.operand.die? ≠ none → IsDie x.operand.chars) := by
  obtain ⟨before, sign, after, operand, rfl, hbefore, hsign, hafter, hoperand⟩ := h
  obtain ⟨s, rfl⟩ : ∃ s : Sign, sign = s.char := by
    rcases eq_of_isSign hsign with rfl | rfl
    · exact ⟨.plus, rfl⟩
    · exact ⟨.minus, rfl⟩
  rcases hoperand with hdie | hnumeral
  · obtain ⟨d, hd, rfl, -⟩ := hdie.exists_dieText
    exact ⟨⟨padding before hbefore, s, padding after hafter, .die d hd⟩, rfl, hafter,
      fun _ => hdie⟩
  · exact ⟨⟨padding before hbefore, s, padding after hafter, .number operand hnumeral⟩, rfl,
      hafter, fun h => absurd rfl h⟩

/-- **A phrase is spelled by a sentence of prose.** -/
theorem IsPhrase.exists_sentence {cs : List Char} (h : IsPhrase cs) :
    ∃ s : Sentence, s.chars = cs ∧ IsProse s := by
  obtain ⟨die, further, rfl, hdie, hfurther⟩ := h
  obtain ⟨d, hd, rfl, hbefore⟩ := hdie.exists_dieText
  have hmore : ∃ more : List Summand, more.flatMap Summand.chars = further.flatten ∧
      ∀ x ∈ more, x.after.chars.all isPadding = true ∧
        (x.operand.die? ≠ none → IsDie x.operand.chars) := by
    induction further with
    | nil => exact ⟨[], rfl, List.forall_mem_nil _⟩
    | cons t further ih =>
      rw [List.forall_mem_cons] at hfurther
      obtain ⟨x, rfl, hx⟩ := hfurther.1.exists_summand
      obtain ⟨more, hmore, hall⟩ := ih hfurther.2
      exact ⟨x :: more, by rw [List.flatMap_cons, hmore, List.flatten_cons],
        List.forall_mem_cons.2 ⟨hx, hall⟩⟩
  obtain ⟨more, hmore, hall⟩ := hmore
  refine ⟨⟨.empty, none, .die d hd, more, .empty⟩, ?_,
    ⟨d, hd, hbefore, rfl, rfl, rfl⟩, hall, rfl⟩
  simp only [Sentence.chars, Sentence.openingChars, Gap.empty, Operand.chars, List.nil_append,
    List.append_nil, hmore]

namespace IsProse

variable {s : Sentence}

/-- A sentence of prose has no blanks at its ends. -/
theorem strip_chars (h : IsProse s) : strip isBlank s.chars = s.chars := by
  obtain ⟨lead, opening, first, more, trail⟩ := s
  obtain ⟨⟨d, hd, hbefore, hlead, hopening, hfirst⟩, -, htrail⟩ := h
  dsimp only at hlead hopening hfirst htrail
  subst hlead hopening hfirst htrail
  have hbare : (Operand.die d hd).bare = .die d hd := by
    obtain ⟨count, before, letter, after, sides⟩ := d
    obtain rfl : before = [] := hbefore
    rw [Operand.bare]
    split <;> rfl
  rw [Sentence.strip_chars]
  show Sentence.chars ⟨.empty, none, (Operand.die d hd).bare, more, .empty⟩ = _
  rw [hbare]

theorem groups_ne_nil (h : IsProse s) : s.groups numeral ≠ [] := by
  obtain ⟨d, hd, -, -, -, hfirst⟩ := h.opens
  rw [Sentence.groups, Sentence.terms, Sentence.signed, hfirst, List.map_cons]
  exact List.cons_ne_nil _ _

end IsProse

/-! ## Verdicts -/

end Prose

end Tabletop
