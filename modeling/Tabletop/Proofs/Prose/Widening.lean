import Tabletop.Proofs.Prose.Verdicts

/-!
# Wider limits

Limits are looked at while a text is read, token by token, and reading stops
at the first fault. So with wider limits it may go on into a part of the text
that was never looked at before, and what is found there may be anything. Only
a fault that quotes a limit can be lifted in this way. All else stands: an
expression, and every other fault (`Limits.Within.keeps_readings`).

A result **persists** if it is the same under the wider limits, unless it is a
fault that quotes a limit (`Reading.Persists`). This is the invariant of the
run under both limits at once: what is done with results that persist persists
(`Reading.Persists.bind`), and so does a step, a run, and a conclusion.
-/

namespace Tabletop

/-- **Whether limits lie within others**: no maximum is greater than the other one. -/
structure Limits.Within (limits wider : Limits) : Prop where
  /-- The greatest counts. -/
  count : limits.maxCount ≤ wider.maxCount
  /-- The greatest numbers of sides. -/
  sides : limits.maxSides ≤ wider.maxSides
  /-- The greatest distances of the modifier from zero. -/
  modifier : limits.maxModifier ≤ wider.maxModifier

/-- **Whether a fault quotes a limit**: that of a count, of a number of sides, or of the
modifier. -/
def Fault.QuotesLimit : Fault → Prop
  | .countOutOfRange .. | .sidesOutOfRange .. | .modifierOutOfRange .. => True
  | _ => False

theorem Fault.IsRange.quotesLimit {fault : Fault} (h : fault.IsRange) : fault.QuotesLimit := by
  cases fault with
  | countOutOfRange => trivial
  | sidesOutOfRange => trivial
  | _ => cases h

variable {numeral : List Char → Nat} {limits wider : Limits}

theorem Group.Within.mono {g : Group} (hg : g.Within limits) (h : limits.Within wider) :
    g.Within wider :=
  ⟨⟨hg.1.1, Int.le_trans hg.1.2 h.count⟩, hg.2.1, Int.le_trans hg.2.2 h.sides⟩

namespace Reading

/-! ## Results that persist -/

/-- **A result persists** if the other one is the same, unless it is a fault that quotes a
limit. -/
def Persists {α : Type} (x x' : Except Fault α) : Prop :=
  x' = x ∨ ∃ fault, x = .error fault ∧ fault.QuotesLimit

/-- **What is done with results that persist persists**, if it does for what they give. -/
theorem Persists.bind {α β : Type} {x x' : Except Fault α} {f f' : α → Except Fault β}
    (h : Persists x x') (hf : ∀ a, Persists (f a) (f' a)) : Persists (x >>= f) (x' >>= f') := by
  rcases h with rfl | ⟨fault, rfl, hfault⟩
  · cases x' with
    | error fault => exact .inl rfl
    | ok a => exact hf a
  · exact .inr ⟨fault, rfl, hfault⟩

/-! ## Reading under both limits -/

theorem group_persists (h : limits.Within wider) (d : DieText) :
    Persists (d.group numeral limits) (d.group numeral wider) := by
  cases hgroup : d.group numeral limits with
  | error fault => exact .inr ⟨fault, rfl, (DieText.isRange_of_group hgroup).quotesLimit⟩
  | ok g =>
    obtain ⟨hwithin, hg⟩ := DieText.group_eq_ok_iff.1 hgroup
    exact .inl (DieText.group_eq_ok_iff.2 ⟨hwithin.mono h, hg⟩)

variable {text : List Char}

/-- **A step persists**: it looks at the limits only for the group of a die. -/
theorem step_persists (h : limits.Within wider) (before : Preceding) (t : Token) :
    Persists (step numeral limits text before t) (step numeral wider text before t) := by
  obtain ⟨start, lexeme⟩ := t
  cases lexeme with
  | die d =>
    have hgroup : Persists
        (do return (some (Term.dice (← d.group numeral limits)), Preceding.term))
        (do return (some (Term.dice (← d.group numeral wider)), Preceding.term)) :=
      (group_persists h d).bind fun _ => .inl rfl
    cases before with
    | nothing => exact hgroup
    | term => exact .inl rfl
    | sign position s =>
      cases s with
      | plus => exact hgroup
      | minus => exact .inl rfl
  | stray word => exact .inl rfl
  | sign s => cases before <;> exact .inl rfl
  | number digits => cases before <;> exact .inl rfl

/-- **A run persists.** -/
theorem run_persists (h : limits.Within wider) (before : Preceding) (ts : List Token) :
    Persists (run numeral limits text before ts) (run numeral wider text before ts) := by
  induction ts generalizing before with
  | nil => exact .inl rfl
  | cons t ts ih =>
    exact (step_persists h before t).bind fun stepped =>
      (ih stepped.2).bind fun _ => .inl rfl

/-- **A conclusion persists**: a modifier within limits is within wider ones. -/
theorem conclude_persists (h : limits.Within wider) (terms : List Term) (last : Preceding) :
    Persists (conclude limits text terms last) (conclude wider text terms last) := by
  cases hconclude : conclude limits text terms last with
  | ok e =>
    obtain ⟨hlast, hgroups, hle, hsays⟩ := conclude_eq_ok_iff.1 hconclude
    exact .inl (conclude_eq_ok_iff.2 ⟨hlast, hgroups, Int.le_trans hle h.modifier, hsays⟩)
  | error fault =>
    rcases conclude_eq_error_iff.1 hconclude with hwaits | hnone | ⟨-, -, -, rfl⟩
    · exact .inl (conclude_eq_error_iff.2 (.inl hwaits))
    · exact .inl (conclude_eq_error_iff.2 (.inr (.inl hnone)))
    · exact .inr ⟨_, rfl, trivial⟩

end Reading

namespace Expression

/-- **Reading persists.** -/
theorem read_persists (h : limits.Within wider) (text : String) :
    Reading.Persists (read numeral limits text) (read numeral wider text) := by
  unfold read
  dsimp only
  split
  · exact .inl rfl
  · exact (Reading.run_persists h _ _).bind fun ran => Reading.conclude_persists h ran.1 ran.2

/-- What is read of a text persists. -/
theorem parse_persists (h : limits.Within wider) (text : String) :
    Reading.Persists (parse limits text) (parse wider text) :=
  read_persists h text

theorem parse_of_within (h : limits.Within wider) {text : String} {e : Expression}
    (he : parse limits text = .ok e) : parse wider text = .ok e := by
  have hread := parse_persists h text
  rw [he] at hread
  rcases hread with hsame | ⟨fault, hfault, -⟩
  · exact hsame
  · cases hfault

end Expression

namespace Prose

/-- **What can be rolled under limits** can be rolled under wider ones, in the same order. -/
theorem rollable_sublist_of_within (h : limits.Within wider) (text : String) :
    (rollable limits text).Sublist (rollable wider text) := by
  unfold rollable
  induction spans text with
  | nil => exact List.Sublist.refl _
  | cons x xs ih =>
    rw [List.filterMap_cons, List.filterMap_cons]
    cases hparse : Expression.parse limits x.text with
    | ok e =>
      rw [Expression.parse_of_within h hparse]
      exact ih.cons_cons _
    | error fault =>
      cases Expression.parse wider x.text with
      | ok e => exact ih.cons _
      | error fault' => exact ih

end Prose

namespace Limits

/-- **Wider limits keep what is read.** A text that has no fault which quotes a limit is read
as before, as the same expression or with the same fault. So every expression that is read
under the limits is read under wider ones, and what can be rolled in a text can be rolled
under wider ones, each span with its expression and in the same order. -/
theorem Within.keeps_readings (h : limits.Within wider) (text : String) :
    ((∀ fault, Expression.parse limits text = .error fault → ¬fault.QuotesLimit) →
        Expression.parse wider text = Expression.parse limits text) ∧
      (∀ e, Expression.parse limits text = .ok e → Expression.parse wider text = .ok e) ∧
      (Prose.rollable limits text).Sublist (Prose.rollable wider text) := by
  refine ⟨fun hfaults => ?_, fun e => Expression.parse_of_within h,
    Prose.rollable_sublist_of_within h text⟩
  rcases Expression.parse_persists h text with hsame | ⟨fault, hfault, hquotes⟩
  · exact hsame
  · exact absurd hquotes (hfaults fault hfault)

/-- Where dice may have a hundred sides instead of twenty, a second span can be rolled, and the
text as a whole has the fault that it had. -/
theorem keeps_readings_with_more_sides :
    let narrow : Limits := { maxSides := 20 }
    let wide : Limits := { maxSides := 100 }
    let text := "2d6+1 then d100"
    narrow.Within wide ∧ Expression.parse narrow text = .error (.malformed "then") ∧
      Expression.parse wide text = Expression.parse narrow text ∧
      (Prose.rollable narrow text).Sublist (Prose.rollable wide text) ∧
      (Prose.rollable narrow text).length = 1 ∧ (Prose.rollable wide text).length = 2 := by
  intro narrow wide text
  have hwithin : narrow.Within wide := ⟨by decide, by decide, by decide⟩
  have hparse : Expression.parse narrow text = .error (.malformed "then") := by decide +kernel
  obtain ⟨hsame, -, hrolls⟩ := Within.keeps_readings hwithin text
  refine ⟨hwithin, hparse, hsame ?_, hrolls, by decide +kernel, by decide +kernel⟩
  intro fault hfault hquotes
  rw [hparse] at hfault
  cases hfault
  exact hquotes

end Limits

end Tabletop
