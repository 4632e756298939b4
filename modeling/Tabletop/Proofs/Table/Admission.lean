import Tabletop.Proofs.Notation.Canonical
import Tabletop.Proofs.Roll.Policy
import Tabletop.Proofs.Table.Atomicity
import Tabletop.Proofs.Table.History

/-!
# All records obey the house rules

A record enters a journal as a roll of a notation or as a recast of a record
that is held, and each is checked in its own way: only the notation is read
under the limits, and a recast starts from whatever the older roll has
become by then. The house rules hold of all records nevertheless
(`Session.run_admits`): the expression is within the limits, the parts are
those that the mode and the policy ask for, and where eligibility is
enforced a check die is rolled plainly.

It is one invariant of a session, which every course of a call keeps
(`Session.Course.admits`). Of a record that is recast it gives just what the
recast needs: the limits, since the expression stays, and the declared
dice, since the parts have the shape of some mode.
-/

namespace Tabletop

/-- **Whether house rules admit a roll** to the journal. -/
structure HouseRules.Admits (rules : HouseRules) (r : Roll) : Prop where
  /-- Its groups are within the limits. -/
  groups : ∀ g ∈ r.expression.groups, g.Within rules.limits
  /-- So is its modifier. -/
  modifier : r.expression.modifier.natAbs ≤ rules.limits.maxModifier
  /-- Its parts are those of its mode, and on a critical hit those that the policy of the
  house asks for. -/
  made : r.MadeUnder rules.criticalPolicy
  /-- A check die is rolled plainly, if eligibility is enforced. -/
  eligible : rules.enforceEligibility = true → r.mode ≠ .normal → r.expression.first.sides ≠ 20

namespace Session

variable {σ : Type} [Source σ] {rules : HouseRules} {s s' : Session σ} {c : Call}
  {outcome : Except Refusal Answer}

/-- **Whether house rules admit all records** of a session. -/
def Admits (rules : HouseRules) (s : Session σ) : Prop :=
  ∀ record ∈ s.journal.records, rules.Admits record.roll

omit [Source σ] in
/-- An expression in a mode that is open to it is no check die, or the mode is the plain
one. -/
theorem IsEligible.sides_ne {e : Expression} {mode : Mode} (h : IsEligible rules e mode) :
    rules.enforceEligibility = true → mode ≠ .normal → e.first.sides ≠ 20 := by
  intro henforce hmode
  have hallows := h henforce
  unfold Expression.allows at hallows
  rw [Bool.or_eq_true, decide_eq_true_eq, decide_eq_true_eq, Option.some.injEq] at hallows
  exact hallows.resolve_left hmode

/-- **A roll of a notation is admitted.** -/
theorem admits_of_gives_rollAs {text : String} {named : Value} {e : Expression} {r : Roll}
    {t t' : Tape σ} (hparse : Expression.parse rules.limits text = .ok e)
    (hforbids : forbids rules e named = false)
    (hroll : (e.rollAs named rules.criticalPolicy).Gives t r t') : rules.Admits r := by
  obtain ⟨hgroups, hmodifier⟩ := Expression.within_of_parse hparse
  obtain ⟨rfl, hmode, hmade⟩ := Roll.madeUnder_of_gives_rollAs
    (fun g hg => Int.le_trans (by decide) (hgroups g hg).1.1) hroll
  exact ⟨hgroups, hmodifier, hmade, (isEligible_of_forbids hforbids hmode).sides_ne⟩

/-- **A recast of a roll that is admitted is admitted.** -/
theorem admits_of_gives_recastAs {named : Value} {r r' : Roll} {t t' : Tape σ}
    (hr : rules.Admits r) (hforbids : forbids rules r.expression named = false)
    (hroll : (r.recastAs named rules.criticalPolicy).Gives t (some r') t') : rules.Admits r' := by
  obtain ⟨hexpression, hmode, hmade⟩ := hr.made.of_gives_recastAs hroll
  rw [← hexpression] at hforbids
  refine ⟨?_, ?_, hmade, (isEligible_of_forbids hforbids hmode).sides_ne⟩
  · rw [hexpression]
    exact hr.groups
  · rw [hexpression]
    exact hr.modifier

omit [Source σ] in
theorem Admits.recorded (h : Admits rules s) {r : Roll} (hr : rules.Admits r) (context : Value)
    (tape : Tape σ) : Admits rules (s.recorded r context tape) := by
  intro record hrecord
  rcases List.mem_cons.1 (List.mem_of_mem_take hrecord) with rfl | hold
  · exact hr
  · exact h record hold

omit [Source σ] in
theorem Admits.of_find? (h : Admits rules s) {id : String} {record : Record}
    (hfind : s.journal.find? id = some record) : rules.Admits record.roll :=
  h record (List.mem_of_find?_eq_some hfind)

/-- **Every course of a call leaves all records admitted.** -/
theorem Course.admits (h : Admits rules s) (hcourse : Course rules s c outcome s') :
    Admits rules s' := by
  -- only a roll and a recast that were made enter a record
  cases hcourse with
  | rolled hparse hforbids hroll =>
    exact h.recorded (admits_of_gives_rollAs hparse hforbids hroll) _ _
  | recast hfind hforbids hroll =>
    exact h.recorded (admits_of_gives_recastAs (h.of_find? hfind) hforbids hroll) _ _
  | cleared => exact List.forall_mem_nil _
  | _ => exact h

/-- **A run leaves all records admitted.** -/
theorem Admits.run (h : Admits rules s) (calls : List Call) :
    Admits rules (s.run rules calls).2 := by
  induction calls generalizing s with
  | nil => exact h
  | cons c calls ih => exact ih ((course_call rules s c).admits h)

/-- **All records of a session obey the house rules**, after whatever calls: the groups
and the modifier are within the limits, the parts are those that the mode and the policy
of the house ask for, all dice show one of their faces, and where eligibility is enforced
a check die was rolled in no mode but the plain one. -/
theorem run_admits (rules : HouseRules) (ids : Nat → String) (source : σ) (calls : List Call) :
    ∀ record ∈ ((start rules ids source).run rules calls).2.journal.records,
      rules.Admits record.roll ∧ ∀ p ∈ record.roll.parts, p.Fits := by
  have hstart : Admits rules (start rules ids source) := List.forall_mem_nil _
  intro record hrecord
  have hadmits := hstart.run calls record hrecord
  exact ⟨hadmits, hadmits.made.shape.fits⟩

/-- A die is rolled plainly and then recast to a critical hit, which grants it its second
set. -/
theorem run_admits_granted_set :
    let rules : HouseRules := { criticalPolicy := .maxFace }
    let source := Script.replies [.value (.whole 2)]
    let calls : List Call := [.roll "d6" Mode.normal.value .nothing,
      .recast (idOf 1) Mode.critical.value]
    let record : Record := ⟨idOf 2, ⟨⟨[⟨1, 6⟩], by decide, 0, "d6"⟩, .critical,
      [.critical ⟨1, 6⟩ [⟨6, .number 2⟩] 6]⟩, .nothing⟩
    record ∈ ((start rules idOf source).run rules calls).2.journal.records ∧
      rules.Admits record.roll ∧ ∀ p ∈ record.roll.parts, p.Fits := by
  intro rules source calls record
  have hparse : Expression.parse rules.limits "d6" = .ok ⟨[⟨1, 6⟩], by decide, 0, "d6"⟩ := by
    decide +kernel
  let e : Expression := ⟨[⟨1, 6⟩], by decide, 0, "d6"⟩
  let plain : Roll := ⟨e, .normal, [.plain ⟨1, 6⟩ [⟨6, .number 2⟩]]⟩
  let tape : Tape Script := ⟨.replies [], #[⟨1, 6⟩]⟩
  let s : Session Script := (start rules idOf source).recorded plain .nothing tape
  have hrolled : (start rules idOf source).call rules (.roll "d6" Mode.normal.value .nothing) =
      (.ok (.rolled (idOf 1) plain.report), s) := Course.call_eq (.rolled hparse rfl rfl)
  have hfind : s.journal.find? (idOf 1) = some ⟨idOf 1, plain, .nothing⟩ :=
    List.find?_cons_of_pos (beq_self_eq_true (idOf 1))
  have hrecast : s.call rules (.recast (idOf 1) Mode.critical.value) =
      (.ok (.recast (idOf 2) record.roll.report), s.recorded record.roll .nothing tape) :=
    Course.call_eq (.recast hfind rfl rfl)
  have hmem : record ∈ ((start rules idOf source).run rules calls).2.journal.records := by
    simp only [calls, Session.run, hrolled, hrecast]
    exact List.mem_cons_self
  exact ⟨hmem, run_admits rules idOf source calls record hmem⟩

end Session

end Tabletop
