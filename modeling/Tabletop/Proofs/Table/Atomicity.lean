import Tabletop.Proofs.Table.Course
import Tabletop.Roll.Script

/-!
# Calls are all or nothing

A call that is refused leaves the journal as it was, at whatever point it
was refused: for its notation, its mode, its identifier or its number, or
since the source failed at some die of the roll. And a call asks the
source for a die only if nothing speaks against it (`Session.MayAsk`);
every other call leaves the source and its tape alone, and the calls that
only look leave the whole session as it was (`Session.call_atomic`).

All of it is read off the courses that a call can take. What remains is
which rollings are **idle**, that is leave the tape alone: one in no known
mode, and a recast that is plain or not possible.
-/

namespace Tabletop

/-! ## Rolling that asks nothing -/

namespace Rolling

variable {σ α : Type} {action : Rolling σ α} {t t' : Tape σ}

/-- **A rolling is idle** if it leaves every tape as it was. -/
def Idle (action : Rolling σ α) : Prop :=
  ∀ t, (action.run.run t).2 = t

theorem Idle.eq_of_gives {a : α} (h : Idle action) (hgives : Gives action t a t') : t' = t :=
  (congrArg Prod.snd hgives).symm.trans (h t)

theorem Idle.eq_of_fails {error : RollError} (h : Idle action) (hfails : Fails action t error t') :
    t' = t :=
  (congrArg Prod.snd hfails).symm.trans (h t)

end Rolling

open Rolling

/-- **Whether two modes exclude each other**: one is a critical hit and the other has
bonus dice. -/
def Mode.Excludes (a b : Mode) : Prop :=
  (a = .critical ∧ (b = .advantage ∨ b = .disadvantage)) ∨
    ((a = .advantage ∨ a = .disadvantage) ∧ b = .critical)

instance (a b : Mode) : Decidable (a.Excludes b) :=
  inferInstanceAs (Decidable (_ ∨ _))

variable {σ : Type} [Source σ]

/-- What is to be rolled in no known mode is not rolled. -/
theorem Expression.idle_rollAs {e : Expression} {named : Value} {policy : CriticalPolicy}
    (h : Mode.ofValue? named = none) : Idle (e.rollAs named policy : Rolling σ Roll) := by
  unfold rollAs
  rw [h]
  exact fun _ => rfl

namespace Roll

variable {r : Roll} {mode : Mode} {named : Value} {policy : CriticalPolicy} {t t' : Tape σ}

/-- **A roll can become one of another mode**, unless the two exclude each other. -/
theorem canBecome_iff : r.canBecome mode = true ↔ mode ≠ r.mode ∧ ¬r.mode.Excludes mode := by
  unfold canBecome
  generalize r.mode = own
  cases own <;> cases mode <;> decide

theorem idle_recast_of_not (h : r.canBecome mode = false) :
    Idle (r.recast mode policy : Rolling σ (Option Roll)) := by
  unfold recast
  rw [h, if_neg Bool.false_ne_true]
  exact fun _ => rfl

theorem idle_recast_normal : Idle (r.recast .normal policy : Rolling σ (Option Roll)) := by
  unfold recast
  split
  · exact fun _ => rfl
  · exact fun _ => rfl

/-- **What is to be recast is not rolled again** if no known mode is named, or it is the
plain mode, or the roll has it already, or it excludes that of the roll. -/
theorem idle_recastAs (h : ∀ mode, Mode.ofValue? named = some mode →
      mode = .normal ∨ mode = r.mode ∨ r.mode.Excludes mode) :
    Idle (r.recastAs named policy : Rolling σ (Option Roll)) := by
  unfold recastAs
  split
  · next mode hmode =>
    by_cases hnormal : mode = .normal
    · rw [hnormal]
      exact idle_recast_normal
    · refine idle_recast_of_not (Bool.eq_false_iff.2 fun hcan => ?_)
      obtain ⟨hne, hexcludes⟩ := canBecome_iff.1 hcan
      exact (h mode hmode).elim hnormal fun h => h.elim hne hexcludes
  · exact fun _ => rfl

/-- A roll that is kept is not rolled again. -/
theorem eq_of_gives_none (h : Gives (r.recastAs named policy) t none t') : t' = t := by
  unfold recastAs at h
  split at h
  · next mode _ =>
    unfold recast at h
    split at h
    · obtain ⟨parts, -, hnone⟩ := gives_map.1 h
      cases hnone
    · exact (gives_pure.1 h).2
  · exact absurd h not_gives_throw

end Roll

/-! ## Calls -/

namespace Session

/-- Whether a mode is open to an expression under house rules. -/
def IsEligible (rules : HouseRules) (e : Expression) (mode : Mode) : Prop :=
  rules.enforceEligibility = true → e.allows (some mode) = true

/-- **Whether a call may ask the source for a die**: a roll of a valid notation in a known
mode that is open to it, or a recast of a roll that is held, to a known mode that is open
to it, is not the plain one nor that of the roll, and does not exclude it. -/
def MayAsk (rules : HouseRules) (s : Session σ) : Call → Prop
  | .roll text named _ => ∃ e mode, Expression.parse rules.limits text = .ok e ∧
      Mode.ofValue? named = some mode ∧ IsEligible rules e mode
  | .recast id named => ∃ record mode, s.journal.find? id = some record ∧
      Mode.ofValue? named = some mode ∧ IsEligible rules record.roll.expression mode ∧
        mode ≠ .normal ∧ mode ≠ record.roll.mode ∧ ¬record.roll.mode.Excludes mode
  | _ => False

variable {rules : HouseRules} {s s' : Session σ} {c : Call} {outcome : Except Refusal Answer}

omit [Source σ] in
theorem isEligible_of_forbids {e : Expression} {named : Value} {mode : Mode}
    (hforbids : forbids rules e named = false) (hmode : Mode.ofValue? named = some mode) :
    IsEligible rules e mode := by
  intro henforce
  unfold forbids at hforbids
  rw [henforce, hmode, Bool.true_and, Bool.not_eq_false'] at hforbids
  exact hforbids

theorem idle_of_not_mayAsk_roll {text : String} {named context : Value} {e : Expression}
    (hparse : Expression.parse rules.limits text = .ok e)
    (hforbids : forbids rules e named = false) (h : ¬MayAsk rules s (.roll text named context)) :
    Idle (e.rollAs named rules.criticalPolicy : Rolling σ Roll) := by
  refine Expression.idle_rollAs (Option.eq_none_iff_forall_not_mem.2 fun mode hmode => h ?_)
  exact ⟨e, mode, hparse, hmode, isEligible_of_forbids hforbids hmode⟩

/-- A recast that may not ask the source is idle. -/
theorem idle_of_not_mayAsk_recast {id : String} {named : Value} {record : Record}
    (hfind : s.journal.find? id = some record)
    (hforbids : forbids rules record.roll.expression named = false)
    (h : ¬MayAsk rules s (.recast id named)) :
    Idle (record.roll.recastAs named rules.criticalPolicy : Rolling σ (Option Roll)) := by
  refine Roll.idle_recastAs fun mode hmode => ?_
  by_contra hopen
  rw [not_or, not_or] at hopen
  exact h ⟨record, mode, hfind, hmode, isEligible_of_forbids hforbids hmode, hopen⟩

/-- **A call that is refused leaves the journal as it was.** -/
theorem Course.journal_eq {refusal : Refusal} (h : Course rules s c (.error refusal) s') :
    s'.journal = s.journal := by
  cases h <;> rfl

/-- **A call that may not ask the source** leaves it and its tape as they were. -/
theorem Course.tape_eq (h : Course rules s c outcome s') (hask : ¬MayAsk rules s c) :
    s'.tape = s.tape := by
  cases h with
  | rollFailed hparse hforbids hroll =>
    exact (idle_of_not_mayAsk_roll hparse hforbids hask).eq_of_fails hroll
  | rolled hparse hforbids hroll =>
    exact (idle_of_not_mayAsk_roll hparse hforbids hask).eq_of_gives hroll
  | recastFailed hfind hforbids hroll =>
    exact (idle_of_not_mayAsk_recast hfind hforbids hask).eq_of_fails hroll
  | kept hfind hforbids hroll =>
    exact (idle_of_not_mayAsk_recast hfind hforbids hask).eq_of_gives hroll
  | recast hfind hforbids hroll =>
    exact (idle_of_not_mayAsk_recast hfind hforbids hask).eq_of_gives hroll
  | _ => rfl

/-- **A call that keeps a roll as it is** leaves the session as it was. -/
theorem Course.eq_of_kept {id : String} {report : Report}
    (h : Course rules s c (.ok (.kept id report)) s') : s' = s := by
  cases h with
  | kept hfind hforbids hroll =>
    unfold rolledOn
    rw [Roll.eq_of_gives_none hroll]

/-- **Whether a call only looks**: it checks a notation, finds notations or lists
records. -/
def Looks : Call → Prop
  | .check _ | .find _ | .recall _ => True
  | _ => False

/-- A call that only looks leaves the session as it was. -/
theorem Course.eq_of_looks (h : Course rules s c outcome s') (hlooks : Looks c) : s' = s := by
  cases h with
  | valid | invalid | found | recalled | negativeLimit => rfl
  | _ => exact absurd hlooks id

/-- **Calls are all or nothing.** A call that is refused leaves every record of the
journal in its place. The source is asked for a die only by a call that may ask for one;
all others leave the source and its tape as they were. A call that only looks, and a
recast that keeps the roll as it is, leave the whole session as it was. Clearing and
making a roll plain leave the source and its tape. -/
theorem call_atomic (rules : HouseRules) (s : Session σ) (c : Call) :
    let outcome := (s.call rules c).1
    let after := (s.call rules c).2
    (∀ refusal, outcome = .error refusal → after.journal = s.journal) ∧
      (¬MayAsk rules s c → after.tape = s.tape) ∧
      (Looks c → after = s) ∧
      (∀ id report, outcome = .ok (.kept id report) → after = s) ∧
      (c = .clear ∨ (∃ id, c = .recast id Mode.normal.value) → after.tape = s.tape) := by
  intro outcome after
  have hcourse : Course rules s c outcome after := course_call rules s c
  refine ⟨fun refusal h => ?_, hcourse.tape_eq, hcourse.eq_of_looks, fun id report h => ?_,
    fun h => hcourse.tape_eq fun hask => ?_⟩
  · rw [h] at hcourse
    exact hcourse.journal_eq
  · rw [h] at hcourse
    exact hcourse.eq_of_kept
  · rcases h with rfl | ⟨id, rfl⟩
    · exact hask
    · obtain ⟨record, mode, -, hmode, -, hnormal, -⟩ := hask
      rw [Mode.ofValue?_value] at hmode
      exact hnormal (Option.some.inj hmode).symm

/-- A roll of two dice is refused at its second die, where the source has no further
reply, after both were asked for; the roll of one die before it stays on record. -/
theorem call_atomic_of_exhausted_source :
    let rules : HouseRules := {}
    let source := Script.replies [.value (.whole 2), .value (.whole 5)]
    let s := ((start rules idOf source).call rules (.roll "d6" Mode.normal.value .nothing)).2
    let c : Call := .roll "2d6" Mode.normal.value .nothing
    (s.call rules c).1 = .error (.roll (.sourceFailed 6 "script exhausted")) ∧
      (s.call rules c).2.journal = s.journal ∧ s.journal.size = 1 ∧
      (s.call rules c).2.tape.asked = #[⟨1, 6⟩, ⟨1, 6⟩, ⟨1, 6⟩] := by
  intro rules source s c
  have hone : Expression.parse rules.limits "d6" = .ok ⟨[⟨1, 6⟩], by decide, 0, "d6"⟩ := by
    decide +kernel
  have htwo : Expression.parse rules.limits "2d6" = .ok ⟨[⟨2, 6⟩], by decide, 0, "2d6"⟩ := by
    decide +kernel
  have hs : s = _ := congrArg Prod.snd (call_roll hone rfl)
  have hnumber : Text.whole? 6 = some "6" := if_pos (by decide +kernel)
  have hraised : (RollError.sourceFailed 6 "script exhausted").raised =
      .sourceFailed 6 "script exhausted" :=
    RollError.raised_eq_self (by rw [RollError.message?, hnumber, Option.map_some])
  have hrefused : (s.call rules c).1 = .error (.roll (.sourceFailed 6 "script exhausted")) := by
    rw [call_roll htwo rfl, hs, ← hraised]
    rfl
  refine ⟨hrefused, (call_atomic rules s c).1 _ hrefused, ?_, ?_⟩
  · rw [hs]
    rfl
  · rw [call_roll htwo rfl, hs]
    rfl

end Session

end Tabletop
