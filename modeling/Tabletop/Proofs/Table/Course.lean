import Tabletop.Proofs.Roll.Outcome
import Tabletop.Table.Session

/-!
# The course of a call

`Course` lists all that can happen in a call: which conditions lead there,
what is answered or refused, and what the session is like afterwards. A
call takes exactly one of these courses (`Session.call_eq_iff`), so what
is to be shown of calls is shown course by course, and the code that
answers a call is not opened again.

In every course but three the journal stays as it was: a roll and a recast
that succeed enter one record, and clearing removes all of them.
-/

namespace Tabletop.Session

variable {σ : Type}

/-- The session after rolling, which moves nothing but the tape. -/
def rolledOn (s : Session σ) (tape : Tape σ) : Session σ :=
  { s with tape := tape }

/-- **The session after a roll was recorded** under the next identifier. -/
def recorded (s : Session σ) (roll : Roll) (context : Value) (tape : Tape σ) : Session σ where
  ids := s.ids
  journal := s.journal.enter ⟨s.ids (s.entered + 1), roll, context⟩
  entered := s.entered + 1
  tape := tape

/-- The session after its journal was cleared. -/
def cleared (s : Session σ) : Session σ :=
  { s with journal := s.journal.clear }

variable [Source σ]

/-- **What can happen in a call** to a session under house rules. -/
inductive Course (rules : HouseRules) (s : Session σ) :
    Call → Except Refusal Answer → Session σ → Prop
  /-- A roll is refused for the fault of its notation. -/
  | malformed {text : String} {mode context : Value} {fault : Fault}
      (hparse : Expression.parse rules.limits text = .error fault) :
      Course rules s (.roll text mode context) (.error (.fault fault (hintTexts text))) s
  /-- A roll is refused for its mode. -/
  | ineligibleRoll {text : String} {mode context : Value} {e : Expression}
      (hparse : Expression.parse rules.limits text = .ok e)
      (hforbids : forbids rules e mode = true) :
      Course rules s (.roll text mode context) (.error (.ineligibleRoll mode)) s
  /-- A roll fails. -/
  | rollFailed {text : String} {mode context : Value} {e : Expression} {error : RollError}
      {tape : Tape σ} (hparse : Expression.parse rules.limits text = .ok e)
      (hforbids : forbids rules e mode = false)
      (hroll : (e.rollAs mode rules.criticalPolicy).Fails s.tape error tape) :
      Course rules s (.roll text mode context) (.error (.roll error)) (s.rolledOn tape)
  /-- A roll is made and recorded. -/
  | rolled {text : String} {mode context : Value} {e : Expression} {roll : Roll}
      {tape : Tape σ} (hparse : Expression.parse rules.limits text = .ok e)
      (hforbids : forbids rules e mode = false)
      (hroll : (e.rollAs mode rules.criticalPolicy).Gives s.tape roll tape) :
      Course rules s (.roll text mode context)
        (.ok (.rolled (s.ids (s.entered + 1)) roll.report)) (s.recorded roll context tape)
  /-- A recast is refused for its identifier. -/
  | unknownRoll {id : String} {mode : Value} (hfind : s.journal.find? id = none) :
      Course rules s (.recast id mode) (.error (.unknownRoll id)) s
  /-- A recast is refused for its mode. -/
  | ineligibleRecast {id : String} {mode : Value} {record : Record}
      (hfind : s.journal.find? id = some record)
      (hforbids : forbids rules record.roll.expression mode = true) :
      Course rules s (.recast id mode) (.error (.ineligibleRecast mode)) s
  /-- A recast fails. -/
  | recastFailed {id : String} {mode : Value} {record : Record} {error : RollError}
      {tape : Tape σ} (hfind : s.journal.find? id = some record)
      (hforbids : forbids rules record.roll.expression mode = false)
      (hroll : (record.roll.recastAs mode rules.criticalPolicy).Fails s.tape error tape) :
      Course rules s (.recast id mode) (.error (.roll error)) (s.rolledOn tape)
  /-- A roll is kept as it is. -/
  | kept {id : String} {mode : Value} {record : Record} {tape : Tape σ}
      (hfind : s.journal.find? id = some record)
      (hforbids : forbids rules record.roll.expression mode = false)
      (hroll : (record.roll.recastAs mode rules.criticalPolicy).Gives s.tape none tape) :
      Course rules s (.recast id mode) (.ok (.kept id record.roll.report)) (s.rolledOn tape)
  /-- A recast is made and recorded, with the occasion of the roll. -/
  | recast {id : String} {mode : Value} {record : Record} {roll : Roll} {tape : Tape σ}
      (hfind : s.journal.find? id = some record)
      (hforbids : forbids rules record.roll.expression mode = false)
      (hroll : (record.roll.recastAs mode rules.criticalPolicy).Gives s.tape (some roll) tape) :
      Course rules s (.recast id mode)
        (.ok (.recast (s.ids (s.entered + 1)) roll.report)) (s.recorded roll record.context tape)
  /-- A notation is found valid. -/
  | valid {text : String} {e : Expression}
      (hparse : Expression.parse rules.limits text = .ok e) :
      Course rules s (.check text) (.ok (.valid e.summary)) s
  /-- A notation is found at fault. -/
  | invalid {text : String} {fault : Fault}
      (hparse : Expression.parse rules.limits text = .error fault) :
      Course rules s (.check text) (.ok (.invalid (fault.diagnosis text))) s
  /-- The notations in a text are found. -/
  | found {text : String} :
      Course rules s (.find text) (.ok (.found ((Prose.spans text).map Span.text))) s
  /-- Records are listed. -/
  | recalled {limit : Option Int} {records : List Record}
      (hnewest : s.journal.newest? limit = some records) :
      Course rules s (.recall limit) (.ok (.records (records.map Record.listing))) s
  /-- A negative number of records is refused. -/
  | negativeLimit {limit : Option Int} (hnewest : s.journal.newest? limit = none) :
      Course rules s (.recall limit) (.error .negativeLimit) s
  /-- The journal is cleared. -/
  | cleared : Course rules s .clear (.ok .cleared) s.cleared

variable {rules : HouseRules} {s s' : Session σ} {c : Call} {outcome : Except Refusal Answer}

/-- **A call takes some course.** -/
theorem exists_course (rules : HouseRules) (s : Session σ) (c : Call) :
    ∃ outcome s', Course rules s c outcome s' := by
  match c with
  | .roll text mode context =>
    cases hparse : Expression.parse rules.limits text with
    | error fault => exact ⟨_, _, .malformed hparse⟩
    | ok e =>
      cases hforbids : forbids rules e mode with
      | true => exact ⟨_, _, .ineligibleRoll hparse hforbids⟩
      | false =>
        obtain ⟨roll, tape, hroll⟩ | ⟨error, tape, hroll⟩ :=
          Rolling.gives_or_fails (e.rollAs mode rules.criticalPolicy) s.tape
        · exact ⟨_, _, .rolled hparse hforbids hroll⟩
        · exact ⟨_, _, .rollFailed hparse hforbids hroll⟩
  | .recast id mode =>
    cases hfind : s.journal.find? id with
    | none => exact ⟨_, _, .unknownRoll hfind⟩
    | some record =>
      cases hforbids : forbids rules record.roll.expression mode with
      | true => exact ⟨_, _, .ineligibleRecast hfind hforbids⟩
      | false =>
        obtain ⟨result, tape, hroll⟩ | ⟨error, tape, hroll⟩ :=
          Rolling.gives_or_fails (record.roll.recastAs mode rules.criticalPolicy) s.tape
        · cases result with
          | none => exact ⟨_, _, .kept hfind hforbids hroll⟩
          | some roll => exact ⟨_, _, .recast hfind hforbids hroll⟩
        · exact ⟨_, _, .recastFailed hfind hforbids hroll⟩
  | .check text =>
    cases hparse : Expression.parse rules.limits text with
    | error fault => exact ⟨_, _, .invalid hparse⟩
    | ok e => exact ⟨_, _, .valid hparse⟩
  | .find text => exact ⟨_, _, .found⟩
  | .recall limit =>
    cases hnewest : s.journal.newest? limit with
    | none => exact ⟨_, _, .negativeLimit hnewest⟩
    | some records => exact ⟨_, _, .recalled hnewest⟩
  | .clear => exact ⟨_, _, .cleared⟩

section Stages

variable {α β : Type} {step : Step σ α} {next : α → Step σ β}

omit [Source σ] in
theorem run_bind_of_ok {a : α} (h : step.run.run s = (.ok a, s')) :
    (step >>= next).run.run s = (next a).run.run s' := by
  show (ExceptT.bindCont next (step.run.run s).1).run (step.run.run s).2 = _
  rw [h]
  rfl

omit [Source σ] in
theorem run_bind_of_error {refusal : Refusal} (h : step.run.run s = (.error refusal, s')) :
    (step >>= next).run.run s = (.error refusal, s') := by
  show (ExceptT.bindCont next (step.run.run s).1).run (step.run.run s).2 = _
  rw [h]
  rfl

omit [Source σ] in
theorem run_get_bind {next : Session σ → Step σ β} :
    (get >>= next).run.run s = (next s).run.run s :=
  run_bind_of_ok rfl

variable {action : Rolling σ α} {tape : Tape σ}

omit [Source σ] in
theorem run_rolling_of_gives {a : α} (h : action.Gives s.tape a tape) :
    (rolling action).run.run s = (.ok a, s.rolledOn tape) := by
  unfold rolling
  rw [run_get_bind, show action.run.run s.tape = _ from h]
  rfl

omit [Source σ] in
theorem run_rolling_of_fails {error : RollError} (h : action.Fails s.tape error tape) :
    (rolling action).run.run s = (.error (.roll error), s.rolledOn tape) := by
  unfold rolling
  rw [run_get_bind, show action.run.run s.tape = _ from h]
  rfl

end Stages

/-- A roll that may be made is rolled, recorded and answered. -/
theorem call_roll {text : String} {mode context : Value} {e : Expression}
    (hparse : Expression.parse rules.limits text = .ok e)
    (hforbids : forbids rules e mode = false) :
    s.call rules (.roll text mode context) =
      (do
        let roll ← rolling (e.rollAs mode rules.criticalPolicy)
        let id ← enter roll context
        return .rolled id roll.report : Step σ Answer).run.run s := by
  show (rollText rules text mode context).run.run s = _
  unfold rollText
  rw [hparse]
  dsimp only
  rw [hforbids, if_neg Bool.false_ne_true]

/-- A recast that may be made is rolled, and recorded unless the roll is kept. -/
theorem call_recast {id : String} {mode : Value} {record : Record}
    (hfind : s.journal.find? id = some record)
    (hforbids : forbids rules record.roll.expression mode = false) :
    s.call rules (.recast id mode) =
      (do
        match ← rolling (record.roll.recastAs mode rules.criticalPolicy) with
        | none => return .kept id record.roll.report
        | some roll =>
          let id ← enter roll record.context
          return .recast id roll.report : Step σ Answer).run.run s := by
  show (recastRecord rules id mode).run.run s = _
  unfold recastRecord
  have hmay : ¬forbids rules record.roll.expression mode = true := by
    rw [hforbids]
    exact Bool.false_ne_true
  rw [run_get_bind, hfind]
  exact congrArg (fun step : Step σ Answer => step.run.run s) (if_neg hmay)

/-- **The course of a call decides** its outcome and the session after it. -/
theorem Course.call_eq (h : Course rules s c outcome s') : s.call rules c = (outcome, s') := by
  cases h with
  | @malformed text mode context fault hparse =>
    show (rollText rules text mode context).run.run s = _
    unfold rollText
    rw [hparse]
    rfl
  | @ineligibleRoll text mode context e hparse hforbids =>
    show (rollText rules text mode context).run.run s = _
    unfold rollText
    rw [hparse]
    dsimp only
    rw [if_pos hforbids]
    rfl
  | rollFailed hparse hforbids hroll =>
    rw [call_roll hparse hforbids, run_bind_of_error (run_rolling_of_fails hroll)]
  | rolled hparse hforbids hroll =>
    rw [call_roll hparse hforbids, run_bind_of_ok (run_rolling_of_gives hroll)]
    rfl
  | @unknownRoll id mode hfind =>
    show (recastRecord rules id mode).run.run s = _
    unfold recastRecord
    rw [run_get_bind, hfind]
    rfl
  | @ineligibleRecast id mode record hfind hforbids =>
    show (recastRecord rules id mode).run.run s = _
    unfold recastRecord
    rw [run_get_bind, hfind]
    dsimp only
    rw [if_pos hforbids]
    rfl
  | recastFailed hfind hforbids hroll =>
    rw [call_recast hfind hforbids, run_bind_of_error (run_rolling_of_fails hroll)]
  | kept hfind hforbids hroll =>
    rw [call_recast hfind hforbids, run_bind_of_ok (run_rolling_of_gives hroll)]
    rfl
  | recast hfind hforbids hroll =>
    rw [call_recast hfind hforbids, run_bind_of_ok (run_rolling_of_gives hroll)]
    rfl
  | @valid text e hparse =>
    show (answer rules (.check text)).run.run s = _
    unfold answer
    dsimp only
    rw [hparse]
    rfl
  | @invalid text fault hparse =>
    show (answer rules (.check text)).run.run s = _
    unfold answer
    dsimp only
    rw [hparse]
    rfl
  | found => rfl
  | @recalled limit records hnewest =>
    show (answer rules (.recall limit)).run.run s = _
    unfold answer
    dsimp only
    rw [run_get_bind, hnewest]
    rfl
  | @negativeLimit limit hnewest =>
    show (answer rules (.recall limit)).run.run s = _
    unfold answer
    dsimp only
    rw [run_get_bind, hnewest]
    rfl
  | cleared => rfl

/-- **A call takes exactly the courses** that its outcome and the session after it
come from. -/
theorem call_eq_iff : s.call rules c = (outcome, s') ↔ Course rules s c outcome s' := by
  constructor
  · intro h
    obtain ⟨outcome', s'', hcourse⟩ := exists_course rules s c
    cases hcourse.call_eq.symm.trans h
    exact hcourse
  · exact Course.call_eq

/-- The course that a call takes. -/
theorem course_call (rules : HouseRules) (s : Session σ) (c : Call) :
    Course rules s c (s.call rules c).1 (s.call rules c).2 :=
  call_eq_iff.1 rfl

theorem course_of_outcome (h : (s.call rules c).1 = outcome) :
    Course rules s c outcome (s.call rules c).2 :=
  call_eq_iff.1 (Prod.ext h rfl)

/-- **An identifier is refused as unknown** exactly if no record has it. -/
theorem unknownRoll_iff {id : String} {mode : Value} :
    (s.call rules (.recast id mode)).1 = .error (.unknownRoll id) ↔ s.journal.find? id = none := by
  constructor
  · intro h
    have hcourse := course_call rules s (.recast id mode)
    rw [h] at hcourse
    generalize (s.call rules (.recast id mode)).2 = s' at hcourse
    cases hcourse with
    | unknownRoll hfind => exact hfind
  · intro hfind
    rw [(Course.unknownRoll hfind).call_eq]

end Tabletop.Session
