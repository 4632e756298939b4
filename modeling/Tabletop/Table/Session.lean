import Tabletop.Advice.Hint
import Tabletop.HouseRules.Basic
import Tabletop.Notation.Prose
import Tabletop.Roll.Casting
import Tabletop.Table.Call

/-!
# A session at the table

A session has one journal and one source of randomness, and answers calls
one after the other under fixed house rules. Rolls are numbered in the
order in which they enter the journal, and the numbers go on when records
are dropped or cleared. What identifier a number gets is settled when the
session starts; nothing here takes two of them to be different.

A call that is refused leaves the journal as it was. What it asked of the
source before it was refused stays asked.
-/

namespace Tabletop

/-- **A session.** -/
structure Session (σ : Type) where
  /-- The identifiers of the rolls that enter the journal, by their numbers. -/
  ids : Nat → String
  /-- The rolls on record. -/
  journal : Journal
  /-- How many rolls have entered the journal so far. -/
  entered : Nat := 0
  /-- The source, and what was asked of it. -/
  tape : Tape σ

/-- A step of a session: an answer or a refusal, and the session after it. -/
abbrev Session.Step (σ : Type) := ExceptT Refusal (StateM (Session σ))

namespace Session

variable {σ : Type}

/-- **A new session** under house rules, with identifiers to give out. -/
def start (rules : HouseRules) (ids : Nat → String) (source : σ) : Session σ where
  ids := ids
  journal := .empty rules.historySize.toNat (by have := rules.one_le_historySize; omega)
  tape := ⟨source, #[]⟩

/-- Identifiers that tell the numbers of the rolls. -/
def idOf (n : Nat) : String :=
  "r" ++ toString n

/-- Rolls on the source of the session. -/
def rolling {α : Type} (action : Rolling σ α) : Step σ α := do
  let s ← get
  let (result, tape) := action.run.run s.tape
  set { s with tape := tape }
  match result with
  | .ok a => return a
  | .error e => throw (.roll e)

/-- Records a roll and gives the identifier that it gets. -/
def enter (roll : Roll) (context : Value) : Step σ String := do
  let s ← get
  let id := s.ids (s.entered + 1)
  set { s with journal := s.journal.enter ⟨id, roll, context⟩, entered := s.entered + 1 }
  return id

/-- Whether the house rules keep an expression from a mode. -/
def forbids (rules : HouseRules) (e : Expression) (mode : Value) : Bool :=
  rules.enforceEligibility && !e.allows (Mode.ofValue? mode)

variable [Source σ]

/-- Rolls a notation and records the roll. -/
def rollText (rules : HouseRules) (text : String) (mode context : Value) : Step σ Answer := do
  match Expression.parse rules.limits text with
  | .error fault => throw (.fault fault (hintTexts text))
  | .ok e =>
    if forbids rules e mode then throw (.ineligibleRoll mode)
    else
      let roll ← rolling (e.rollAs mode rules.criticalPolicy)
      let id ← enter roll context
      return .rolled id roll.report

/-- Turns a recorded roll into one of a mode, and records the outcome under the
same occasion. -/
def recastRecord (rules : HouseRules) (id : String) (mode : Value) : Step σ Answer := do
  match (← get).journal.find? id with
  | none => throw (.unknownRoll id)
  | some record =>
    if forbids rules record.roll.expression mode then throw (.ineligibleRecast mode)
    else
      match ← rolling (record.roll.recastAs mode rules.criticalPolicy) with
      | none => return .kept id record.roll.report
      | some roll =>
        let id ← enter roll record.context
        return .recast id roll.report

/-- **Answers a call**, or refuses it. -/
def answer (rules : HouseRules) : Call → Step σ Answer
  | .roll text mode context => rollText rules text mode context
  | .recast id mode => recastRecord rules id mode
  | .check text =>
    match Expression.parse rules.limits text with
    | .ok e => return .valid e.summary
    | .error fault => return .invalid (fault.diagnosis text)
  | .find text => return .found ((Prose.spans text).map Span.text)
  | .recall limit => do
    match (← get).journal.newest? limit with
    | some records => return .records (records.map Record.listing)
    | none => throw .negativeLimit
  | .clear => do
    modify fun s => { s with journal := s.journal.clear }
    return .cleared

/-- **A session goes on**: the outcome of a call and the session after it. -/
def call (rules : HouseRules) (s : Session σ) (c : Call) : Except Refusal Answer × Session σ :=
  (answer rules c).run.run s

end Session

end Tabletop
