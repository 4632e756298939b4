import Tabletop.Advice.Hint
import Tabletop.Journal
import Tabletop.Notation.Fault
import Tabletop.Notation.Spread
import Tabletop.Roll.Report

/-!
# Calls at the table

What can be asked of a table, what it answers, and why it may refuse.
-/

namespace Tabletop

/-- **What is asked of a table.** Modes are named by values, which need not
name one. -/
inductive Call
  /-- Roll a notation in a mode, and record the roll with its occasion. -/
  | roll (text : String) (mode context : Value)
  /-- Turn a recorded roll into one of a mode, and record the outcome. -/
  | recast (id : String) (mode : Value)
  /-- Check a notation without rolling it. -/
  | check (text : String)
  /-- Find the notations in a text. -/
  | find (text : String)
  /-- List the newest records, all or as many as given. -/
  | recall (limit : Option Int)
  /-- Forget all records. -/
  | clear

/-- **What is told of a notation that was found valid.** -/
structure Summary where
  /-- The canonical form of the expression. -/
  canonical : String
  /-- Its groups. -/
  groups : List Group
  /-- Its modifier. -/
  modifier : Int
  /-- The lowest total. -/
  lowest : Int
  /-- The highest total. -/
  highest : Int
  /-- The mean total. -/
  mean : Text.Decimal

/-- What is told of an expression. -/
def Expression.summary (e : Expression) : Summary where
  canonical := e.canonical
  groups := e.groups
  modifier := e.modifier
  lowest := e.lowest
  highest := e.highest
  mean := e.mean

/-- **What is told of a notation that was found at fault.** -/
structure Diagnosis where
  /-- The code of the fault. -/
  code : String
  /-- The remark on it. -/
  message : String
  /-- The hints on the text. -/
  hints : List String

/-- What is told of a text with a fault. -/
def Fault.diagnosis (fault : Fault) (text : String) : Diagnosis where
  code := fault.code
  message := fault.remark
  hints := hintTexts text

/-- **What is listed of a record.** -/
structure Listing where
  /-- What the record is called. -/
  id : String
  /-- What was said of the occasion. -/
  context : Value
  /-- The report of the roll. -/
  report : Report

/-- What is listed of a record. -/
def Record.listing (r : Record) : Listing where
  id := r.id
  context := r.context
  report := r.roll.report

/-- **What a table answers.** -/
inductive Answer
  /-- The roll, as recorded under an identifier. -/
  | rolled (id : String) (report : Report)
  /-- The roll that was turned into another one, recorded under an
  identifier. -/
  | recast (id : String) (report : Report)
  /-- The roll as it was, since it cannot become one of that mode. -/
  | kept (id : String) (report : Report)
  /-- What a valid notation says. -/
  | valid (summary : Summary)
  /-- What is wrong with a notation. -/
  | invalid (diagnosis : Diagnosis)
  /-- The notations that were found. -/
  | found (texts : List String)
  /-- The records that were asked for. -/
  | records (listings : List Listing)
  /-- The journal is empty now. -/
  | cleared

/-- What a table says when its journal was cleared. -/
def Answer.clearedMessage : String := "Roll history cleared."

/-- **Why a table refuses a call.** -/
inductive Refusal
  /-- The text is no notation; there are hints on it. -/
  | fault (fault : Fault) (hints : List String)
  /-- A check die may not be rolled in this mode. -/
  | ineligibleRoll (mode : Value)
  /-- The roll of a check die may not be turned into one of this mode. -/
  | ineligibleRecast (mode : Value)
  /-- No record has this identifier. -/
  | unknownRoll (id : String)
  /-- The dice could not be rolled. -/
  | roll (error : RollError)
  /-- A negative number of records was asked for. -/
  | negativeLimit

namespace Refusal

/-- Why a mode is refused for a check die, if it can be written. -/
def ineligible? (mode : Value) : Option String :=
  mode.plain?.map fun word =>
    s!"[INELIGIBLE_ROLL_TYPE] '{word}' cannot be applied when the base die is a d20."

/-- **The message of a refusal.** -/
def message : Refusal → String
  | fault f hints => f.message ++ " " ++ " ".intercalate hints
  | ineligibleRoll mode =>
    ((ineligible? mode).map fun why => why ++ " Example: '2d12+3' with advantage.").getD
      Text.tooManyDigits
  | ineligibleRecast mode => (ineligible? mode).getD Text.tooManyDigits
  | unknownRoll id => s!"[UNKNOWN_ROLL] No roll with id '{id}' in history."
  | roll error => error.message
  | negativeLimit => Journal.limitMessage

end Refusal

end Tabletop
