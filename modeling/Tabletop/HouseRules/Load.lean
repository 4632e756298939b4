import Tabletop.HouseRules.Basic
import Tabletop.HouseRules.Number
import Tabletop.HouseRules.Variables

/-!
# House rules from variables

House rules are set by variables of the environment and of a file, and the
environment has precedence. Variables that name no rule have no effect,
and a rule that no variable sets keeps its default.

A value that cannot be read, or that lies below the least admissible
number, is a problem of its rule. All problems are reported together.
-/

namespace Tabletop.HouseRules

/-- **What is wrong with a value.** -/
inductive Problem
  /-- It is no whole number. -/
  | noNumber
  /-- It is too long to be read as a whole number. -/
  | longNumber
  /-- It lies below the least admissible number. -/
  | tooSmall
  /-- It is no truth value. -/
  | noTruth
  /-- It is none of the admissible words. -/
  | noChoice
deriving DecidableEq

namespace Problem

/-- The word for a problem. -/
def name : Problem → String
  | noNumber => "int_parsing"
  | longNumber => "int_parsing_size"
  | tooSmall => "greater_than_equal"
  | noTruth => "bool_parsing"
  | noChoice => "literal_error"

/-- The problem of a value that is no number. -/
def ofNumberFault : NumberFault → Problem
  | .malformed => noNumber
  | .tooLong => longNumber

end Problem

/-- **The rules that a variable can set.** -/
inductive Field
  /-- What a critical hit does. -/
  | criticalPolicy
  /-- Whether check dice are rolled plainly only. -/
  | enforceEligibility
  /-- The size of the journal. -/
  | historySize
  /-- How much is logged. -/
  | logLevel
  /-- The greatest count. -/
  | maxCount
  /-- The greatest modifier. -/
  | maxModifier
  /-- The greatest number of sides. -/
  | maxSides
deriving DecidableEq

namespace Field

/-- The word for a rule. -/
def name : Field → String
  | criticalPolicy => "critical_policy"
  | enforceEligibility => "enforce_roll_type_eligibility"
  | historySize => "history_size"
  | logLevel => "log_level"
  | maxCount => "max_count"
  | maxModifier => "max_modifier"
  | maxSides => "max_sides"

/-- The variable that sets a rule, in lowered letters. -/
def key (f : Field) : String :=
  "dice_" ++ f.name

end Field

/-- The truth value that a value says, in letters of either case. -/
def truth? (value : String) : Option Bool :=
  let word := Variables.lowered value
  if ["1", "true", "t", "yes", "y", "on"].contains word then some true
  else if ["0", "false", "f", "no", "n", "off"].contains word then some false
  else none

/-- A value of some rule, or the problem of that rule. -/
abbrev Checked (α : Type) := Except (Field × Problem) α

/-- The problem of a value, if it has one. -/
def problems {α : Type} : Checked α → List (Field × Problem)
  | .error p => [p]
  | .ok _ => []

/-- A number for a rule that is no less than `least`, with `default` where no
variable sets it. -/
def checkNumber (vars : Variables) (f : Field) (least default : Int) (h : least ≤ default) :
    Checked { n : Int // least ≤ n } :=
  match vars.find? f.key with
  | none => .ok ⟨default, h⟩
  | some value =>
    match number value with
    | .error fault => .error (f, .ofNumberFault fault)
    | .ok n => if h : least ≤ n then .ok ⟨n, h⟩ else .error (f, .tooSmall)

/-- A truth value for a rule. -/
def checkTruth (vars : Variables) (f : Field) (default : Bool) : Checked Bool :=
  match vars.find? f.key with
  | none => .ok default
  | some value =>
    match truth? value with
    | none => .error (f, .noTruth)
    | some b => .ok b

/-- The policy on critical hits. -/
def checkPolicy (vars : Variables) (f : Field) (default : CriticalPolicy) :
    Checked CriticalPolicy :=
  match vars.find? f.key with
  | none => .ok default
  | some value =>
    match CriticalPolicy.ofName? value with
    | none => .error (f, .noChoice)
    | some policy => .ok policy

/-- **The rules that variables set**, or the problems of all rules that have
one, in the order of their words. -/
def ofVariables (vars : Variables) : Except (List (Field × Problem)) HouseRules :=
  let policy := checkPolicy vars .criticalPolicy .double
  let eligibility := checkTruth vars .enforceEligibility true
  let size := checkNumber vars .historySize 1 50 (by decide)
  let count := checkNumber vars .maxCount 1 100 (by decide)
  let modifier := checkNumber vars .maxModifier 0 9999 (by decide)
  let sides := checkNumber vars .maxSides 2 1000 (by decide)
  match policy, eligibility, size, count, modifier, sides with
  | .ok policy, .ok eligibility, .ok size, .ok count, .ok modifier, .ok sides =>
    .ok
      { maxCount := count
        maxSides := sides
        maxModifier := modifier
        criticalPolicy := policy
        enforceEligibility := eligibility
        historySize := size
        logLevel := (vars.find? Field.logLevel.key).getD "INFO"
        one_le_maxCount := count.2
        two_le_maxSides := sides.2
        zero_le_maxModifier := modifier.2
        one_le_historySize := size.2 }
  | _, _, _, _, _, _ =>
    .error (problems policy ++ problems eligibility ++ problems size ++ problems count ++
      problems modifier ++ problems sides)

/-- **The rules of a house with this environment and this file.** -/
def load (environment : Variables) (file : String) : Except (List (Field × Problem)) HouseRules :=
  ofVariables (Variables.ofFile environment file ++ environment)

end Tabletop.HouseRules
