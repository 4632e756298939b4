import Tabletop.Notation.Limits
import Tabletop.Roll.Mode

/-!
# House rules

What a table is run by: the limits on expressions, what a critical hit
does, whether check dice may take a mode, the size of the journal, and how
much is logged. The limits of the house leave at least one die in range,
and its journal holds at least one roll.
-/

namespace Tabletop

/-- **The rules of a house.** -/
structure HouseRules where
  /-- The greatest count of a group. -/
  maxCount : Int := 100
  /-- The greatest number of sides of a die. -/
  maxSides : Int := 1000
  /-- The greatest distance of the modifier from zero. -/
  maxModifier : Int := 9999
  /-- What a critical hit does to the first group. -/
  criticalPolicy : CriticalPolicy := .double
  /-- Whether an expression that begins with a die of twenty sides is rolled
  plainly only. -/
  enforceEligibility : Bool := true
  /-- How many rolls the journal holds. -/
  historySize : Int := 50
  /-- How much is logged. -/
  logLevel : String := "INFO"
  /-- A single die is in range. -/
  one_le_maxCount : 1 ≤ maxCount := by decide
  /-- A die of two sides is in range. -/
  two_le_maxSides : 2 ≤ maxSides := by decide
  /-- A modifier of zero is in range. -/
  zero_le_maxModifier : 0 ≤ maxModifier := by decide
  /-- The journal holds a roll. -/
  one_le_historySize : 1 ≤ historySize := by decide

/-- The limits on expressions. -/
def HouseRules.limits (rules : HouseRules) : Limits :=
  ⟨rules.maxCount, rules.maxSides, rules.maxModifier⟩

end Tabletop
