/-!
# Limits

How many dice a group may roll, how many sides a die may have, and how
far the modifier may lie from zero. The least count is always one and the
least number of sides two; the limits themselves may be any integers, and
a limit below those leaves no group in range.
-/

namespace Tabletop

/-- **The limits** that an expression is read under. -/
structure Limits where
  /-- The greatest count of a group. -/
  maxCount : Int := 100
  /-- The greatest number of sides of a die. -/
  maxSides : Int := 1000
  /-- The greatest distance of the modifier from zero. -/
  maxModifier : Int := 9999
deriving DecidableEq

end Tabletop
