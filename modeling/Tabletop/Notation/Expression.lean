/-!
# Expressions

What a notation says: the groups of dice to be rolled, in order, and one
number to be added to their sum. An expression also keeps the text it was
read from, which plays no part in its meaning. Its **canonical form** is
the one way in which it is written by the library itself.
-/

namespace Tabletop

/-- **A group of equal dice.** -/
structure Group where
  /-- How many dice are rolled. -/
  count : Int
  /-- How many sides each die has. -/
  sides : Int
deriving DecidableEq

namespace Group

/-- A group with its count always written, as in `1d20`. -/
def full (g : Group) : String :=
  toString g.count ++ "d" ++ toString g.sides

/-- A group with a count of one left out, as in `d20`. -/
def short (g : Group) : String :=
  if g.count = 1 then "d" ++ toString g.sides else g.full

end Group

/-- **A dice expression**: at least one group, and a modifier. -/
structure Expression where
  /-- The groups, in the order in which they are rolled. -/
  groups : List Group
  /-- There is something to roll. -/
  groups_ne_nil : groups ≠ []
  /-- What is added to the sum of the dice. -/
  modifier : Int
  /-- The text it was read from. -/
  text : String
deriving DecidableEq

namespace Expression

/-- The group that an expression begins with. -/
def first (e : Expression) : Group :=
  e.groups.head e.groups_ne_nil

/-- How a modifier is written after the groups; zero is left out. -/
def modifierSuffix (m : Int) : String :=
  if 0 < m then " + " ++ toString m
  else if m < 0 then " - " ++ toString m.natAbs
  else ""

/-- **The canonical form** of an expression, such as `d20 + 2d6 - 1`. -/
def canonical (e : Expression) : String :=
  " + ".intercalate (e.groups.map Group.short) ++ modifierSuffix e.modifier

end Expression

end Tabletop
