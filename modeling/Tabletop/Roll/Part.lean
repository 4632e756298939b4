import Tabletop.Notation.Expression
import Tabletop.Roll.Mode
import Tabletop.Roll.Source
import Tabletop.Sum

/-!
# Rolls and their parts

A roll is an expression, the mode it was rolled in, and a list of parts:
dice that were rolled together and count together. A part holds the dice
of one group, the doubled dice of one group, or the two bonus dice of
advantage or disadvantage. The total of a roll is the sum of what its
parts count, and the modifier.
-/

namespace Tabletop

/-- **A part of a roll.** -/
inductive Part
  /-- The dice of a group; their sum counts. -/
  | plain (group : Group) (dice : List Die)
  /-- The dice of a group on a critical hit; their sum counts, and with it a
  bonus that was granted without rolling. -/
  | critical (group : Group) (dice : List Die) (bonus : Int)
  /-- Bonus dice, the highest of which is added. -/
  | advantage (dice : List Die)
  /-- Bonus dice, the lowest of which is subtracted. -/
  | disadvantage (dice : List Die)
deriving DecidableEq

namespace Part

/-- The dice of a part. -/
def dice : Part → List Die
  | plain _ ds => ds
  | critical _ ds _ => ds
  | advantage ds => ds
  | disadvantage ds => ds

/-- The faces that the dice of a part show. -/
def faces (p : Part) : List Face :=
  p.dice.map Die.face

/-- The group that a part belongs to, if it belongs to one. -/
def group? : Part → Option Group
  | plain g _ => some g
  | critical g _ _ => some g
  | advantage _ => none
  | disadvantage _ => none

/-- The bonus of a part. -/
def bonus : Part → Int
  | critical _ _ b => b
  | _ => 0

/-- The one face that counts, where only one does. -/
def kept? (p : Part) : Option Face :=
  match p with
  | advantage _ => p.faces.max?
  | disadvantage _ => p.faces.min?
  | _ => none

/-- **What a part counts.** Bonus dice of which there are none count nothing. -/
def subtotal (p : Part) : Int :=
  match p with
  | plain _ _ => sumOf (p.faces.map Face.count)
  | critical _ _ b => sumOf (p.faces.map Face.count) + b
  | advantage _ => (p.kept?.map Face.count).getD 0
  | disadvantage _ => -(p.kept?.map Face.count).getD 0

/-- **The declared dice of a part**, as a part of a plain roll: of a critical
hit the first dice, as many as the group has, and of bonus dice nothing. -/
def declared? : Part → Option Part
  | plain g ds => some (plain g ds)
  | critical g ds _ => some (plain g (ds.take g.count.toNat))
  | advantage _ => none
  | disadvantage _ => none

end Part

/-- **A roll of an expression.** -/
structure Roll where
  /-- What was rolled. -/
  expression : Expression
  /-- How it was rolled. -/
  mode : Mode
  /-- The dice, by the parts they belong to. -/
  parts : List Part
deriving DecidableEq

namespace Roll

/-- **The total of a roll.** -/
def total (r : Roll) : Int :=
  sumOf (r.parts.map Part.subtotal) + r.expression.modifier

/-- All dice of a roll, in the order of its parts. -/
def dice (r : Roll) : List Die :=
  r.parts.flatMap Part.dice

/-- The declared dice of a roll, without bonus dice and doubled dice. -/
def declared (r : Roll) : List Part :=
  r.parts.filterMap Part.declared?

end Roll

end Tabletop
