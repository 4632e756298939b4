import Tabletop.Notation.Expression
import Tabletop.Rounding
import Tabletop.Text.Binary

/-!
# The spread of an expression

The least and the greatest total of a plain roll, and their midpoint,
which is the mean total since every die is as likely to show a face as
the opposite one.

The mean is announced to as many significant bits as a binary number has.
-/

namespace Tabletop.Expression

/-- **The lowest total**: every die shows one. -/
def lowest (e : Expression) : Int :=
  sumOf (e.groups.map Group.count) + e.modifier

/-- **The highest total**: every die shows its number of sides. -/
def highest (e : Expression) : Int :=
  sumOf (e.groups.map fun g => g.count * g.sides) + e.modifier

/-- Twice what the groups and the modifier add to the mean total: each die has
a mean of half of one more than its sides. -/
def twiceMeans (e : Expression) : List Int :=
  (e.groups.map fun g => g.count * (g.sides + 1)) ++ [2 * e.modifier]

/-- Twice the mean total. -/
def twiceMean (e : Expression) : Int :=
  sumOf e.twiceMeans

/-- **The mean total**, in halves, as it is announced. -/
def mean (e : Expression) : Text.Decimal :=
  Text.Decimal.ofHalves (roundedSum Text.Binary.bits e.twiceMeans)

/-- Twice the mean is the sum of the two ends of the spread. -/
theorem twiceMean_eq (e : Expression) : e.twiceMean = e.lowest + e.highest := by
  have h (gs : List Group) : sumOf (gs.map fun g => g.count * (g.sides + 1)) =
      sumOf (gs.map Group.count) + sumOf (gs.map fun g => g.count * g.sides) := by
    induction gs with
    | nil => rfl
    | cons g gs ih =>
      simp only [List.map_cons, sumOf_cons] at ih ⊢
      rw [ih, Int.mul_add]
      omega
  rw [twiceMean, twiceMeans, lowest, highest, sumOf_append, h, sumOf_cons, sumOf_nil]
  omega

end Tabletop.Expression
