import Tabletop.Text.Binary

/-!
# The shortest decimal number

A decimal number is written with no more digits than it takes to tell the
binary number that it stands for, and with those digits as near to that
number as they can be. So what is written stands for the same binary
number (`ofDecimal?_shortest`).
-/

namespace Tabletop.Text

namespace Binary

/-- A binary number over a power of ten, as numerator and denominator. -/
def overPowerOfTen (b : Binary) (power : Int) : Nat × Nat :=
  let (num, den) := powerOfTen power
  let (n, d) := scaled b.mantissa 1 (-b.power)
  (n * den, d * num)

/-- Whether a decimal number stands for a binary number, but for its sign. -/
def isToldBy (b : Binary) (d : Decimal) : Bool :=
  ofDecimal? d = some b

/-- The two whole numbers next to a quotient, the nearer one first. -/
def neighbours (num den : Nat) : List Nat :=
  let below := num / den
  if roundedQuotient num den = below then [below, below + 1] else [below + 1, below]

/-- **The decimal number on a grid that tells a binary number**: of its two
neighbours among the multiples of a power of ten the nearer one that does. -/
def onGrid? (b : Binary) (negative : Bool) (power : Int) : Option Decimal :=
  let (num, den) := b.overPowerOfTen power
  ((neighbours num den).map fun n => ⟨negative, n, power⟩).find? b.isToldBy

/-- What is found on a grid tells the number. -/
theorem isToldBy_of_onGrid? {b : Binary} {negative : Bool} {power : Int} {d : Decimal}
    (h : b.onGrid? negative power = some d) : b.isToldBy d = true :=
  List.find?_some h

end Binary

namespace Decimal

/-- The powers of ten that the last of few enough digits may have, from the
coarsest to the finest. -/
def grids (d : Decimal) : List Int :=
  (List.range 20).map fun (n : Nat) => d.order - n

/-- **The shortest decimal number that tells the same binary number.** -/
def shortest (d : Decimal) : Decimal :=
  match Binary.ofDecimal? d with
  | some b => (d.grids.findSome? (b.onGrid? d.negative)).getD d
  | none => d

/-- **The shortest decimal number stands for the same binary number.** -/
theorem ofDecimal?_shortest (d : Decimal) :
    Binary.ofDecimal? d.shortest = Binary.ofDecimal? d := by
  unfold shortest
  split
  · next b hb =>
    cases hfound : d.grids.findSome? (b.onGrid? d.negative) with
    | none => rfl
    | some e =>
      obtain ⟨power, _, he⟩ := List.exists_of_findSome?_eq_some hfound
      rw [hb]
      exact of_decide_eq_true (Binary.isToldBy_of_onGrid? he)
  · rfl

/-- Whether a decimal number stands for zero. -/
def isZero (d : Decimal) : Bool :=
  match Binary.ofDecimal? d with
  | some b => b.mantissa = 0
  | none => false

/-- **The written form**: the shortest one, and a word for what is too large. -/
def written (d : Decimal) : String :=
  if d.isZero then laidOut ⟨d.negative, 0, 0⟩
  else if (Binary.ofDecimal? d).isSome then d.shortest.laidOut
  else if d.negative then "-inf"
  else "inf"

end Decimal

end Tabletop.Text
