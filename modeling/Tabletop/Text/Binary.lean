import Tabletop.Rounding
import Tabletop.Text.Decimal

/-!
# Binary numbers

Decimal numbers stand for binary numbers of fifty-three significant bits,
of which each stands for the nearest one. A number that is too small for
any other stands for zero, and one that is too large for none.
-/

namespace Tabletop.Text

/-- **A binary number**, `mantissa * 2 ^ power`. -/
structure Binary where
  /-- The significant bits. -/
  mantissa : Nat
  /-- The power of two. -/
  power : Int
deriving DecidableEq

namespace Binary

/-- How many significant bits a binary number has. -/
def bits : Nat := 53

/-- The least power of two. -/
def leastPower : Int := -1074

/-- The greatest power of two. -/
def greatestPower : Int := 971

/-- A power of ten that is too large for any binary number, and below the
inverse of which there is only zero. -/
def farPower : Int := 400

/-- Zero. -/
def zero : Binary := ⟨0, leastPower⟩

/-- A quotient over a power of two, as numerator and denominator. -/
def scaled (num den : Nat) (power : Int) : Nat × Nat :=
  (num <<< (-power).toNat, den <<< power.toNat)

/-- The power of two of the last significant bit of a quotient. -/
def lastPower (num den : Nat) : Int :=
  let power : Int := num.log2 - den.log2 - bits
  let (n, d) := scaled num den power
  let power := if n / d < 1 <<< bits then power else power + 1
  if power < leastPower then leastPower else power

/-- **The binary number that is nearest to a quotient**, and the even one of
two that are equally near. -/
def ofQuotient? (num den : Nat) : Option Binary :=
  let power := lastPower num den
  let (n, d) := scaled num den power
  let mantissa := (roundedQuotient n d).toNat
  let b : Binary :=
    if mantissa < 1 <<< bits then ⟨mantissa, power⟩ else ⟨mantissa / 2, power + 1⟩
  if b.power ≤ greatestPower then some b else none

/-- A power of ten over another, as numerator and denominator. -/
def powerOfTen (power : Int) : Nat × Nat :=
  (Nat.pow 10 power.toNat, Nat.pow 10 (-power).toNat)

/-- **The binary number that a decimal number stands for**, but for its sign. -/
def ofDecimal? (d : Decimal) : Option Binary :=
  if d.digits = 0 then some zero
  else if farPower < d.order then none
  else if d.order < -farPower then some zero
  else
    let (num, den) := powerOfTen d.power
    ofQuotient? (d.digits * num) den

end Binary

end Tabletop.Text
