/-!
# Numerals

A numeral is a text of ASCII digits. Its **exact value** is what the
digits say; reading a notation goes by its **clamped value**, which for
more than twelve digits is the greatest number of twelve digits, so that
the work done on a numeral does not grow with its length. The length
counts leading zeros.
-/

namespace Tabletop.Numeral

/-- The number that the digits say. -/
def value (digits : List Char) : Nat :=
  Nat.ofDigitChars 10 digits 0

/-- The greatest number of twelve digits. -/
def ceiling : Nat := 999999999999

/-- **The clamped value**: exact up to twelve digits, `ceiling` beyond. -/
def clamped (digits : List Char) : Nat :=
  if digits.length ≤ 12 then value digits else ceiling

/-- Up to twelve digits the clamped value is the exact one. -/
theorem clamped_eq_value {digits : List Char} (h : digits.length ≤ 12) :
    clamped digits = value digits := by
  simp [clamped, h]

/-- Writing a number and reading it gives the number back. -/
@[simp] theorem value_toDigits (n : Nat) : value (Nat.toDigits 10 n) = n :=
  Nat.ofDigitChars_toDigits (by decide) (by decide)

theorem repr_inj {m n : Nat} : m.repr = n.repr ↔ m = n := by
  constructor
  · intro h
    have hdigits := congrArg String.toList h
    rw [Nat.toList_repr, Nat.toList_repr] at hdigits
    rw [← value_toDigits m, hdigits, value_toDigits]
  · exact congrArg Nat.repr

end Tabletop.Numeral
