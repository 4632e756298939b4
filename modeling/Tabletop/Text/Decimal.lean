/-!
# Written numbers

How numbers appear in answers: whole numbers with an obligatory sign,
lists of what is written, and decimal numbers, positional or with a power
of ten. A number that comes from outside may have more digits than an
error text can hold.
-/

namespace Tabletop.Text

/-- A whole number with its sign always written: `+3`, `-1`, `+0`. -/
def signed (n : Int) : String :=
  if n < 0 then toString n else "+" ++ toString n

/-- The greatest number of digits of a whole number in an error text. -/
def maxDigits : Nat := 4300

/-- **A whole number in an error text**, unless it has too many digits. -/
def whole? (n : Int) : Option String :=
  if n.natAbs < Nat.pow 10 maxDigits then some (toString n) else none

/-- What is said where a whole number has too many digits. -/
def tooManyDigits : String :=
  s!"Exceeds the limit ({maxDigits} digits) for integer string conversion; " ++
    "use sys.set_int_max_str_digits() to increase the limit"

/-- Items between brackets, as in `[4, 1]`. -/
def bracketed (items : List String) : String :=
  "[" ++ ", ".intercalate items ++ "]"

/-- A number with zeros before it up to a width. -/
def padded (width n : Nat) : String :=
  let digits := Nat.toDigits 10 n
  String.ofList (List.replicate (width - digits.length) '0' ++ digits)

/-- **A decimal number**, `digits * 10 ^ power` with a sign, which zero has too. -/
structure Decimal where
  /-- Whether a minus stands before it. -/
  negative : Bool
  /-- The number without its sign and its power of ten. -/
  digits : Nat
  /-- The power of ten. -/
  power : Int
deriving DecidableEq

namespace Decimal

/-- The decimal number of a number of halves. -/
def ofHalves (n : Int) : Decimal :=
  ⟨n < 0, 5 * n.natAbs, -1⟩

/-- The least power of ten that a decimal number with digits lies below. -/
def order (d : Decimal) : Int :=
  (Nat.toDigits 10 d.digits).length + d.power

/-- Digits with the point after the first `whole` of them, filled up with
zeros on either side; at least one digit stands after the point. -/
def positional (digits : List Char) (power : Int) : List Char :=
  if power < 0 then
    '0' :: '.' :: (List.replicate (power.natAbs - 1) '0' ++ digits)
  else
    let whole := power.toNat + 1
    let fraction := digits.drop whole
    digits.take whole ++ List.replicate (whole - digits.length) '0'
      ++ '.' :: (if fraction.isEmpty then ['0'] else fraction)

/-- One digit before the point and the power of ten after an `e`, with
its sign and at least two digits. -/
def scientific (digits : List Char) (power : Int) : List Char :=
  let fraction := digits.drop 1
  digits.take 1 ++ (if fraction.isEmpty then [] else '.' :: fraction)
    ++ 'e' :: (if power < 0 then '-' else '+') :: (padded 2 power.natAbs).toList

/-- **A decimal number laid out** with no zeros at the end of its digits:
positional from one ten-thousandth up to below ten to the sixteenth, and
with a power of ten otherwise. -/
def laidOut (d : Decimal) : String :=
  let digits := ((Nat.toDigits 10 d.digits).reverse.dropWhile (· == '0')).reverse
  let power := d.order - 1
  let form :=
    if d.digits = 0 then ['0', '.', '0']
    else if -4 ≤ power ∧ power < 16 then positional digits power
    else scientific digits power
  String.ofList (if d.negative then '-' :: form else form)

end Decimal

end Tabletop.Text
