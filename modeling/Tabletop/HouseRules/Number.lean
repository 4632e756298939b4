import Tabletop.Notation.Numeral
import Tabletop.Text.Blank
import Tabletop.Text.Piece

/-!
# Numbers as values of variables

The value of a variable that sets a number is a sign or none and digits,
with blanks around it. It is read in a lenient way:

* leading zeros count for nothing, nor do low lines among them, and what
  follows them is read as if it stood alone, so that it may be negative;
* a point with zeros after it counts for nothing;
* single low lines between two characters count for nothing.

What is left has to be a whole number in its plain form (`plain`): a minus
or none, and digits of which the first is no zero unless it is the only
one. A plain form that is too long is not read at all.
-/

namespace Tabletop.HouseRules

open Text

/-- Whether a character may surround a number: the blanks but for the four
information separators. -/
def isPadding (c : Char) : Bool :=
  isBlank c && !(0x1C ≤ c.toNat && c.toNat ≤ 0x1F)

/-- Whether a character may stand among leading zeros. -/
def isFiller (c : Char) : Bool :=
  c == '0' || c == '_'

/-- **A number without its leading zeros.** The last filler stays where
nothing follows, or only a point with what follows that. -/
def withoutLeadingZeros (cs : List Char) : List Char :=
  if beginsWith (· == '0') cs then
    let rest := cs.dropWhile isFiller
    if rest.isEmpty || beginsWith (· == '.') rest then
      (cs.takeWhile isFiller).getLast?.toList ++ rest
    else rest
  else cs

/-- **A number without a fraction of zeros**, of which there is at least one. -/
def withoutZeroFraction (cs : List Char) : List Char :=
  match cs.dropWhile (· != '.') with
  | _ :: zeros => if !zeros.isEmpty && zeros.all (· == '0') then cs.takeWhile (· != '.') else cs
  | [] => cs

/-- **A number without its low lines**, if each of them stands alone and
between two other characters. -/
def withoutLowLines (cs : List Char) : List Char :=
  if beginsWith (· == '_') cs || cs.getLast? == some '_' || holds ['_', '_'] cs then cs
  else cs.filter (· != '_')

/-- What is left of a number after its sign. -/
def reduced (cs : List Char) : List Char :=
  withoutLowLines (withoutZeroFraction (withoutLeadingZeros cs))

/-- **Why a value is no number.** -/
inductive NumberFault
  /-- It is not written as one. -/
  | malformed
  /-- It has too many digits. -/
  | tooLong
deriving DecidableEq

/-- How many characters a number may have in its plain form. -/
def longest : Nat := 4300

/-- **The number of a plain form.** What has too many digits is not looked at
beyond them; a leading zero ends the digits. -/
def plain (cs : List Char) : Except NumberFault Int :=
  let negative := beginsWith (· == '-') cs
  let unsigned := if negative then cs.drop 1 else cs
  let digits := unsigned.takeWhile Char.isDigit
  let leadingZero := beginsWith (· == '0') digits
  if !leadingZero && longest < cs.length - unsigned.length + digits.length then .error .tooLong
  else if digits.isEmpty || digits.length < unsigned.length
      || (leadingZero && 1 < digits.length) then .error .malformed
  else
    let n : Int := Numeral.value digits
    .ok (if negative then -n else n)

/-- **The number that a value says.** A plus is not followed by a minus. -/
def number (value : String) : Except NumberFault Int :=
  match strip isPadding value.toList with
  | '-' :: cs => plain ('-' :: reduced cs)
  | '+' :: cs => if beginsWith (· == '-') cs then .error .malformed else plain (reduced cs)
  | cs => plain (reduced cs)

end Tabletop.HouseRules
