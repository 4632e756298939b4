import Tabletop.Text.Quoted
import Tabletop.Text.Shortest

/-!
# Values

What comes from outside the library may be anything: the answer of a
source of randomness, the mode that a caller asks for, what is said of the
occasion of a roll. A value has a written form for the error text that
refuses it, unless a whole number in it has too many digits.
-/

namespace Tabletop

/-- **What comes from outside.** -/
inductive Value
  /-- Nothing at all. -/
  | nothing
  /-- A truth value. -/
  | truth (b : Bool)
  /-- A whole number. -/
  | whole (n : Int)
  /-- A decimal number. -/
  | decimal (d : Text.Decimal)
  /-- A text. -/
  | text (s : String)
  /-- Several values in order. -/
  | row (values : List Value)
  /-- Values under names. -/
  | record (fields : List (String × Value))

namespace Value

mutual

/-- **The written form of a value**, if all whole numbers in it can be written. -/
def written? : Value → Option String
  | nothing => some "None"
  | truth b => some (if b then "True" else "False")
  | whole n => Text.whole? n
  | decimal d => some d.written
  | text s => some (Text.quoted s)
  | row values => (writtenAll? values).map Text.bracketed
  | record fields =>
    (writtenFields? fields).map fun items => "\x7b" ++ ", ".intercalate items ++ "\x7d"

/-- The written forms of values in order. -/
def writtenAll? : List Value → Option (List String)
  | [] => some []
  | v :: vs => do
    let item ← written? v
    let items ← writtenAll? vs
    return item :: items

/-- The written forms of values under names. -/
def writtenFields? : List (String × Value) → Option (List String)
  | [] => some []
  | (name, v) :: fields => do
    let item ← written? v
    let items ← writtenFields? fields
    return (Text.quoted name ++ ": " ++ item) :: items

end

/-- Whether a value says no more than nothing: a falsehood, zero, an empty text,
a row or a record of nothing. -/
def isEmpty : Value → Bool
  | nothing => true
  | truth b => !b
  | whole n => n == 0
  | decimal d => d.isZero
  | text s => s.isEmpty
  | row values => values.isEmpty
  | record fields => fields.isEmpty

/-- A value inside a text: a text as it is, and all else in its written form. -/
def plain? : Value → Option String
  | text s => some s
  | v => v.written?

end Value

end Tabletop
