import Tabletop.Notation.Lexeme
import Tabletop.Notation.Numeral
import Tabletop.Text.DecimalDigit
import Tabletop.Text.Piece

/-!
# Hints on mistyped notation

What a text that is no notation may have been meant to say. Each hint
looks for one common mistake in the text without its blanks and with its
letters lowered; several can apply, and they come in a fixed order. When
none applies, the general formats are shown.
-/

namespace Tabletop

open Text

/-- **A hint**, one constructor per mistake. -/
inductive Hint
  /-- Dice are called by name. -/
  | words
  /-- A multiplication sign stands between two numbers. -/
  | cross
  /-- The text is two numbers with a dash between them. -/
  | range
  /-- There is a point or a comma. -/
  | fraction
  /-- Two signs stand side by side. -/
  | doubledSign
  /-- The text is a plain number that could be the number of sides of a die. -/
  | singleDie (digits : String)
  /-- No mistake was recognised. -/
  | formats
deriving DecidableEq

namespace Hint

/-- The text of a hint. -/
def message : Hint → String
  | words => "Use \"d\" notation instead of words (e.g. \"2d6\" instead of \"2 dice\")."
  | cross => "Use \"d\" for dice notation (e.g. \"2d6\" instead of \"2x6\")."
  | range => "Did you mean a die range? Use \"d\" notation (e.g. \"1d6\" instead of \"1-6\")."
  | fraction => "Use whole numbers only, without decimal points or commas."
  | doubledSign =>
    "Use a single + or - between terms (e.g. \"2d6+3\" instead of \"2d6++3\")."
  | singleDie digits => s!"Did you mean \"d{digits}\" (one {digits}-sided die)?"
  | formats => "Try formats like \"2d6+3\" (dice plus modifier) or \"d20\" (single die)."

/-- Whether a character is used as a multiplication sign. -/
def isCross (c : Char) : Bool :=
  c == 'x' || c == '*' || c == '×'

/-- Whether a multiplication sign stands between two digits somewhere. -/
def hasCross : List Char → Bool
  | a :: b :: c :: cs =>
    (isDecimalDigit a && isCross b && isDecimalDigit c) || hasCross (b :: c :: cs)
  | _ => false

/-- Whether the text is two numbers with a dash between them. -/
def isRange (cs : List Char) : Bool :=
  match cs.takeWhile isDecimalDigit, cs.dropWhile isDecimalDigit with
  | _ :: _, '-' :: last => !last.isEmpty && last.all isDecimalDigit
  | _, _ => false

/-- Whether two signs stand side by side somewhere. -/
def hasDoubledSign : List Char → Bool
  | a :: b :: cs => (isSign a && isSign b) || hasDoubledSign (b :: cs)
  | _ => false

/-- Whether the text is a number of at most three digits that a die may have
as its number of sides. -/
def isSides (cs : List Char) : Bool :=
  !cs.isEmpty && cs.length ≤ 3 && cs.all Char.isDigit &&
    (1 < Numeral.value cs && Numeral.value cs ≤ 100)

/-- The mistakes recognised in a text without blanks and with lowered letters. -/
def recognised (cs : List Char) : List Hint :=
  (if holds "dice".toList cs || holds "die".toList cs then [words] else []) ++
  (if hasCross cs then [cross] else []) ++
  (if isRange cs then [range] else []) ++
  (if cs.contains '.' || cs.contains ',' then [fraction] else []) ++
  (if hasDoubledSign cs then [doubledSign] else []) ++
  (if isSides cs then [singleDie (String.ofList cs)] else [])

/-- **The hints on a text.** -/
def hintsOn (text : String) : List Hint :=
  match recognised ((withoutBlanks text.toList).map Char.toLower) with
  | [] => [formats]
  | hints => hints

/-- No text is left without a hint. -/
theorem hintsOn_ne_nil (text : String) : hintsOn text ≠ [] := by
  unfold hintsOn
  split <;> simp_all

end Hint

/-- The hints on a text, as texts. -/
def hintTexts (text : String) : List String :=
  (Hint.hintsOn text).map Hint.message

end Tabletop
