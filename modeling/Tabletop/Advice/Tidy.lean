import Tabletop.Notation.Lexeme
import Tabletop.Text.Piece

/-!
# Tidying typed notation

A best effort at what a mistyped notation was meant to be: blanks and
characters of no use are dropped, the letters that stand for a die become
`d`, signs in a row become one, and none is left at the ends. The result
need not be a notation, so it is to be read like any other text.
-/

namespace Tabletop.Tidy

open Text

/-- A multiplication sign becomes the letter of a die. -/
def crossToDie (c : Char) : Char :=
  if c == 'x' || c == 'X' || c == '×' then 'd' else c

/-- A capital letter of a die is lowered where a digit follows. -/
def lowerDie : List Char → List Char
  | [] => []
  | c :: cs => (if c == 'D' && beginsWith Char.isDigit cs then 'd' else c) :: lowerDie cs

/-- Whether a character can be part of a tidied text. -/
def isUseful (c : Char) : Bool :=
  c.isDigit || isSign c || c == 'd'

/-- Puts a character before a text; two signs that would stand side by side
become one, a minus if either of them is. -/
def joinSign (c : Char) : List Char → List Char
  | [] => [c]
  | next :: cs =>
    if isSign c && isSign next then
      (if c == '-' || next == '-' then '-' else '+') :: cs
    else c :: next :: cs

/-- Every row of signs becomes one sign: a minus if there is one in the row. -/
def mergeSigns (cs : List Char) : List Char :=
  cs.foldr joinSign []

/-- The tidied characters of a text. -/
def tidied (cs : List Char) : List Char :=
  strip isSign (mergeSigns ((lowerDie ((withoutBlanks cs).map crossToDie)).filter isUseful))

/-- **The tidied text.** -/
def tidy (text : String) : String :=
  String.ofList (tidied text.toList)

end Tabletop.Tidy
