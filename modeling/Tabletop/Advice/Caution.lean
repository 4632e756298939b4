import Tabletop.Notation.Lexeme
import Tabletop.Notation.Numeral
import Tabletop.Text.Piece

/-!
# Cautions

Signs that a text, even if it is a notation, may be costly to roll or was
not meant as it stands: long numbers, many dice in one group, and a great
number of parts. The text is searched as it stands and need not be a
notation.
-/

namespace Tabletop

open Text

/-- **A caution**, one constructor per reason. -/
inductive Caution
  /-- These numbers have four digits or more. -/
  | largeNumbers (numbers : List String)
  /-- A group rolls this many dice. -/
  | manyDice (count : Nat)
  /-- There are many dice and signs. -/
  | manyParts
deriving DecidableEq

namespace Caution

/-- The text of a caution. -/
def message : Caution → String
  | largeNumbers numbers => "Very large numbers detected: " ++ ", ".intercalate numbers
  | manyDice count => s!"High dice count: {count}d (this may be slow to calculate)"
  | manyParts => "Very complex expression (may be slow to process)"

/-- The digits of the numbers that stand before the letter of a die, from
left to right; blanks may lie between. -/
def counts : List Char → List (List Char)
  | [] => []
  | c :: cs =>
    if c.isDigit then
      let rest := cs.dropWhile Char.isDigit
      if beginsWith isDieLetter (rest.dropWhile isBlank) then
        (c :: cs.takeWhile Char.isDigit) :: counts rest
      else counts rest
    else counts cs
termination_by cs => cs.length
decreasing_by
  · have := (List.dropWhile_suffix (l := cs) Char.isDigit).length_le
    rw [List.length_cons]; omega
  · have := (List.dropWhile_suffix (l := cs) Char.isDigit).length_le
    rw [List.length_cons]; omega
  · exact Nat.lt_succ_self _

/-- The numbers of four digits or more, from left to right. -/
def longNumbers (cs : List Char) : List String :=
  ((runs Char.isDigit cs).filter fun digits => 4 ≤ digits.length).map String.ofList

/-- How many letters of dice and signs there are. -/
def parts (cs : List Char) : Nat :=
  cs.countP isDieLetter + cs.countP isSign

/-- **The cautions on a text.** -/
def cautionsOn (text : String) : List Caution :=
  let cs := text.toList
  let long := longNumbers cs
  (if long.isEmpty then [] else [largeNumbers long]) ++
  (((counts cs).map Numeral.clamped).filter (50 < ·)).map manyDice ++
  (if 10 < parts cs then [manyParts] else [])

end Caution

/-- The cautions on a text, as texts. -/
def cautionTexts (text : String) : List String :=
  (Caution.cautionsOn text).map Caution.message

/-- **Whether a text is safe**: there is no caution on it. -/
def isSafe (text : String) : Bool :=
  (cautionTexts text).isEmpty

end Tabletop
