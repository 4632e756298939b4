import Tabletop.Notation.Lexeme

/-!
# Tokens

A token is a lexeme with the position it begins at. The tokens of a text
stand in it from left to right, and only blanks lie between them.
-/

namespace Tabletop

open Text

/-- **A lexeme in its place.** -/
structure Token where
  /-- The position of its first character. -/
  start : Nat
  /-- What was read there. -/
  lexeme : Lexeme
deriving DecidableEq

namespace Token

/-- The characters of a token. -/
def chars (t : Token) : List Char :=
  t.lexeme.chars

/-- The position after its last character. -/
def stop (t : Token) : Nat :=
  t.start + t.chars.length

/-- **The tokens of a text** whose first character has the position
`start`. -/
def scan (start : Nat) : List Char → List Token
  | [] => []
  | c :: cs =>
    if isBlank c then
      scan (start + 1) cs
    else
      let piece := Lexeme.read c cs
      ⟨start, piece.1⟩ :: scan (start + piece.1.chars.length) piece.2
termination_by cs => cs.length
decreasing_by
  · exact Nat.lt_succ_self _
  · exact Lexeme.length_read_lt c cs

end Token

end Tabletop
