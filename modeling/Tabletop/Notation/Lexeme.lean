import Tabletop.Text.Blank
import Tabletop.Text.Piece

/-!
# Lexemes

The smallest meaningful pieces of a notation: a die such as `2d6`, which
may hold blanks on either side of its letter, a plain number, a sign, and
any other word or character, which has no meaning. A lexeme keeps its
characters as they were typed.

A die must not touch a further letter or digit, and a word is read as a
whole; so `2d` and `d20x` are each one meaningless word, not a die with
something left over.
-/

namespace Tabletop

open Text

/-- The sign before a term. -/
inductive Sign
  | plus
  | minus
deriving DecidableEq

namespace Sign

/-- The character of a sign. -/
def char : Sign → Char
  | plus => '+'
  | minus => '-'

/-- The sign that a character is, if it is one. -/
def ofChar? (c : Char) : Option Sign :=
  if c = '+' then some plus else if c = '-' then some minus else none

/-- A number under a sign. -/
def apply : Sign → Int → Int
  | plus, n => n
  | minus, n => -n

@[simp] theorem ofChar?_char (s : Sign) : ofChar? s.char = some s := by
  cases s <;> rfl

/-- A character is read as the sign that is written by it. -/
theorem ofChar?_eq_some {c : Char} {s : Sign} : ofChar? c = some s ↔ c = s.char := by
  constructor
  · intro h
    unfold ofChar? at h
    split at h
    · next hc => cases h; exact hc
    · split at h
      · next hc => cases h; exact hc
      · cases h
  · rintro rfl
    exact ofChar?_char s

end Sign

/-- Whether a character is a sign. -/
def isSign (c : Char) : Bool :=
  c == '+' || c == '-'

/-- The signs are the characters that are read as one. -/
theorem isSome_ofChar? (c : Char) : (Sign.ofChar? c).isSome = isSign c := by
  unfold Sign.ofChar? isSign
  split
  · next h => simp [h]
  · next h => split <;> simp_all

/-- Whether a character is the letter of a die. -/
def isDieLetter (c : Char) : Bool :=
  c == 'd' || c == 'D'

/-- **A die as typed**: a count, which may be left out, the letter, and the
number of sides, with blanks allowed on either side of the letter. -/
structure DieText where
  /-- The digits of the count; none when the count is left out. -/
  count : List Char
  /-- The blanks before the letter. -/
  before : List Char
  /-- The letter. -/
  letter : Char
  /-- The blanks after the letter. -/
  after : List Char
  /-- The digits of the number of sides. -/
  sides : List Char
deriving DecidableEq

namespace DieText

/-- The characters of a die. -/
def chars (d : DieText) : List Char :=
  d.count ++ d.before ++ d.letter :: (d.after ++ d.sides)

/-- **The die that a text begins with**, if it does, and the rest of the
text. Each part is as long as it can be, and the rest must not begin with
a letter or digit. -/
def read? (cs : List Char) : Option (DieText × List Char) :=
  let rest := cs.dropWhile Char.isDigit
  match rest.dropWhile isBlank with
  | [] => none
  | letter :: afterLetter =>
    let digits := afterLetter.dropWhile isBlank
    let sides := digits.takeWhile Char.isDigit
    let beyond := digits.dropWhile Char.isDigit
    if isDieLetter letter && !sides.isEmpty && !beginsWith Char.isAlphanum beyond then
      some (⟨cs.takeWhile Char.isDigit, rest.takeWhile isBlank, letter,
        afterLetter.takeWhile isBlank, sides⟩, beyond)
    else
      none

theorem chars_append_of_read? {cs rest : List Char} {d : DieText} (h : read? cs = some (d, rest)) :
    d.chars ++ rest = cs := by
  simp only [read?] at h
  split at h
  · cases h
  · next letter afterLetter hsplit =>
    split at h
    · simp only [Option.some.injEq, Prod.mk.injEq] at h
      obtain ⟨rfl, rfl⟩ := h
      simp only [chars, List.append_assoc, List.cons_append, List.takeWhile_append_dropWhile,
        ← hsplit]
    · cases h

end DieText

/-- **A lexeme**: the smallest piece of a notation that is read as a whole. -/
inductive Lexeme
  /-- A die. -/
  | die (text : DieText)
  /-- A plain number, by its digits. -/
  | number (digits : List Char)
  /-- A sign. -/
  | sign (sign : Sign)
  /-- A word or a single character without meaning. -/
  | stray (text : List Char)
deriving DecidableEq

namespace Lexeme

/-- The characters of a lexeme. -/
def chars : Lexeme → List Char
  | die d => d.chars
  | number digits => digits
  | sign s => [s.char]
  | stray text => text

/-- **The lexeme that a text begins with**, its first character being no
blank, and the rest of the text: a die if there is one, else the word, else
the single character. -/
def read (c : Char) (cs : List Char) : Lexeme × List Char :=
  match DieText.read? (c :: cs) with
  | some (d, rest) => (die d, rest)
  | none =>
    if c.isAlphanum then
      let word := c :: cs.takeWhile Char.isAlphanum
      (if word.all Char.isDigit then number word else stray word, cs.dropWhile Char.isAlphanum)
    else
      match Sign.ofChar? c with
      | some s => (sign s, cs)
      | none => (stray [c], cs)

/-- Reading a lexeme loses nothing. -/
theorem chars_append_read (c : Char) (cs : List Char) :
    (read c cs).1.chars ++ (read c cs).2 = c :: cs := by
  unfold read
  split
  · next h => exact DieText.chars_append_of_read? h
  · split
    · dsimp only
      split <;> simp [chars]
    · split
      · next h => simp [chars, Sign.ofChar?_eq_some.1 h]
      · simp [chars]

theorem chars_read_ne_nil (c : Char) (cs : List Char) : (read c cs).1.chars ≠ [] := by
  unfold read
  split
  · simp [chars, DieText.chars]
  · split
    · dsimp only
      split <;> simp [chars]
    · split <;> simp [chars]

theorem length_read_lt (c : Char) (cs : List Char) : (read c cs).2.length < (c :: cs).length := by
  have h := congrArg List.length (chars_append_read c cs)
  have hpos := List.length_pos_iff.2 (chars_read_ne_nil c cs)
  rw [List.length_append] at h
  omega

end Lexeme

end Tabletop
