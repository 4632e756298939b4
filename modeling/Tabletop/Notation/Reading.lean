import Tabletop.Notation.Expression
import Tabletop.Notation.Fault
import Tabletop.Notation.Limits
import Tabletop.Notation.Numeral
import Tabletop.Notation.Token
import Tabletop.Sum
import Tabletop.Text.Piece

/-!
# Reading an expression

A notation is read token by token. All that one token needs to know of
the ones before it is what stands directly before it (`Preceding`): the
beginning, a sign, or a term. From that a token either completes a term,
or is a sign that waits for one, or is at fault; reading stops at the
first fault.

When the tokens are used up, a sign that still waits is at fault, then
the lack of any dice, then a modifier out of range.

What a numeral is worth is a parameter of reading (`read`). Expressions
are read with clamped numerals (`parse`).
-/

namespace Tabletop

open Text

/-- **A term of a notation**: a group of dice, or a number under its sign. -/
inductive Term
  /-- Dice to be rolled. -/
  | dice (group : Group)
  /-- A number to be added. -/
  | flat (amount : Int)
deriving DecidableEq

namespace Term

/-- The group of a term that has dice. -/
def group? : Term → Option Group
  | dice g => some g
  | flat _ => none

/-- What a term adds to the modifier. -/
def amount : Term → Int
  | dice _ => 0
  | flat n => n

end Term

/-- **What stands directly before a token.** -/
inductive Preceding
  /-- Nothing: the token is the first one. -/
  | nothing
  /-- A sign that waits for a term, with its position. -/
  | sign (start : Nat) (sign : Sign)
  /-- A term. -/
  | term
deriving DecidableEq

namespace Preceding

/-- The sign that a term is read under. -/
def signOf : Preceding → Sign
  | sign _ s => s
  | _ => .plus

/-- Where the fragment of a term begins: at the sign before it, or else at
the term itself. -/
def fragmentStart (start : Nat) : Preceding → Nat
  | sign position _ => position
  | _ => start

end Preceding

namespace DieText

/-- How many dice are meant; a count that is left out is one. -/
def countValue (numeral : List Char → Nat) (d : DieText) : Nat :=
  if d.count.isEmpty then 1 else numeral d.count

/-- **The group that a die stands for**, if it is within the limits. The count
is looked at before the sides. -/
def group (numeral : List Char → Nat) (limits : Limits) (d : DieText) : Except Fault Group :=
  let count : Int := d.countValue numeral
  let sides : Int := numeral d.sides
  if count < 1 ∨ limits.maxCount < count then
    .error (.countOutOfRange (String.ofList d.chars) count limits.maxCount)
  else if sides < 2 ∨ limits.maxSides < sides then
    .error (.sidesOutOfRange (String.ofList d.chars) sides limits.maxSides)
  else
    .ok ⟨count, sides⟩

end DieText

namespace Reading

/-- The fault of a fragment that cannot be understood. -/
def malformed {α : Type} (fragment : List Char) : Except Fault α :=
  .error (.malformed (String.ofList fragment))

/-- The fault of a token together with the sign that waits before it, and
all that lies between them. -/
def malformedFrom {α : Type} (text : List Char) (before : Preceding) (t : Token) :
    Except Fault α :=
  malformed (slice text (before.fragmentStart t.start) t.stop)

/-- **One token**: the term that it completes, if any, and what stands before
the next token. -/
def step (numeral : List Char → Nat) (limits : Limits) (text : List Char)
    (before : Preceding) (t : Token) : Except Fault (Option Term × Preceding) :=
  match t.lexeme, before with
  | .stray word, _ => malformed word
  | .sign _, .sign _ _ => malformedFrom text before t
  | .sign s, _ => .ok (none, .sign t.start s)
  | .number digits, .term => malformed digits
  | .number digits, _ => .ok (some (.flat (before.signOf.apply (numeral digits))), .term)
  | .die d, .term => malformed d.chars
  | .die _, .sign _ .minus => malformedFrom text before t
  | .die d, _ => do return (some (.dice (← d.group numeral limits)), .term)

/-- **A run of tokens**: the terms that they complete, in order, and what
stands after the last of them. -/
def run (numeral : List Char → Nat) (limits : Limits) (text : List Char) :
    Preceding → List Token → Except Fault (List Term × Preceding)
  | before, [] => .ok ([], before)
  | before, t :: ts => do
    let (term, before) ← step numeral limits text before t
    let (terms, last) ← run numeral limits text before ts
    return (term.toList ++ terms, last)

@[simp] theorem run_nil (numeral : List Char → Nat) (limits : Limits) (text : List Char)
    (before : Preceding) : run numeral limits text before [] = .ok ([], before) := rfl

/-- **A run of two parts** is a run of the first and then, from what that ends
with, a run of the second. -/
theorem run_append (numeral : List Char → Nat) (limits : Limits) (text : List Char)
    (before : Preceding) (ts us : List Token) :
    run numeral limits text before (ts ++ us) =
      (run numeral limits text before ts).bind fun first =>
        (run numeral limits text first.2 us).map fun second =>
          (first.1 ++ second.1, second.2) := by
  induction ts generalizing before with
  | nil => cases h : run numeral limits text before us <;> simp [h, Except.bind, Except.map]
  | cons t ts ih =>
    simp only [List.cons_append, run, ih, bind, Except.bind]
    cases step numeral limits text before t with
    | error fault => rfl
    | ok stepped =>
      dsimp only
      cases run numeral limits text stepped.2 ts with
      | error fault => rfl
      | ok first =>
        dsimp only [pure, Except.pure]
        cases run numeral limits text first.2 us with
        | error fault => rfl
        | ok second => simp only [Except.map, List.append_assoc]

/-- **The expression made of all terms**, with what stands at the very end. -/
def conclude (limits : Limits) (text : List Char) (terms : List Term) (last : Preceding) :
    Except Fault Expression :=
  match last with
  | .sign _ s => malformed [s.char]
  | _ =>
    let groups := terms.filterMap Term.group?
    let modifier := sumOf (terms.map Term.amount)
    if h : groups = [] then .error .noDice
    else if limits.maxModifier < modifier.natAbs then
      .error (.modifierOutOfRange modifier limits.maxModifier)
    else .ok ⟨groups, h, modifier, String.ofList text⟩

end Reading

namespace Expression

/-- **Reading an expression**, given what a numeral is worth. Blanks at the
two ends are no part of the text. -/
def read (numeral : List Char → Nat) (limits : Limits) (text : String) :
    Except Fault Expression :=
  let trimmed := strip isBlank text.toList
  if trimmed.isEmpty then .error .emptyInput
  else do
    let (terms, last) ← Reading.run numeral limits trimmed .nothing (Token.scan 0 trimmed)
    Reading.conclude limits trimmed terms last

/-- **The expression that a text says**, or why it says none. -/
def parse (limits : Limits) (text : String) : Except Fault Expression :=
  read Numeral.clamped limits text

end Expression

end Tabletop
