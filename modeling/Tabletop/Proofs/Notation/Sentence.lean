import Tabletop.Notation.Reading

/-!
# Sentences

The grammar of dice notation, said without a reader. A **sentence** is
terms with signs between them and gaps around both:

    gap [sign gap] operand (gap sign gap operand)* gap

An operand is a numeral, or a die `count gap letter gap sides` whose count
may be left out, and a gap is any number of blanks. A sentence holds its
characters as they were typed, so every text that it spells is
`Sentence.chars`; there may be several sentences to one text, since the
gap before a die without a count can be told as part of the die.

What a sentence says does not depend on its gaps: its terms are its
operands under their signs. It is accepted under limits if some term is a
die, every die stands under a plus and within the limits, and so does the
sum of the numbers.
-/

namespace Tabletop

open Text

/-- **A numeral**: at least one digit and nothing else. -/
def IsNumeral (cs : List Char) : Prop :=
  cs ≠ [] ∧ cs.all Char.isDigit = true

instance (cs : List Char) : Decidable (IsNumeral cs) :=
  inferInstanceAs (Decidable (_ ∧ _))

/-- **A gap**: any number of blanks. -/
structure Gap where
  /-- The blanks. -/
  chars : List Char
  /-- They are blanks. -/
  all_blank : chars.all isBlank = true

namespace Gap

/-- No gap at all. -/
def empty : Gap :=
  ⟨[], rfl⟩

/-- Two gaps with nothing between them. -/
def append (g h : Gap) : Gap :=
  ⟨g.chars ++ h.chars, by rw [List.all_append, g.all_blank, h.all_blank]; rfl⟩

end Gap

/-- **Whether a die is one of the grammar**: its parts hold what their names
say. -/
structure DieText.WellFormed (d : DieText) : Prop where
  /-- The count is digits, or left out. -/
  count : d.count.all Char.isDigit = true
  /-- Blanks stand before the letter. -/
  before : d.before.all isBlank = true
  /-- The letter is one of a die. -/
  letter : isDieLetter d.letter = true
  /-- Blanks stand after the letter. -/
  after : d.after.all isBlank = true
  /-- The number of sides is given. -/
  sides : IsNumeral d.sides

/-- The group that a die says, within limits or not. -/
def DieText.said (numeral : List Char → Nat) (d : DieText) : Group :=
  ⟨d.countValue numeral, numeral d.sides⟩

/-- **Whether a group is within limits.** -/
def Group.Within (limits : Limits) (g : Group) : Prop :=
  (1 ≤ g.count ∧ g.count ≤ limits.maxCount) ∧ 2 ≤ g.sides ∧ g.sides ≤ limits.maxSides

instance (limits : Limits) (g : Group) : Decidable (g.Within limits) :=
  inferInstanceAs (Decidable (_ ∧ _))

/-- **An operand**: what stands under a sign. -/
inductive Operand
  /-- A plain number. -/
  | number (digits : List Char) (h : IsNumeral digits)
  /-- A die. -/
  | die (text : DieText) (h : text.WellFormed)

namespace Operand

/-- The characters of an operand. -/
def chars : Operand → List Char
  | number digits _ => digits
  | die d _ => d.chars

/-- The term that an operand is under a sign. -/
def term (numeral : List Char → Nat) (s : Sign) : Operand → Term
  | number digits _ => .flat (s.apply (numeral digits))
  | die d _ => .dice (d.said numeral)

/-- **Whether an operand may stand under a sign**: a number under any, a die
under a plus and within the limits. -/
def Allowed (numeral : List Char → Nat) (limits : Limits) (s : Sign) : Operand → Prop
  | number _ _ => True
  | die d _ => s = .plus ∧ (d.said numeral).Within limits

end Operand

/-- **A further term of a sentence**: an operand after its sign. -/
structure Summand where
  /-- The gap before the sign. -/
  before : Gap
  /-- The sign. -/
  sign : Sign
  /-- The gap after the sign. -/
  after : Gap
  /-- The operand. -/
  operand : Operand

namespace Summand

/-- The characters of a further term. -/
def chars (x : Summand) : List Char :=
  x.before.chars ++ x.sign.char :: (x.after.chars ++ x.operand.chars)

end Summand

/-- **A sentence** of dice notation. -/
structure Sentence where
  /-- The gap at the front. -/
  lead : Gap
  /-- The sign of the first term with the gap after it, if there is one. -/
  opening : Option (Sign × Gap)
  /-- The first operand. -/
  first : Operand
  /-- The further terms. -/
  more : List Summand
  /-- The gap at the end. -/
  trail : Gap

namespace Sentence

/-- The characters of the opening sign and the gap after it. -/
def openingChars (s : Sentence) : List Char :=
  match s.opening with
  | none => []
  | some (sign, gap) => sign.char :: gap.chars

/-- The sign that the first operand stands under. -/
def openingSign (s : Sentence) : Sign :=
  match s.opening with
  | none => .plus
  | some (sign, _) => sign

/-- The characters of a sentence. -/
def chars (s : Sentence) : List Char :=
  s.lead.chars ++ (s.openingChars ++ (s.first.chars ++
    (s.more.flatMap Summand.chars ++ s.trail.chars)))

/-- **The operands of a sentence under their signs**, in order. -/
def signed (s : Sentence) : List (Sign × Operand) :=
  (s.openingSign, s.first) :: s.more.map fun x => (x.sign, x.operand)

/-- The terms of a sentence, given what a numeral is worth. -/
def terms (numeral : List Char → Nat) (s : Sentence) : List Term :=
  s.signed.map fun x => x.2.term numeral x.1

/-- **The groups of a sentence**: its dice, in order. -/
def groups (numeral : List Char → Nat) (s : Sentence) : List Group :=
  (s.terms numeral).filterMap Term.group?

/-- **The modifier of a sentence**: the sum of its numbers under their signs. -/
def modifier (numeral : List Char → Nat) (s : Sentence) : Int :=
  sumOf ((s.terms numeral).map Term.amount)

/-- **Whether a sentence is accepted** under limits. -/
structure Accepted (numeral : List Char → Nat) (limits : Limits) (s : Sentence) : Prop where
  /-- Some term is a die. -/
  groups : s.groups numeral ≠ []
  /-- Every die stands under a plus and within the limits. -/
  allowed : ∀ x ∈ s.signed, x.2.Allowed numeral limits x.1
  /-- The sum of the numbers is within the limits. -/
  modifier : (s.modifier numeral).natAbs ≤ limits.maxModifier

end Sentence

end Tabletop
