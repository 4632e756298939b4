import Tabletop.Roll.Part

/-!
# Reports of a roll

A report is all that a roll tells its reader: the text it came from, its
canonical form, the mode, one entry per part, the modifier, the total, and
one line that explains how the total came about.

A report can be made of any parts, put together by hand or rolled. The
one thing that cannot be reported is a part of bonus dice that holds no
die, since then no face is kept.
-/

namespace Tabletop

namespace Part

/-- The word for the kind of a part. -/
def kind : Part → String
  | plain .. => "group"
  | critical .. => "critical"
  | advantage _ => "advantage"
  | disadvantage _ => "disadvantage"

/-- What a part is called: the dice of a group by the group, all else by its
kind. -/
def label : Part → String
  | plain g _ => g.full
  | part => part.kind

/-- **What a part counts, as it is shown**: the higher of two bonus dice shows
the face that it was told by. -/
def shown (p : Part) : Face :=
  match p with
  | advantage _ => p.kept?.getD (.number 0)
  | _ => .number p.subtotal

@[simp] theorem count_shown (p : Part) : p.shown.count = p.subtotal := by
  cases p with
  | advantage ds =>
    simp only [shown, subtotal]
    cases (advantage ds).kept? <;> rfl
  | _ => rfl

/-- **A part in words**: its dice and what they come to. -/
def explained (p : Part) : String :=
  let rolls := "rolls " ++ Text.bracketed (p.faces.map Face.written)
  match p with
  | plain g _ => g.full ++ ": " ++ rolls ++ s!" => {p.subtotal}"
  | critical g _ bonus =>
    "critical " ++ g.full ++ ": " ++ rolls ++
      (if bonus = 0 then "" else s!" + max {bonus}") ++ s!" => {p.subtotal}"
  | advantage _ => "advantage: " ++ rolls ++ " -> add " ++ p.shown.written
  | disadvantage _ => "disadvantage: " ++ rolls ++ s!" -> subtract {-p.subtotal}"

end Part

/-- **The entry of a part in a report.** -/
structure Entry where
  /-- The kind of the part. -/
  kind : String
  /-- What the part is called. -/
  label : String
  /-- The faces of its dice. -/
  rolls : List Face
  /-- Which of its dice show their lowest or highest face. -/
  extremal : List Bool
  /-- What the part counts. -/
  subtotal : Face
  /-- The group that it belongs to. -/
  group : Option Group
  /-- The bonus that was granted, if there is one. -/
  bonus : Option Int
  /-- The one face that counts, where only one does. -/
  kept : Option Face
deriving DecidableEq

namespace Entry

/-- The entry of a part. -/
def ofPart (p : Part) : Entry where
  kind := p.kind
  label := p.label
  rolls := p.faces
  extremal := p.dice.map Die.isExtremal
  subtotal := p.shown
  group := p.group?
  bonus := if p.bonus = 0 then none else some p.bonus
  kept := p.kept?

end Entry

/-- **The report of a roll.** -/
structure Report where
  /-- The text that the expression was read from. -/
  input : String
  /-- The canonical form of the expression. -/
  canonical : String
  /-- The word for the mode. -/
  mode : String
  /-- An entry for every part. -/
  entries : List Entry
  /-- The modifier of the expression. -/
  modifier : Int
  /-- The total of the roll. -/
  total : Int
  /-- How the total came about. -/
  explanation : String
deriving DecidableEq

namespace Report

/-- **The explanation of a total**: the parts in words and the modifier, then
the total. -/
def explain (parts : List Part) (modifier total : Int) : String :=
  "; ".intercalate
      (parts.map Part.explained ++ if modifier = 0 then [] else [Text.signed modifier])
    ++ s!" => {total}"

/-- The report of parts under an expression and the word for a mode. -/
def ofParts (e : Expression) (mode : String) (parts : List Part) : Report :=
  let total := sumOf (parts.map Part.subtotal) + e.modifier
  { input := e.text
    canonical := e.canonical
    mode := mode
    entries := parts.map Entry.ofPart
    modifier := e.modifier
    total := total
    explanation := explain parts e.modifier total }

/-- **Why parts cannot be reported**: bonus dice of which the highest, or the
lowest, is to be kept, and of which there are none. -/
inductive Missing
  /-- The highest of no dice is to be added. -/
  | highest
  /-- The lowest of no dice is to be subtracted. -/
  | lowest
deriving DecidableEq

/-- The message on bonus dice that are missing. -/
def Missing.message : Missing → String
  | .highest => "max() arg is an empty sequence"
  | .lowest => "min() arg is an empty sequence"

/-- What is missing from a part. -/
def Missing.ofPart? : Part → Option Missing
  | .advantage [] => some .highest
  | .disadvantage [] => some .lowest
  | _ => none

/-- **The report of parts put together by hand**, or what the first of them
that cannot be reported is missing. -/
def ofParts? (e : Expression) (mode : String) (parts : List Part) : Except Missing Report :=
  match parts.findSome? Missing.ofPart? with
  | some missing => .error missing
  | none => .ok (ofParts e mode parts)

end Report

/-- **The report of a roll.** -/
def Roll.report (r : Roll) : Report :=
  .ofParts r.expression r.mode.name r.parts

@[simp] theorem Roll.total_report (r : Roll) : r.report.total = r.total := rfl

end Tabletop
