import Tabletop.Roll.Part

/-!
# Rolling an expression, and rolling it again in another mode

`Expression.roll` rolls every group in order, and the bonus dice of
advantage or disadvantage after them. `Roll.recast` turns a roll into one
of another mode: the declared dice stay as they are, bonus dice and
doubled dice are dropped, and those of the new mode are rolled.

Advantage and disadvantage may replace each other. A critical hit goes
with neither, so a roll that is one is not turned into the other; nor is a
roll turned into the mode that it has. In both cases nothing is rolled.
-/

namespace Tabletop

/-- The number of sides of the bonus dice. -/
def bonusSides : Int := 6

/-- **The parts that a mode adds** after the groups. -/
def Mode.bonusParts {σ : Type} [Source σ] : Mode → Rolling σ (List Part)
  | .advantage => do return [.advantage (← Rolling.dice 2 bonusSides)]
  | .disadvantage => do return [.disadvantage (← Rolling.dice 2 bonusSides)]
  | _ => return []

/-- A critical part whose second set of dice counts as showing the highest
face. -/
def Part.maxFaced (g : Group) (dice : List Die) : Part :=
  .critical g dice (g.count * g.sides)

namespace Expression

variable {σ : Type} [Source σ]

/-- Rolls the dice of a group. -/
def rollPlain (g : Group) : Rolling σ Part := do
  return .plain g (← Rolling.dice g.count g.sides)

/-- Rolls the dice of a group twice over. -/
def rollDoubled (g : Group) : Rolling σ Part := do
  return .critical g (← Rolling.dice (g.count * 2) g.sides) 0

/-- Rolls the dice of a group once, for a second set at the highest face. -/
def rollMaxFaced (g : Group) : Rolling σ Part := do
  return .maxFaced g (← Rolling.dice g.count g.sides)

/-- Rolls groups on a critical hit; the policy is that of the first of them. -/
def rollCritical : CriticalPolicy → List Group → Rolling σ (List Part)
  | .maxFace, g :: gs => do
    let part ← rollMaxFaced g
    let parts ← gs.mapM rollDoubled
    return part :: parts
  | _, gs => gs.mapM rollDoubled

/-- Rolls groups in a mode. -/
def rollParts (mode : Mode) (policy : CriticalPolicy) (gs : List Group) : Rolling σ (List Part) :=
  match mode with
  | .critical => rollCritical policy gs
  | _ => do
    let parts ← gs.mapM rollPlain
    let bonus ← mode.bonusParts
    return parts ++ bonus

/-- **Rolls an expression in a mode.** -/
def roll (e : Expression) (mode : Mode) (policy : CriticalPolicy) : Rolling σ Roll := do
  let parts ← rollParts mode policy e.groups
  return ⟨e, mode, parts⟩

/-- Rolls an expression in the mode that a value names; if there is none,
nothing is rolled. -/
def rollAs (e : Expression) (named : Value) (policy : CriticalPolicy) : Rolling σ Roll :=
  match Mode.ofValue? named with
  | some mode => e.roll mode policy
  | none => throw (RollError.unknownMode named).raised

@[simp] theorem rollAs_value (e : Expression) (mode : Mode) (policy : CriticalPolicy) :
    e.rollAs mode.value policy = (e.roll mode policy : Rolling σ Roll) := by
  simp [rollAs]

/-- **Whether an expression may be rolled in a mode**, by the rule on check
dice: an expression that begins with a die of twenty sides is rolled
plainly, and in no other way, be it a mode or none. -/
def allows (e : Expression) (mode : Option Mode) : Bool :=
  mode = some .normal || e.first.sides ≠ 20

end Expression

namespace Roll

variable {σ : Type} [Source σ]

/-- Adds to declared dice as many more of the same group. -/
def doublePart : Part → Rolling σ Part
  | .plain g ds => do return .critical g (ds ++ (← Rolling.dice g.count g.sides)) 0
  | part => return part

/-- Grants declared dice a second set at the highest face. -/
def grantPart : Part → Part
  | .plain g ds => .maxFaced g ds
  | part => part

/-- Turns declared dice into those of a critical hit; the policy is that of
the first part. -/
def doubleParts : CriticalPolicy → List Part → Rolling σ (List Part)
  | .maxFace, part :: parts => do return grantPart part :: (← parts.mapM doublePart)
  | _, parts => parts.mapM doublePart

/-- **Whether a roll can be turned into one of a mode**: the mode is another
one, and a critical hit changes only from and to a plain roll. -/
def canBecome (r : Roll) (mode : Mode) : Bool :=
  r.mode ≠ mode &&
    ((r.mode ≠ .critical && mode ≠ .critical) || r.mode = .normal || mode = .normal)

/-- Turns declared dice into the parts of a mode. -/
def recastParts (mode : Mode) (policy : CriticalPolicy) (parts : List Part) :
    Rolling σ (List Part) :=
  match mode with
  | .critical => doubleParts policy parts
  | _ => do
    let bonus ← mode.bonusParts
    return parts ++ bonus

/-- **Turns a roll into one of a mode**, unless it cannot become one. -/
def recast (r : Roll) (mode : Mode) (policy : CriticalPolicy) : Rolling σ (Option Roll) :=
  if r.canBecome mode then do
    let parts ← recastParts mode policy r.declared
    return some ⟨r.expression, mode, parts⟩
  else
    return none

/-- Turns a roll into one of the mode that a value names. -/
def recastAs (r : Roll) (named : Value) (policy : CriticalPolicy) : Rolling σ (Option Roll) :=
  match Mode.ofValue? named with
  | some mode => r.recast mode policy
  | none => throw (RollError.unknownMode named).raised

@[simp] theorem recastAs_value (r : Roll) (mode : Mode) (policy : CriticalPolicy) :
    r.recastAs mode.value policy = (r.recast mode policy : Rolling σ (Option Roll)) := by
  simp [recastAs]

end Roll

end Tabletop
