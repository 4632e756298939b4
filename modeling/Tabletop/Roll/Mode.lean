import Tabletop.Roll.Value

/-!
# Roll modes

An expression is rolled plainly, with two bonus dice of which the higher
is added or the lower subtracted, or as a critical hit. What a critical
hit does to the first group of the expression is a matter of house rules.

Callers name a mode and a policy by words. What names no mode is refused
where the mode is needed; all but one word stand for the policy of doubled
dice.
-/

namespace Tabletop

/-- **How an expression is rolled.** -/
inductive Mode
  /-- Each group's dice and nothing else. -/
  | normal
  /-- Two bonus dice besides, the higher of which is added. -/
  | advantage
  /-- Two bonus dice besides, the lower of which is subtracted. -/
  | disadvantage
  /-- Each group's dice twice over. -/
  | critical
deriving DecidableEq

namespace Mode

/-- The word for a mode. -/
def name : Mode → String
  | normal => "normal"
  | advantage => "advantage"
  | disadvantage => "disadvantage"
  | critical => "critical"

/-- The mode of a word. -/
def ofName? (word : String) : Option Mode :=
  if word = "normal" then some normal
  else if word = "advantage" then some advantage
  else if word = "disadvantage" then some disadvantage
  else if word = "critical" then some critical
  else none

@[simp] theorem ofName?_name (m : Mode) : ofName? m.name = some m := by
  cases m <;> decide

/-- A mode is named by its own word alone. -/
theorem ofName?_eq_some {word : String} {m : Mode} : ofName? word = some m ↔ word = m.name := by
  constructor
  · intro h
    unfold ofName? at h
    split at h
    · next hw => cases h; exact hw
    · split at h
      · next hw => cases h; exact hw
      · split at h
        · next hw => cases h; exact hw
        · split at h
          · next hw => cases h; exact hw
          · cases h
  · rintro rfl
    exact ofName?_name m

/-- **The mode that a value names**: a text does if it is the word for one. -/
def ofValue? : Value → Option Mode
  | .text word => ofName? word
  | _ => none

/-- The value that names a mode. -/
def value (m : Mode) : Value :=
  .text m.name

@[simp] theorem ofValue?_value (m : Mode) : ofValue? m.value = some m :=
  ofName?_name m

/-- A mode is named by its own value alone. -/
theorem ofValue?_eq_some {v : Value} {m : Mode} : ofValue? v = some m ↔ v = m.value := by
  constructor
  · intro h
    cases v with
    | text word => exact congrArg Value.text (ofName?_eq_some.1 h)
    | _ => cases h
  · rintro rfl
    exact ofValue?_value m

end Mode

/-- **What a critical hit does to the first group.** The other groups roll
twice their dice under either policy. -/
inductive CriticalPolicy
  /-- It rolls twice its dice. -/
  | double
  /-- It rolls its dice once, and the second set counts as showing the
  highest face. -/
  | maxFace
deriving DecidableEq

namespace CriticalPolicy

/-- The word for a policy. -/
def name : CriticalPolicy → String
  | double => "double"
  | maxFace => "max_face"

/-- The policy that a word names exactly. -/
def ofName? (word : String) : Option CriticalPolicy :=
  if word = "double" then some double
  else if word = "max_face" then some maxFace
  else none

/-- The policy that a value stands for: a text stands for the policy that it
names, and all else for doubled dice. -/
def ofValue : Value → CriticalPolicy
  | .text word => (ofName? word).getD double
  | _ => double

/-- The policy that a caller asks for, which is that of the house if nothing is
asked. -/
def choose (house : CriticalPolicy) (asked : Value) : CriticalPolicy :=
  if asked.isEmpty then house else ofValue asked

end CriticalPolicy

end Tabletop
