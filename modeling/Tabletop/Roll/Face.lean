import Tabletop.Roll.Value

/-!
# Faces

A source tells a face by a whole number, or by a truth value that counts
as one or zero. A face counts as a number, by which faces are compared and
added up, and is shown as it was told.
-/

namespace Tabletop

/-- **A face of a die**, as it was told. -/
inductive Face
  /-- By a whole number. -/
  | number (n : Int)
  /-- By a truth value. -/
  | truth (b : Bool)
deriving DecidableEq

namespace Face

/-- **The number that a face counts as.** -/
def count : Face → Int
  | number n => n
  | truth b => if b then 1 else 0

/-- The value that tells a face. -/
def value : Face → Value
  | number n => .whole n
  | truth b => .truth b

/-- **The face that a value tells**, if it tells one. -/
def ofValue? : Value → Option Face
  | .whole n => some (number n)
  | .truth b => some (truth b)
  | _ => none

/-- The value of a face tells this face, and no other value does. -/
theorem ofValue?_eq_some {v : Value} {f : Face} : ofValue? v = some f ↔ v = f.value := by
  cases v <;> cases f <;> simp [ofValue?, value]

/-- A face in words. -/
def written : Face → String
  | number n => toString n
  | truth b => if b then "True" else "False"

/-- The higher of two faces, and the former of two that count the same. -/
instance : Max Face :=
  ⟨fun a b => if a.count < b.count then b else a⟩

/-- The lower of two faces, and the former of two that count the same. -/
instance : Min Face :=
  ⟨fun a b => if b.count < a.count then b else a⟩

@[simp] theorem count_max (a b : Face) : (max a b).count = max a.count b.count := by
  show (if a.count < b.count then b else a).count = max a.count b.count
  split <;> omega

@[simp] theorem count_min (a b : Face) : (min a b).count = min a.count b.count := by
  show (if b.count < a.count then b else a).count = min a.count b.count
  split <;> omega

end Face

end Tabletop
