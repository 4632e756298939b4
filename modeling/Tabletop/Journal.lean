import Tabletop.Roll.Part

/-!
# The journal of rolls

A journal holds the latest rolls, the newest first, up to a capacity.
Entering a roll into a full journal drops the oldest one. Each record has
an identifier, by which it is looked up and removed, and may have a note
on the occasion of the roll.

The capacity is positive and never exceeded; the type says both.
-/

namespace Tabletop

/-- **A record of a roll.** -/
structure Record where
  /-- What the record is called. -/
  id : String
  /-- The roll. -/
  roll : Roll
  /-- What was said of the occasion, which may be nothing. -/
  context : Value

/-- **A journal.** -/
structure Journal where
  /-- How many records it can hold. -/
  capacity : Nat
  /-- There is room for a record. -/
  capacity_pos : 0 < capacity
  /-- The records, the newest first. -/
  records : List Record
  /-- They fit in. -/
  length_le : records.length ≤ capacity

namespace Journal

/-- An empty journal of positive capacity. -/
def empty (capacity : Nat) (h : 0 < capacity) : Journal :=
  ⟨capacity, h, [], Nat.zero_le _⟩

/-- **An empty journal**, if the capacity asked for is positive. -/
def empty? (capacity : Int) : Option Journal :=
  if h : 0 < capacity.toNat then some (empty capacity.toNat h) else none

/-- The message on a capacity that is not positive. -/
def capacityMessage : String := "max_entries must be at least 1"

/-- How many records a journal holds. -/
def size (j : Journal) : Nat :=
  j.records.length

/-- Whether the next record drops the oldest. -/
def isFull (j : Journal) : Bool :=
  j.capacity ≤ j.size

/-- **Enters a record**, which becomes the newest. -/
def enter (j : Journal) (r : Record) : Journal where
  capacity := j.capacity
  capacity_pos := j.capacity_pos
  records := (r :: j.records).take j.capacity
  length_le := List.length_take_le _ _

/-- The record of an identifier. -/
def find? (j : Journal) (id : String) : Option Record :=
  j.records.find? fun r => r.id == id

/-- Whether a journal holds a record of an identifier. -/
def contains (j : Journal) (id : String) : Bool :=
  j.records.any fun r => r.id == id

/-- **Removes the record of an identifier**, if there is one. -/
def remove (j : Journal) (id : String) : Journal where
  capacity := j.capacity
  capacity_pos := j.capacity_pos
  records := j.records.eraseP fun r => r.id == id
  length_le := Nat.le_trans List.length_eraseP_le j.length_le

/-- **Removes all records.** -/
def clear (j : Journal) : Journal :=
  empty j.capacity j.capacity_pos

/-- **The newest records**: all of them, or as many as asked for; a negative
number cannot be asked for. -/
def newest? (j : Journal) (limit : Option Int) : Option (List Record) :=
  match limit with
  | none => some j.records
  | some n => if n < 0 then none else some (j.records.take n.toNat)

/-- The message on a negative number of records. -/
def limitMessage : String := "limit must not be negative"

@[simp] theorem records_enter (j : Journal) (r : Record) :
    (j.enter r).records = (r :: j.records).take j.capacity := rfl

@[simp] theorem records_clear (j : Journal) : j.clear.records = [] := rfl

@[simp] theorem capacity_enter (j : Journal) (r : Record) :
    (j.enter r).capacity = j.capacity := rfl

@[simp] theorem capacity_remove (j : Journal) (id : String) :
    (j.remove id).capacity = j.capacity := rfl

@[simp] theorem capacity_clear (j : Journal) : j.clear.capacity = j.capacity := rfl

theorem isFull_iff (j : Journal) : j.isFull = true ↔ j.size = j.capacity :=
  ⟨fun h => Nat.le_antisymm j.length_le (of_decide_eq_true h),
    fun h => decide_eq_true (Nat.le_of_eq h.symm)⟩

/-- **Entering a record** puts it first, and drops the last record of a full journal. -/
theorem records_enter_eq (j : Journal) (r : Record) :
    (j.enter r).records = r :: if j.isFull then j.records.dropLast else j.records := by
  obtain ⟨n, hn⟩ := Nat.exists_eq_succ_of_ne_zero (Nat.ne_of_gt j.capacity_pos)
  rw [records_enter, hn, List.take_succ_cons]
  split
  · next hfull =>
    have hsize : j.records.length = n + 1 := ((isFull_iff j).1 hfull).trans hn
    rw [List.dropLast_eq_take, hsize, Nat.add_sub_cancel]
  · next hroom =>
    have hle : j.records.length ≤ n + 1 := Nat.le_trans j.length_le (Nat.le_of_eq hn)
    have hne : j.records.length ≠ n + 1 := fun h => hroom ((isFull_iff j).2 (h.trans hn.symm))
    rw [List.take_of_length_le (by omega)]

theorem mem_of_find? {j : Journal} {id : String} {r : Record} (h : j.find? id = some r) :
    r ∈ j.records ∧ r.id = id :=
  ⟨List.mem_of_find?_eq_some h, eq_of_beq (List.find?_eq_some_iff_append.1 h).1⟩

theorem mem_of_mem_newest? {j : Journal} {limit : Option Int} {records : List Record}
    {record : Record} (h : j.newest? limit = some records) (hrecord : record ∈ records) :
    record ∈ j.records := by
  unfold newest? at h
  split at h
  · exact Option.some.inj h ▸ hrecord
  · split at h
    · cases h
    · exact List.mem_of_mem_take (Option.some.inj h ▸ hrecord)

end Journal

end Tabletop
