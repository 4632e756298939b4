/-!
# Tables of code points

Some properties of characters follow no formula: which signs count as
letters, which as blanks, which can be printed. Each is held as a table
of ranges, and membership in a table is all that the rest of the library
reads off it.
-/

namespace Tabletop.Text

/-- **A table of code points**: the ranges of a character property, both
ends of a range included, in increasing order. -/
abbrev CodePoints := List (Nat × Nat)

/-- Whether a character lies in one of the ranges. -/
def CodePoints.has (table : CodePoints) (c : Char) : Bool :=
  table.any fun range => range.1 ≤ c.toNat && c.toNat ≤ range.2

theorem CodePoints.has_iff {table : CodePoints} {c : Char} :
    table.has c = true ↔ ∃ range ∈ table, range.1 ≤ c.toNat ∧ c.toNat ≤ range.2 := by
  simp [CodePoints.has]

end Tabletop.Text
