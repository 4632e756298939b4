/-!
# Sums

Totals are sums of whole numbers: of faces, of parts, of groups.
-/

namespace Tabletop

/-- **The sum of whole numbers.** -/
def sumOf (ns : List Int) : Int :=
  ns.foldr (· + ·) 0

@[simp] theorem sumOf_nil : sumOf [] = 0 := rfl

@[simp] theorem sumOf_cons (n : Int) (ns : List Int) : sumOf (n :: ns) = n + sumOf ns := rfl

@[simp] theorem sumOf_append (ms ns : List Int) : sumOf (ms ++ ns) = sumOf ms + sumOf ns := by
  induction ms with
  | nil => exact (Int.zero_add _).symm
  | cons m ms ih => rw [List.cons_append, sumOf_cons, sumOf_cons, ih, Int.add_assoc]

end Tabletop
