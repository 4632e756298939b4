import Tabletop.Sum

/-!
# Rounding

Sums may be kept to a number of significant bits only. A number that has
more of them becomes the nearest one that has no more, and of two that
are equally near the one whose last bit is zero.

Rounding leaves alone what has few enough bits (`roundedTo_of_lt`), so a
rounded sum is the sum itself as long as its terms are left alone and the
sums on the way are small (`roundedSum_eq`).
-/

namespace Tabletop

/-- The value of the last of the `bits` most significant bits of a number. -/
def lastBit (bits : Nat) (n : Int) : Int :=
  (1 <<< (n.natAbs.log2 + 1 - bits) : Nat)

theorem lastBit_pos (bits : Nat) (n : Int) : 0 < lastBit bits n := by
  rw [lastBit, Nat.one_shiftLeft]
  exact Int.natCast_pos.mpr (Nat.two_pow_pos _)

/-- **A quotient to the nearest whole number**, and to the even one of two that
are equally near. -/
def roundedQuotient (num den : Int) : Int :=
  let below := num / den
  let rest := num % den
  if 2 * rest < den ∨ (2 * rest = den ∧ below % 2 = 0) then below else below + 1

/-- **A number to so many significant bits.** -/
def roundedTo (bits : Nat) (n : Int) : Int :=
  roundedQuotient n (lastBit bits n) * lastBit bits n

/-- **A sum to so many significant bits**: the terms are added in order, and
every term and every sum is rounded. -/
def roundedSum (bits : Nat) (terms : List Int) : Int :=
  terms.foldl (fun sum term => roundedTo bits (sum + roundedTo bits term)) 0

/-- A quotient is rounded by no more than a half. -/
theorem roundedQuotient_near {num den : Int} (h : 0 < den) :
    2 * (roundedQuotient num den * den - num).natAbs ≤ den := by
  have hsplit := Int.mul_ediv_add_emod num den
  have hrest := Int.emod_nonneg num (Int.ne_of_gt h)
  have hlt := Int.emod_lt_of_pos num h
  rw [Int.mul_comm] at hsplit
  unfold roundedQuotient
  dsimp only
  split
  · omega
  · rw [Int.add_mul, Int.one_mul]
    omega

/-- A number is rounded by no more than half of the last bit. -/
theorem roundedTo_near (bits : Nat) (n : Int) :
    2 * (roundedTo bits n - n).natAbs ≤ lastBit bits n :=
  roundedQuotient_near (lastBit_pos bits n)

/-- A number with few enough bits is not rounded. -/
theorem roundedTo_of_lt {bits : Nat} {n : Int} (h : n.natAbs < 1 <<< bits) :
    roundedTo bits n = n := by
  by_cases hn : n = 0
  · have hpos := lastBit_pos bits 0
    simp [roundedTo, roundedQuotient, hn, hpos]
  · rw [Nat.one_shiftLeft] at h
    have hlog : n.natAbs.log2 < bits := (Nat.log2_lt (by omega)).mpr h
    have hunit : lastBit bits n = 1 := by
      rw [lastBit, Nat.sub_eq_zero_of_le hlog]
      rfl
    simp [roundedTo, roundedQuotient, hunit]

/-- Nor is one twice as large, as long as it is even. -/
theorem roundedTo_two_mul {bits : Nat} {n : Int} (h : n.natAbs < 1 <<< bits) :
    roundedTo bits (2 * n) = 2 * n := by
  by_cases hsmall : (2 * n).natAbs < 1 <<< bits
  · exact roundedTo_of_lt hsmall
  · rw [Nat.one_shiftLeft] at h hsmall
    have hn : (2 * n).natAbs ≠ 0 := by
      have hpos := Nat.two_pow_pos bits
      omega
    have hlog : (2 * n).natAbs.log2 = bits := by
      rw [Nat.log2_eq_iff hn, Nat.pow_succ]
      omega
    have hunit : lastBit bits (2 * n) = 2 := by
      rw [lastBit, hlog, Nat.add_sub_cancel_left]
      rfl
    have hquotient : roundedQuotient (2 * n) 2 = n := by
      unfold roundedQuotient
      dsimp only
      rw [if_pos (.inl (by omega))]
      omega
    rw [roundedTo, hunit, hquotient, Int.mul_comm]

/-- Terms that are not rounded are added without rounding, as long as the sums on the way
are small. -/
theorem foldl_rounded {bits : Nat} {terms : List Int} {sum : Int}
    (hterms : ∀ t ∈ terms, roundedTo bits t = t)
    (hsums : ∀ before, before <+: terms → (sum + sumOf before).natAbs < 1 <<< bits) :
    terms.foldl (fun sum term => roundedTo bits (sum + roundedTo bits term)) sum
      = sum + sumOf terms := by
  induction terms generalizing sum with
  | nil => exact (Int.add_zero sum).symm
  | cons t ts ih =>
    rw [List.forall_mem_cons] at hterms
    have hsum : roundedTo bits (sum + t) = sum + t := by
      refine roundedTo_of_lt ?_
      have hfirst := hsums [t] ⟨ts, rfl⟩
      rwa [sumOf_cons, sumOf_nil, Int.add_zero] at hfirst
    rw [List.foldl_cons, hterms.1, hsum, sumOf_cons, ← Int.add_assoc]
    refine ih hterms.2 fun before hbefore => ?_
    rw [Int.add_assoc]
    exact hsums (t :: before) ((List.prefix_cons_inj t).2 hbefore)

/-- **A rounded sum is the sum** if none of its terms is rounded, and the sums on the way are
small. -/
theorem roundedSum_eq {bits : Nat} {terms : List Int}
    (hterms : ∀ t ∈ terms, roundedTo bits t = t)
    (hsums : ∀ before, before <+: terms → (sumOf before).natAbs < 1 <<< bits) :
    roundedSum bits terms = sumOf terms := by
  rw [roundedSum, foldl_rounded hterms (by simpa only [Int.zero_add] using hsums), Int.zero_add]

end Tabletop
