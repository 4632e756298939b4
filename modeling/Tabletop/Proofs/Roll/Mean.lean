import Mathlib.Data.List.Nodup
import Mathlib.Data.List.Sections
import Mathlib.Tactic.Ring
import Tabletop.Proofs.Roll.Reach

/-!
# The mean over all outcomes

The mean that is announced for an expression is told by its groups alone: each
die counts half of one more than its sides. It is the mean in the proper sense
too. Over all the sequences of faces that the dice of a plain roll may show,
each of them taken once, the totals sum up to as many times the mean as there
are sequences (`Expression.mean_over_outcomes`).

There are as many sequences as all the numbers of sides multiplied, so they
are not gone through. The faces of one die sum up to half of its sides times
one more (`twice_sumOf_facesOf`), and a die more makes of every sequence as
many as the die has faces (`twice_sumOf_outcomes`).

What is announced is rounded to the bits of a binary number. No group adds
anything negative, so nothing is lost as long as the mean is small and that of
the dice is (`Expression.mean_eq`).
-/

namespace Tabletop

open Rolling

theorem sumOf_map_add {α : Type} (f : α → Int) (n : Int) (as : List α) :
    sumOf (as.map fun a => f a + n) = sumOf (as.map f) + as.length * n := by
  rw [sumOf_eq_sum, List.sum_map_add, List.map_const', List.sum_replicate, nsmul_eq_mul]
  rfl

/-! ## The faces of a die -/

/-- **The faces of a die** of so many sides. -/
def facesOf (sides : Int) : List Int :=
  (List.range sides.toNat).map fun n : Nat => (n : Int) + 1

theorem mem_facesOf {sides n : Int} : n ∈ facesOf sides ↔ 1 ≤ n ∧ n ≤ sides := by
  rw [facesOf, List.mem_map]
  constructor
  · rintro ⟨m, hm, rfl⟩
    rw [List.mem_range] at hm
    omega
  · rintro ⟨hone, hle⟩
    exact ⟨(n - 1).toNat, List.mem_range.2 (by omega), by omega⟩

theorem nodup_facesOf (sides : Int) : (facesOf sides).Nodup :=
  List.nodup_range.map fun _ _ h => Int.ofNat_inj.1 ((Int.add_left_inj 1).1 h)

theorem length_facesOf {sides : Int} (h : 0 ≤ sides) : ((facesOf sides).length : Int) = sides := by
  rw [facesOf, List.length_map, List.length_range, Int.toNat_of_nonneg h]

/-- **The faces of a die sum up** to half of its sides times one more. -/
theorem twice_sumOf_facesOf {sides : Int} (h : 0 ≤ sides) :
    2 * sumOf (facesOf sides) = sides * (sides + 1) := by
  have hfirst (n : Nat) :
      2 * sumOf ((List.range n).map fun m : Nat => (m : Int) + 1) = n * (n + 1 : Int) := by
    induction n with
    | zero => rfl
    | succ n ih =>
      rw [List.range_succ, List.map_append, sumOf_append, Int.mul_add, ih, List.map_singleton,
        sumOf_cons, sumOf_nil, Int.natCast_succ]
      ring
  rw [facesOf, hfirst, Int.toNat_of_nonneg h]

/-! ## The outcomes of requests -/

/-- **What dice for requests may show**: all the sequences of a face for each. -/
def outcomes (plan : List Int) : List (List Int) :=
  (plan.map facesOf).sections

theorem outcomes_cons (sides : Int) (plan : List Int) :
    outcomes (sides :: plan) =
      (outcomes plan).flatMap fun shown => (facesOf sides).map fun n => n :: shown :=
  rfl

/-- **The outcomes are the sequences of numbers** from one to that of the sides each. -/
theorem mem_outcomes {plan shown : List Int} :
    shown ∈ outcomes plan ↔ List.Forall₂ (fun sides n => 1 ≤ n ∧ n ≤ sides) plan shown := by
  rw [outcomes, List.mem_sections, List.forall₂_map_right_iff]
  simp only [mem_facesOf]
  exact ⟨.flip, .flip⟩

/-- **Each of them is listed once.** -/
theorem nodup_outcomes (plan : List Int) : (outcomes plan).Nodup := by
  induction plan with
  | nil => exact List.nodup_singleton []
  | cons sides plan ih =>
    rw [outcomes_cons, List.nodup_flatMap]
    refine ⟨fun shown _ => (nodup_facesOf sides).map fun _ _ h => (List.cons.inj h).1, ?_⟩
    -- outcomes of the other dice that differ make outcomes that differ
    refine ih.imp fun {shown shown'} hne both hmem hmem' => ?_
    obtain ⟨n, -, rfl⟩ := List.mem_map.1 hmem
    obtain ⟨n', -, heq⟩ := List.mem_map.1 hmem'
    exact hne (List.cons.inj heq).2.symm

theorem length_outcomes_cons {sides : Int} (h : 0 ≤ sides) (plan : List Int) :
    ((outcomes (sides :: plan)).length : Int) = (outcomes plan).length * sides := by
  rw [outcomes_cons, List.length_flatMap]
  simp only [List.length_map, List.map_const', List.sum_replicate_nat, Int.natCast_mul,
    length_facesOf h]

/-- What its faces sum up to is counted for every outcome, and every outcome for each of
them. -/
theorem sumOf_outcomes_cons {sides : Int} (h : 0 ≤ sides) (plan : List Int) :
    sumOf ((outcomes (sides :: plan)).map sumOf) =
      sides * sumOf ((outcomes plan).map sumOf) +
        (outcomes plan).length * sumOf (facesOf sides) := by
  have hone (shown : List Int) : sumOf (((facesOf sides).map fun n => n :: shown).map sumOf) =
      sides * sumOf shown + sumOf (facesOf sides) := by
    rw [List.map_map]
    show sumOf ((facesOf sides).map fun n => n + sumOf shown) = _
    rw [sumOf_map_add, List.map_id', length_facesOf h, Int.add_comm]
  rw [outcomes_cons, List.map_flatMap, List.flatMap, sumOf_eq_sum, List.sum_flatten, List.map_map]
  show sumOf ((outcomes plan).map fun shown =>
    sumOf (((facesOf sides).map fun n => n :: shown).map sumOf)) = _
  simp only [hone]
  rw [sumOf_map_add, sumOf_eq_sum, List.sum_map_mul_left]
  rfl

/-- **The outcomes sum up** to as many times the middle between the least and the greatest as
there are outcomes. -/
theorem twice_sumOf_outcomes {plan : List Int} (hplan : ∀ sides ∈ plan, 0 ≤ sides) :
    2 * sumOf ((outcomes plan).map sumOf) =
      (outcomes plan).length * (plan.length + sumOf plan) := by
  induction plan with
  | nil => rfl
  | cons sides plan ih =>
    rw [List.forall_mem_cons] at hplan
    calc 2 * sumOf ((outcomes (sides :: plan)).map sumOf)
        = sides * (2 * sumOf ((outcomes plan).map sumOf)) +
            (outcomes plan).length * (2 * sumOf (facesOf sides)) := by
          rw [sumOf_outcomes_cons hplan.1]
          ring
      _ = (outcomes plan).length * sides * (plan.length + 1 + (sides + sumOf plan)) := by
          rw [ih hplan.2, twice_sumOf_facesOf hplan.1]
          ring
      _ = (outcomes (sides :: plan)).length * ((sides :: plan).length + sumOf (sides :: plan)) := by
          rw [length_outcomes_cons hplan.1, List.length_cons, sumOf_cons, Int.natCast_succ]

/-! ## Rolls with every outcome -/

/-- An outcome is what some dice show that fit the requests, and that a script replies with. -/
theorem exists_fits_of_mem_outcomes {plan shown : List Int} (h : shown ∈ outcomes plan) :
    ∃ ds, List.Forall₂ Die.Fits plan ds ∧ ds.map Die.shows = shown ∧
      ds.map Die.reply = shown.map fun n => .value (.whole n) := by
  rw [mem_outcomes] at h
  induction h with
  | nil => exact ⟨[], .nil, rfl, rfl⟩
  | @cons sides n _ _ hn _ ih =>
    obtain ⟨ds, hfits, hshows, hreply⟩ := ih
    have hdie : Die.Fits sides ⟨sides, .number n⟩ := ⟨rfl, hn.1, hn.2⟩
    refine ⟨⟨sides, .number n⟩ :: ds, .cons hdie hfits, ?_, ?_⟩
    · rw [List.map_cons, hshows]
      rfl
    · rw [List.map_cons, hreply]
      rfl

namespace Expression

variable {e : Expression} {mode : Mode} {policy : CriticalPolicy} {shown : List Int}

/-- **A roll with an outcome of its plan** succeeds, and comes to what these faces do. -/
theorem exists_roll_of_mem_outcomes (hcount : ∀ g ∈ e.groups, 0 ≤ g.count)
    (h : shown ∈ outcomes (e.plan mode policy)) :
    ∃ r, (Attempt.scripted shown mode policy).roll? e = some r ∧
      r.total = e.worth mode policy shown := by
  obtain ⟨ds, hfits, hshows, hreply⟩ := exists_fits_of_mem_outcomes h
  obtain ⟨r, t', hr, rfl⟩ := exists_gives_of_fits hfits
  have htotal := (worth_of_gives hcount hr).2
  rw [hshows] at htotal
  rw [hreply] at hr
  exact ⟨r, congrArg (fun result : Except RollError Roll × Tape Script => result.1.toOption) hr,
    htotal⟩

theorem plan_normal (e : Expression) (policy : CriticalPolicy) :
    e.plan .normal policy = Group.allRequests .normal policy e.groups :=
  List.append_nil _

theorem worth_normal (h : shown ∈ outcomes (e.plan .normal policy)) :
    e.worth .normal policy shown = sumOf shown + e.modifier := by
  have hlength : shown.length = (Group.allRequests .normal policy e.groups).length := by
    rw [← plan_normal, (mem_outcomes.1 h).length_eq]
  have hworth : e.worth .normal policy (shown ++ []) = sumOf shown + 0 + 0 + e.modifier :=
    e.worth_append hlength
  rwa [List.append_nil, Int.add_zero, Int.add_zero] at hworth

/-- **Rolls with outcomes of the plan**, one for each, of which the totals are their sums and
the modifier. -/
theorem exists_rolls (hcount : ∀ g ∈ e.groups, 0 ≤ g.count) {all : List (List Int)}
    (h : ∀ shown ∈ all, shown ∈ outcomes (e.plan .normal policy)) :
    ∃ rolls, List.Forall₂
        (fun shown r => (Attempt.scripted shown .normal policy).roll? e = some r) all rolls ∧
      rolls.map Roll.total = all.map fun shown => sumOf shown + e.modifier := by
  induction all with
  | nil => exact ⟨[], .nil, rfl⟩
  | cons shown all ih =>
    rw [List.forall_mem_cons] at h
    obtain ⟨rolls, hrolls, htotals⟩ := ih h.2
    obtain ⟨r, hr, htotal⟩ := exists_roll_of_mem_outcomes hcount h.1
    refine ⟨r :: rolls, .cons hr hrolls, ?_⟩
    rw [List.map_cons, List.map_cons, htotals, htotal, worth_normal h.1]

/-- The requests of a plain roll and all their sides make up both ends of the spread, but for
the modifier. -/
theorem length_add_sumOf_plan (hcount : ∀ g ∈ e.groups, 0 ≤ g.count) (policy : CriticalPolicy) :
    (e.plan .normal policy).length + sumOf (e.plan .normal policy) + 2 * e.modifier =
      e.twiceMean := by
  rw [plan_normal, Group.allRequests_of_ne (by decide), Group.length_flatMap_requests hcount,
    Group.sumOf_flatMap_requests hcount, twiceMean_eq, lowest, highest]
  omega

/-- **The mean is announced as it is**, as long as that and the mean of the dice have few enough
bits. -/
theorem mean_eq (hgroups : ∀ g ∈ e.groups, 0 ≤ g.count * (g.sides + 1))
    (hdice : sumOf (e.groups.map fun g => g.count * (g.sides + 1)) < (1 <<< Text.Binary.bits : Nat))
    (htotal : e.twiceMean.natAbs < 1 <<< Text.Binary.bits) :
    e.mean = Text.Decimal.ofHalves e.twiceMean := by
  have hterms : ∀ t ∈ e.groups.map fun g => g.count * (g.sides + 1), 0 ≤ t :=
    List.forall_mem_map.2 hgroups
  rw [sumOf_eq_sum] at hdice
  rw [mean, roundedSum_eq, twiceMean]
  · intro t ht
    obtain ht | ht := List.mem_append.1 ht
    · have hnonneg := hterms t ht
      have hle := List.single_le_sum hterms t ht
      exact roundedTo_of_lt (by omega)
    · obtain rfl := List.mem_singleton.1 ht
      have hnonneg := List.sum_nonneg hterms
      rw [twiceMean, twiceMeans, sumOf_append, sumOf_eq_sum, sumOf_cons, sumOf_nil] at htotal
      exact roundedTo_two_mul (by omega)
  · intro before hbefore
    obtain rfl | ⟨after, hafter⟩ := List.prefix_concat_iff.1 hbefore
    · exact htotal
    · -- no group adds anything negative, so the first ones add no more than all of them
      rw [← hafter, List.forall_mem_append] at hterms
      rw [← hafter, List.sum_append] at hdice
      have hfirst := List.sum_nonneg hterms.1
      have hothers := List.sum_nonneg hterms.2
      rw [sumOf_eq_sum]
      omega

/-- **The announced mean is the mean over all outcomes.** Take every sequence of faces that the
dice of a plain roll may show, each of them once. A roll with these faces succeeds, and over all
of them the totals sum up to the mean, as many times as there are sequences. Twice the mean is
the sum of the lowest and the highest total. As long as it is below two to the fifty-second, and
the mean of the dice is, it is announced as it is. -/
theorem mean_over_outcomes (hcount : ∀ g ∈ e.groups, 1 ≤ g.count)
    (hsides : ∀ g ∈ e.groups, 1 ≤ g.sides) (policy : CriticalPolicy) :
    let all := outcomes (e.plan .normal policy)
    (all.Nodup ∧ ∀ shown, shown ∈ all ↔
        List.Forall₂ (fun sides n => 1 ≤ n ∧ n ≤ sides) (e.plan .normal policy) shown) ∧
      (∃ rolls, List.Forall₂
          (fun shown r => (Attempt.scripted shown .normal policy).roll? e = some r) all rolls ∧
        2 * sumOf (rolls.map Roll.total) = all.length * e.twiceMean) ∧
      e.twiceMean = e.lowest + e.highest ∧
      (sumOf (e.groups.map fun g => g.count * (g.sides + 1)) < 2 * 2 ^ 52 →
        e.twiceMean.natAbs < 2 * 2 ^ 52 → e.mean = Text.Decimal.ofHalves e.twiceMean) := by
  intro all
  have hnonneg : ∀ g ∈ e.groups, 0 ≤ g.count := fun g hg => Int.le_trans (by decide) (hcount g hg)
  have hplan : ∀ sides ∈ e.plan .normal policy, 0 ≤ sides := by
    rw [plan_normal]
    exact fun sides h => Int.le_trans (by decide)
      (Group.one_le_of_mem_allRequests .normal policy hsides sides h)
  refine ⟨⟨nodup_outcomes _, fun _ => mem_outcomes⟩, ?_, e.twiceMean_eq, mean_eq fun g hg => ?_⟩
  · obtain ⟨rolls, hrolls, htotals⟩ := exists_rolls hnonneg fun shown (h : shown ∈ all) => h
    have hsum : 2 * sumOf (all.map sumOf) = all.length * _ := twice_sumOf_outcomes hplan
    refine ⟨rolls, hrolls, ?_⟩
    calc 2 * sumOf (rolls.map Roll.total)
        = 2 * sumOf (all.map sumOf) + all.length * (2 * e.modifier) := by
          rw [htotals, sumOf_map_add]
          ring
      _ = all.length * e.twiceMean := by
          rw [hsum, ← length_add_sumOf_plan hnonneg policy, Int.mul_add _ _ (2 * e.modifier)]
  · have hone := hsides g hg
    exact Int.mul_nonneg (hnonneg g hg) (by omega)

/-- Two dice of two sides and one of four, less one, may show sixteen sequences of faces. The
totals sum up to sixteen times four and a half. -/
theorem mean_over_outcomes_of_two_groups :
    let e : Expression := ⟨[⟨2, 2⟩, ⟨1, 4⟩], by decide, -1, "2d2+1d4-1"⟩
    (∀ g ∈ e.groups, 1 ≤ g.count) ∧ (∀ g ∈ e.groups, 1 ≤ g.sides) ∧
      (outcomes [2, 2, 4]).length = 16 ∧
      (∃ rolls, List.Forall₂
          (fun shown r => (Attempt.scripted shown .normal .double).roll? e = some r)
          (outcomes [2, 2, 4]) rolls ∧
        sumOf (rolls.map Roll.total) = 72) ∧
      e.lowest + e.highest = 9 ∧ e.mean = .ofHalves 9 := by
  intro e
  have hcount : ∀ g ∈ e.groups, 1 ≤ g.count := by decide
  have hsides : ∀ g ∈ e.groups, 1 ≤ g.sides := by decide
  obtain ⟨-, ⟨rolls, hrolls, htotals⟩, hends, hmean⟩ := mean_over_outcomes hcount hsides .double
  have hlength : (outcomes (e.plan .normal .double)).length = 16 := rfl
  have htwice : e.twiceMean = 9 := rfl
  rw [hlength, htwice] at htotals
  exact ⟨hcount, hsides, rfl, ⟨rolls, hrolls, by omega⟩, hends.symm, hmean (by decide) (by decide)⟩

end Expression

end Tabletop
