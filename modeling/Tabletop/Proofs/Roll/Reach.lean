import Tabletop.Notation.Spread
import Tabletop.Proofs.Roll.Plan

/-!
# Which totals can be rolled

The spread of an expression says what its total is at least and at most.
It says more: every total in between can be rolled, by some source, and in
the other modes the totals that can be rolled lie between two numbers that
the spread tells (`Expression.reaches_iff_spread`).

A roll can come to what the dice for its plan come to
(`Expression.reaches_iff_dice`), and dice for requests that are put
together come to all numbers between two ends if those for each of the
requests do (`ComesTo.append`).
-/

namespace Tabletop

open Rolling

/-! ## Dice for requests -/

namespace Rolling

variable {σ α : Type} {plan : List Int} {ds : List Die}

/-- **Dice that fit requests** are played for them. -/
theorem plays_requests (h : List.Forall₂ Die.Fits plan ds) : Plays (plan.mapM die) ds ds := by
  induction h with
  | nil =>
    rw [List.mapM_nil]
    exact plays_pure []
  | cons hd _ ih =>
    rw [List.mapM_cons]
    exact (plays_die hd).bind (ih.map (_ :: ·))

variable [Source σ] {t t' : Tape σ}

theorem fit_of_gives (h : Gives (plan.mapM die) t ds t') : List.Forall₂ Die.Fits plan ds :=
  forall₂_of_gives_mapM (fun _ _ _ _ _ => fits_of_gives_die) h

/-- **A rolling that follows a plan** gives something with the dice that the plan gives. -/
theorem Follows.exists_gives {action : Rolling σ α} {dice : α → List Die}
    (h : Follows action plan dice) (hds : Gives (plan.mapM die) t ds t') :
    ∃ a, Gives action t a t' ∧ dice a = ds := by
  obtain ⟨a, t₁, ha⟩ | ⟨error, t₁, ha⟩ := gives_or_fails action t
  · obtain ⟨hdice, rfl⟩ := (h.gives ha).unique hds
    exact ⟨a, ha, hdice⟩
  · exact absurd (h.fails ha) hds.not_fails

end Rolling

namespace Expression

variable {e : Expression} {mode : Mode} {policy : CriticalPolicy} {total : Int}

/-- **Whether a total can be rolled**: some source lets a roll come to it. -/
def Reaches (e : Expression) (mode : Mode) (policy : CriticalPolicy) (total : Int) : Prop :=
  ∃ (σ : Type) (_ : Source σ) (t t' : Tape σ) (r : Roll),
    Gives (e.rollAs mode.value policy) t r t' ∧ r.total = total

/-- What a roll comes to: its dice fit the plan, and the total is what they come to. -/
theorem worth_of_gives {σ : Type} [Source σ] {t t' : Tape σ} {r : Roll}
    (hcount : ∀ g ∈ e.groups, 0 ≤ g.count) (hr : Gives (e.rollAs mode.value policy) t r t') :
    List.Forall₂ Die.Fits (e.plan mode policy) r.dice ∧
      r.total = e.worth mode policy (r.dice.map Die.shows) := by
  obtain ⟨hexpression, hmode, hmade⟩ := Roll.madeUnder_of_gives_rollAs hcount hr
  rw [Mode.ofValue?_value, Option.some.injEq] at hmode
  subst hexpression hmode
  have hfollows := r.expression.follows_rollAs (σ := σ) r.mode policy
  exact ⟨fit_of_gives (hfollows.gives hr), hmade.total_eq (hfollows.dice_eq hr).2.1⟩

/-- **Dice that fit the plan are rolled** for a script that replies with them. -/
theorem exists_gives_of_fits {ds : List Die} (hds : List.Forall₂ Die.Fits (e.plan mode policy) ds) :
    ∃ r t', Gives (e.rollAs mode.value policy) ⟨Script.replies (ds.map Die.reply), #[]⟩ r t' ∧
      r.dice = ds := by
  have hplayed := plays_requests hds [] #[]
  rw [List.append_nil] at hplayed
  obtain ⟨r, hr, hdice⟩ := (e.follows_rollAs mode policy).exists_gives hplayed
  exact ⟨r, _, hr, hdice⟩

/-- **A roll can come to what dice for its plan come to**, and to nothing else. -/
theorem reaches_iff_dice (hcount : ∀ g ∈ e.groups, 0 ≤ g.count) :
    e.Reaches mode policy total ↔ ∃ ds, List.Forall₂ Die.Fits (e.plan mode policy) ds ∧
      e.worth mode policy (ds.map Die.shows) = total := by
  constructor
  · rintro ⟨σ, _, t, t', r, hr, rfl⟩
    obtain ⟨hfits, hworth⟩ := worth_of_gives hcount hr
    exact ⟨r.dice, hfits, hworth.symm⟩
  · rintro ⟨ds, hds, rfl⟩
    obtain ⟨r, t', hr, rfl⟩ := exists_gives_of_fits hds
    exact ⟨Script, inferInstance, _, t', r, hr, (worth_of_gives hcount hr).2⟩

end Expression

/-! ## What dice come to -/

/-- **Dice for requests come to exactly the numbers between two ends.** -/
structure ComesTo (plan : List Int) (worth : List Int → Int) (low high : Int) : Prop where
  /-- There is a number between the ends. -/
  le : low ≤ high
  /-- The numbers between them are what dice come to. -/
  iff : ∀ n, (∃ ds, List.Forall₂ Die.Fits plan ds ∧ worth (ds.map Die.shows) = n) ↔
    low ≤ n ∧ n ≤ high

namespace ComesTo

variable {plan plan' : List Int} {worth worth' both : List Int → Int} {low high low' high' : Int}

theorem nil (h : worth [] = 0) : ComesTo [] worth 0 0 where
  le := Int.le_refl 0
  iff n := by
    constructor
    · rintro ⟨ds, hds, rfl⟩
      cases hds
      rw [List.map_nil, h]
      exact ⟨Int.le_refl 0, Int.le_refl 0⟩
    · rintro ⟨hlow, hhigh⟩
      exact ⟨[], .nil, h.trans (Int.le_antisymm hlow hhigh)⟩

/-- A die comes to each of its faces. -/
theorem die {sides : Int} (h : 1 ≤ sides) : ComesTo [sides] sumOf 1 sides where
  le := h
  iff n := by
    constructor
    · rintro ⟨ds, hds, rfl⟩
      cases hds with
      | cons hd hrest =>
        cases hrest
        show 1 ≤ _ + 0 ∧ _ + 0 ≤ sides
        rw [Int.add_zero]
        exact ⟨hd.one_le, hd.le_sides⟩
    · rintro ⟨hlow, hhigh⟩
      exact ⟨[⟨sides, .number n⟩], .cons ⟨rfl, hlow, hhigh⟩ .nil, Int.add_zero n⟩

/-- What is counted besides moves both ends. -/
theorem shift (h : ComesTo plan worth low high) (n : Int) :
    ComesTo plan (fun faces => worth faces + n) (low + n) (high + n) where
  le := Int.add_le_add_right h.le n
  iff m := by
    constructor
    · rintro ⟨ds, hds, rfl⟩
      obtain ⟨hlow, hhigh⟩ := (h.iff _).1 ⟨ds, hds, rfl⟩
      exact ⟨Int.add_le_add_right hlow n, Int.add_le_add_right hhigh n⟩
    · rintro ⟨hlow, hhigh⟩
      obtain ⟨ds, hds, hworth⟩ := (h.iff (m - n)).2 (by omega)
      refine ⟨ds, hds, ?_⟩
      show worth (ds.map Die.shows) + n = m
      rw [hworth, Int.sub_add_cancel]

/-- **Dice for requests that are put together** come to the sums of what the dice for each
come to. -/
theorem append (h : ComesTo plan worth low high) (h' : ComesTo plan' worth' low' high')
    (hboth : ∀ own more : List Int, own.length = plan.length →
      both (own ++ more) = worth own + worth' more) :
    ComesTo (plan ++ plan') both (low + low') (high + high') where
  le := Int.add_le_add h.le h'.le
  iff n := by
    constructor
    · rintro ⟨ds, hds, rfl⟩
      have hown := List.forall₂_take plan.length hds
      have hmore := List.forall₂_drop plan.length hds
      rw [List.take_left] at hown
      rw [List.drop_left] at hmore
      have hlow := (h.iff _).1 ⟨_, hown, rfl⟩
      have hhigh := (h'.iff _).1 ⟨_, hmore, rfl⟩
      have hlength : ((ds.take plan.length).map Die.shows).length = plan.length := by
        rw [List.length_map]
        exact hown.length_eq.symm
      rw [← List.take_append_drop plan.length ds, List.map_append, hboth _ _ hlength]
      omega
    · rintro ⟨hlow, hhigh⟩
      -- as much as possible comes of the second dice
      have hle := h.le
      have hle' := h'.le
      obtain ⟨own, hown, hworth⟩ := (h.iff (max low (n - high'))).2 (by omega)
      obtain ⟨more, hmore, hworth'⟩ := (h'.iff (n - max low (n - high'))).2 (by omega)
      have hlength : (own.map Die.shows).length = plan.length := by
        rw [List.length_map]
        exact hown.length_eq.symm
      refine ⟨own ++ more, List.rel_append hown hmore, ?_⟩
      rw [List.map_append, hboth _ _ hlength, hworth, hworth']
      omega

/-- **Dice come to every sum of faces**, from one for each to all of their sides. -/
theorem sum (hplan : ∀ sides ∈ plan, 1 ≤ sides) :
    ComesTo plan sumOf plan.length (sumOf plan) := by
  induction plan with
  | nil => exact nil rfl
  | cons sides plan ih =>
    rw [List.forall_mem_cons] at hplan
    have h : ComesTo ([sides] ++ plan) sumOf (1 + plan.length) (sides + sumOf plan) :=
      (die hplan.1).append (ih hplan.2) fun _ _ _ => sumOf_append _ _
    rwa [Int.add_comm 1] at h

end ComesTo

namespace Mode

/-- The least that the bonus faces of a mode count. -/
def leastBonus : Mode → Int
  | advantage => 1
  | disadvantage => -6
  | _ => 0

/-- The most that the bonus faces of a mode count. -/
def greatestBonus : Mode → Int
  | advantage => 6
  | disadvantage => -1
  | _ => 0

/-- Of two bonus dice each number is counted that one of them may show. -/
theorem comesTo_of_pair {mode : Mode} {low high : Int}
    (hrequests : mode.requests = [6, 6]) (hle : low ≤ high)
    (hpick : ∀ a b, 1 ≤ a → a ≤ 6 → 1 ≤ b → b ≤ 6 →
      low ≤ mode.worth [a, b] ∧ mode.worth [a, b] ≤ high)
    (hsame : ∀ n, low ≤ n → n ≤ high → ∃ a, 1 ≤ a ∧ a ≤ 6 ∧ mode.worth [a, a] = n) :
    ComesTo mode.requests mode.worth low high where
  le := hle
  iff n := by
    rw [hrequests]
    constructor
    · rintro ⟨ds, hds, rfl⟩
      cases hds with
      | cons ha hrest =>
        cases hrest with
        | cons hb hrest =>
          cases hrest
          exact hpick _ _ ha.one_le ha.le_sides hb.one_le hb.le_sides
    · rintro ⟨hlow, hhigh⟩
      obtain ⟨a, hone, hsix, hworth⟩ := hsame n hlow hhigh
      have hfits : Die.Fits 6 ⟨6, .number a⟩ := ⟨rfl, hone, hsix⟩
      exact ⟨_, .cons hfits (.cons hfits .nil), hworth⟩

/-- **What bonus faces count** are exactly the numbers between the least and the most. -/
theorem comesTo_worth (mode : Mode) :
    ComesTo mode.requests mode.worth mode.leastBonus mode.greatestBonus := by
  cases mode with
  | normal => exact .nil rfl
  | critical => exact .nil rfl
  | advantage =>
    refine comesTo_of_pair rfl (by decide) ?_ ?_
    · intro a b ha ha' hb hb'
      show 1 ≤ max a b ∧ max a b ≤ 6
      omega
    · intro n hlow hhigh
      refine ⟨n, hlow, hhigh, ?_⟩
      show max n n = n
      omega
  | disadvantage =>
    refine comesTo_of_pair rfl (by decide) ?_ ?_
    · intro a b ha ha' hb hb'
      show -6 ≤ -min a b ∧ -min a b ≤ -1
      omega
    · intro n hlow hhigh
      have hlow' : -6 ≤ n := hlow
      have hhigh' : n ≤ -1 := hhigh
      refine ⟨-n, by omega, by omega, ?_⟩
      show -min (-n) (-n) = n
      omega

end Mode

/-! ## The requests of groups -/

namespace Group

theorem length_requests {g : Group} (hcount : 0 ≤ g.count) (times : Nat) :
    ((g.requests times).length : Int) = times * g.count := by
  rw [requests, List.length_replicate, Int.natCast_mul, Int.toNat_of_nonneg hcount]

theorem sumOf_requests {g : Group} (hcount : 0 ≤ g.count) (times : Nat) :
    sumOf (g.requests times) = times * (g.count * g.sides) := by
  rw [requests, sumOf_eq_sum, List.sum_replicate, nsmul_eq_mul, Int.natCast_mul,
    Int.toNat_of_nonneg hcount, Int.mul_assoc]

variable {gs : List Group}

theorem length_flatMap_requests (hcount : ∀ g ∈ gs, 0 ≤ g.count) (times : Nat) :
    ((gs.flatMap (requests times)).length : Int) = times * sumOf (gs.map count) := by
  induction gs with
  | nil => exact (Int.mul_zero _).symm
  | cons g gs ih =>
    rw [List.forall_mem_cons] at hcount
    rw [List.flatMap_cons, List.length_append, Int.natCast_add, length_requests hcount.1,
      ih hcount.2, List.map_cons, sumOf_cons, Int.mul_add]

theorem sumOf_flatMap_requests (hcount : ∀ g ∈ gs, 0 ≤ g.count) (times : Nat) :
    sumOf (gs.flatMap (requests times)) = times * sumOf (gs.map fun g => g.count * g.sides) := by
  induction gs with
  | nil => exact (Int.mul_zero _).symm
  | cons g gs ih =>
    rw [List.forall_mem_cons] at hcount
    rw [List.flatMap_cons, sumOf_append, sumOf_requests hcount.1, ih hcount.2, List.map_cons,
      sumOf_cons, Int.mul_add]

theorem one_le_of_mem_flatMap {times : Nat} (hsides : ∀ g ∈ gs, 1 ≤ g.sides) :
    ∀ sides ∈ gs.flatMap (requests times), 1 ≤ sides := by
  intro sides hmem
  obtain ⟨g, hg, hrequest⟩ := List.mem_flatMap.1 hmem
  rw [List.eq_of_mem_replicate hrequest]
  exact hsides g hg

theorem one_le_of_mem_allRequests (mode : Mode) (policy : CriticalPolicy)
    (hsides : ∀ g ∈ gs, 1 ≤ g.sides) : ∀ sides ∈ allRequests mode policy gs, 1 ≤ sides := by
  unfold allRequests
  split
  · rw [List.forall_mem_cons] at hsides
    rw [List.forall_mem_append]
    refine ⟨fun sides hmem => ?_, one_le_of_mem_flatMap hsides.2⟩
    rw [List.eq_of_mem_replicate hmem]
    exact hsides.1
  · exact one_le_of_mem_flatMap hsides
  · exact one_le_of_mem_flatMap hsides

end Group

/-! ## The totals of an expression -/

namespace Expression

variable {e : Expression} {total : Int}

/-- **The totals that can be rolled in a mode** lie between two ends: that of as many as the
requests and that of all their sides, both with the bonus, what is granted and the modifier. -/
theorem reaches_iff (hcount : ∀ g ∈ e.groups, 0 ≤ g.count) (hsides : ∀ g ∈ e.groups, 1 ≤ g.sides)
    (mode : Mode) (policy : CriticalPolicy) :
    e.Reaches mode policy total ↔
      (Group.allRequests mode policy e.groups).length + mode.leastBonus +
          (e.granted mode policy + e.modifier) ≤ total ∧
        total ≤ sumOf (Group.allRequests mode policy e.groups) + mode.greatestBonus +
          (e.granted mode policy + e.modifier) := by
  have hown := ComesTo.sum (Group.one_le_of_mem_allRequests mode policy hsides)
  have hall : ComesTo (e.plan mode policy) (e.worth mode policy) _ _ :=
    (hown.shift (e.granted mode policy + e.modifier)).append mode.comesTo_worth
        fun own more hlength => by
      rw [worth_append e hlength]
      show _ = sumOf own + (e.granted mode policy + e.modifier) + _
      omega
  rw [reaches_iff_dice hcount, hall.iff, Int.add_right_comm, Int.add_right_comm (sumOf _)]

section Spread

variable (hcount : ∀ g ∈ e.groups, 0 ≤ g.count) (hsides : ∀ g ∈ e.groups, 1 ≤ g.sides)

include hcount hsides

/-- **In a mode other than a critical hit** the totals are those of the spread and a bonus. -/
theorem reaches_iff_of_ne {mode : Mode} (hmode : mode ≠ .critical) (policy : CriticalPolicy) :
    e.Reaches mode policy total ↔
      e.lowest + mode.leastBonus ≤ total ∧ total ≤ e.highest + mode.greatestBonus := by
  have hgranted : e.granted mode policy = 0 := by
    cases mode with
    | critical => exact absurd rfl hmode
    | _ => rfl
  rw [reaches_iff hcount hsides, Group.allRequests_of_ne hmode, hgranted,
    Group.length_flatMap_requests hcount, Group.sumOf_flatMap_requests hcount, lowest, highest]
  omega

/-- **On a critical hit of doubled dice** the totals are those of twice the dice. -/
theorem reaches_critical_double_iff : e.Reaches .critical .double total ↔
    2 * e.lowest - e.modifier ≤ total ∧ total ≤ 2 * e.highest - e.modifier := by
  have hrequests : Group.allRequests .critical .double e.groups =
      e.groups.flatMap (Group.requests 2) := rfl
  rw [reaches_iff hcount hsides, hrequests, Group.length_flatMap_requests hcount,
    Group.sumOf_flatMap_requests hcount, lowest, highest]
  show _ + 0 + (0 + e.modifier) ≤ total ∧ total ≤ _ + 0 + (0 + e.modifier) ↔ _
  omega

/-- **On a critical hit that grants the first group its second set** the lowest total is that
much higher, and the highest is the same. -/
theorem reaches_critical_maxFace_iff : e.Reaches .critical .maxFace total ↔
    2 * e.lowest - e.modifier + e.first.count * (e.first.sides - 1) ≤ total ∧
      total ≤ 2 * e.highest - e.modifier := by
  rw [reaches_iff hcount hsides]
  obtain ⟨groups, hne, modifier, text⟩ := e
  obtain ⟨g, gs, rfl⟩ := List.exists_cons_of_ne_nil hne
  rw [List.forall_mem_cons] at hcount
  show ((g.requests 1 ++ gs.flatMap (Group.requests 2)).length : Int) + 0 +
      (g.count * g.sides + modifier) ≤ total ∧
    total ≤ sumOf (g.requests 1 ++ gs.flatMap (Group.requests 2)) + 0 +
      (g.count * g.sides + modifier) ↔
    2 * (g.count + sumOf (gs.map Group.count) + modifier) - modifier + g.count * (g.sides - 1) ≤
        total ∧
      total ≤ 2 * (g.count * g.sides + sumOf (gs.map fun g => g.count * g.sides) + modifier) -
        modifier
  rw [List.length_append, Int.natCast_add, sumOf_append, Group.length_requests hcount.1,
    Group.length_flatMap_requests hcount.2, Group.sumOf_requests hcount.1,
    Group.sumOf_flatMap_requests hcount.2, Int.mul_sub]
  omega

end Spread

/-- **The totals that can be rolled are exactly those of the spread**: in the plain mode all from
the lowest to the highest, with advantage and disadvantage those with a bonus besides, and on a
critical hit those of twice the dice, of which the policy may grant the first ones. -/
theorem reaches_iff_spread (hcount : ∀ g ∈ e.groups, 1 ≤ g.count)
    (hsides : ∀ g ∈ e.groups, 1 ≤ g.sides) (policy : CriticalPolicy) (total : Int) :
    (e.Reaches .normal policy total ↔ e.lowest ≤ total ∧ total ≤ e.highest) ∧
      (e.Reaches .advantage policy total ↔ e.lowest + 1 ≤ total ∧ total ≤ e.highest + 6) ∧
      (e.Reaches .disadvantage policy total ↔ e.lowest - 6 ≤ total ∧ total ≤ e.highest - 1) ∧
      (e.Reaches .critical .double total ↔
        2 * e.lowest - e.modifier ≤ total ∧ total ≤ 2 * e.highest - e.modifier) ∧
      (e.Reaches .critical .maxFace total ↔
        2 * e.lowest - e.modifier + e.first.count * (e.first.sides - 1) ≤ total ∧
          total ≤ 2 * e.highest - e.modifier) := by
  have hnonneg : ∀ g ∈ e.groups, 0 ≤ g.count := fun g hg => Int.le_trans (by decide) (hcount g hg)
  refine ⟨?_, reaches_iff_of_ne hnonneg hsides (by decide) policy,
    reaches_iff_of_ne hnonneg hsides (by decide) policy,
    reaches_critical_double_iff hnonneg hsides, reaches_critical_maxFace_iff hnonneg hsides⟩
  have hplain : e.Reaches .normal policy total ↔
      e.lowest + Mode.normal.leastBonus ≤ total ∧ total ≤ e.highest + Mode.normal.greatestBonus :=
    reaches_iff_of_ne hnonneg hsides (by decide) policy
  rwa [show Mode.normal.leastBonus = 0 from rfl, show Mode.normal.greatestBonus = 0 from rfl,
    Int.add_zero, Int.add_zero] at hplain

/-- Of two dice of six sides and one of four the ends of the totals with disadvantage, and on a
critical hit that grants the first group its second set. -/
theorem reaches_iff_spread_of_two_groups :
    let e : Expression := ⟨[⟨2, 6⟩, ⟨1, 4⟩], by decide, 1, "2d6+d4+1"⟩
    (∀ g ∈ e.groups, 1 ≤ g.count) ∧ (∀ g ∈ e.groups, 1 ≤ g.sides) ∧
      (e.Reaches .disadvantage .maxFace (-2) ∧ ¬e.Reaches .disadvantage .maxFace (-3)) ∧
      (e.Reaches .critical .maxFace 17 ∧ ¬e.Reaches .critical .maxFace 16) ∧
      e.Reaches .critical .maxFace 33 ∧ ¬e.Reaches .critical .maxFace 34 := by
  intro e
  have hcount : ∀ g ∈ e.groups, 1 ≤ g.count := by decide
  have hsides : ∀ g ∈ e.groups, 1 ≤ g.sides := by decide
  have hspread := reaches_iff_spread hcount hsides .maxFace
  have hdisadvantage (total : Int) := (hspread total).2.2.1
  have hcritical (total : Int) := (hspread total).2.2.2.2
  refine ⟨hcount, hsides, ?_, ?_, ?_⟩
  · rw [hdisadvantage, hdisadvantage]
    decide
  · rw [hcritical, hcritical]
    decide
  · rw [hcritical, hcritical]
    decide

end Expression

end Tabletop
