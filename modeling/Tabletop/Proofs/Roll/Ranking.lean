import Tabletop.Proofs.Roll.Plan

/-!
# Recasts of one roll, by their totals

A plain roll can be recast to each of the other modes, every time with dice of
its own. Whatever these dice show, the totals are in order: with disadvantage
it is lower than that of the plain roll, with advantage it is higher, and so
it is on a critical hit.

The declared dice are the same in all of them, so two totals differ by what
the other dice count (`Part.besides`). Of bonus dice the higher is added or
the lower subtracted, and the two make up both dice. A critical hit adds all
its further dice, and grants the first group as much as these could show at
most. So under the granted set the total is never lower, and it is the same
only where all further dice of the first group show their highest face
(`Roll.recasts_ranked`).
-/

namespace Tabletop

open Rolling

/-! ## What a hand shows -/

namespace IsHand

variable {count sides : Int} {ds : List Die}

theorem forall_shows (h : IsHand count sides ds) :
    ∀ n ∈ ds.map Die.shows, 1 ≤ n ∧ n ≤ sides :=
  List.forall_mem_map.2 fun d hd => ⟨(h.fits d hd).one_le, (h.fits d hd).le_sides⟩

theorem length_shows (h : IsHand count sides ds) : ((ds.map Die.shows).length : Int) = count := by
  rw [List.length_map, h.length_eq]

theorem exists_pair (h : IsHand 2 sides ds) :
    ∃ c d, ds = [c, d] ∧ 1 ≤ c.shows ∧ 1 ≤ d.shows := by
  obtain ⟨c, d, rfl⟩ := List.length_eq_two.1 (Int.ofNat_inj.1 h.length_eq)
  have hc := h.forall_shows c.shows (by simp)
  have hd := h.forall_shows d.shows (by simp)
  exact ⟨c, d, rfl, hc.1, hd.1⟩

theorem count_le_sumOf (h : IsHand count sides ds) : count ≤ sumOf (ds.map Die.shows) := by
  have hle := List.card_nsmul_le_sum (ds.map Die.shows) 1 fun n hn => (h.forall_shows n hn).1
  rwa [nsmul_eq_mul, h.length_shows, Int.mul_one] at hle

theorem sumOf_le (h : IsHand count sides ds) : sumOf (ds.map Die.shows) ≤ count * sides := by
  have hle := List.sum_le_card_nsmul (ds.map Die.shows) sides fun n hn => (h.forall_shows n hn).2
  rwa [nsmul_eq_mul, h.length_shows] at hle

/-- A hand shows all its sides if each of its dice shows the highest face. -/
theorem sumOf_eq_iff (h : IsHand count sides ds) :
    sumOf (ds.map Die.shows) = count * sides ↔ ∀ n ∈ ds.map Die.shows, n = sides := by
  rw [← h.length_shows, ← nsmul_eq_mul, sumOf_eq_sum]
  refine ⟨fun heq n hn => ?_, List.sum_eq_card_nsmul _ _⟩
  by_contra hne
  have hle : ∀ m ∈ ds.map Die.shows, id m ≤ sides := fun m hm => (h.forall_shows m hm).2
  have hlt := List.sum_lt_sum id (fun _ => sides) hle ⟨n, hn, lt_of_le_of_ne (hle n hn) hne⟩
  rw [List.map_id, List.map_const', List.sum_replicate] at hlt
  exact hlt.ne heq

end IsHand

/-! ## What is thrown besides the declared dice -/

namespace Part

/-- **What the dice of a part show besides those that its group declares**: of a critical hit
the dice that were thrown again, and of bonus dice all of them. -/
def besides (p : Part) : List Int :=
  (p.dice.drop ((p.group?.map fun g => g.count.toNat).getD 0)).map Die.shows

variable {g : Group} {own p : Part}

theorem IsPlain.besides_eq (h : p.IsPlain g) : p.besides = [] := by
  obtain ⟨ds, rfl, hds⟩ := h
  show (ds.drop g.count.toNat).map Die.shows = []
  rw [← hds.length_eq_toNat, List.drop_length, List.map_nil]

/-- **A part twice over** has a hand besides, which it counts on top of the plain part. -/
theorem Doubles.exists_hand (h : own.Doubles p) (hown : own.IsPlain g) :
    ∃ more, IsHand g.count g.sides more ∧ p.besides = more.map Die.shows ∧
      p.subtotal = own.subtotal + sumOf p.besides := by
  have hsubtotal := (h.isDoubled hown).subtotal_eq
  have hplain := hown.subtotal_eq
  obtain ⟨g', ds, more, rfl, rfl, hmore⟩ := h
  obtain ⟨ds', heq, hds⟩ := hown
  cases heq
  have hbesides : besides (.critical g (ds ++ more) 0) = more.map Die.shows := by
    show ((ds ++ more).drop g.count.toNat).map Die.shows = _
    rw [← hds.length_eq_toNat, List.drop_left]
  refine ⟨more, hmore, hbesides, ?_⟩
  rw [hsubtotal, hplain, hbesides]
  show sumOf ((ds ++ more).map Die.shows) = sumOf (ds.map Die.shows) + _
  rw [List.map_append, sumOf_append]

end Part

theorem Expression.first_eq {e : Expression} {g : Group} {gs : List Group}
    (h : e.groups = g :: gs) : e.first = g := by
  simp only [first, h, List.head_cons]

variable {gs : List Group} {base parts : List Part}

theorem besides_of_isPlain (h : List.Forall₂ Part.IsPlain gs base) :
    base.flatMap Part.besides = [] := by
  induction h with
  | nil => rfl
  | cons hp _ ih => rw [List.flatMap_cons, hp.besides_eq, ih, List.append_nil]

/-- **Parts twice over** count what the plain parts do and all the dice besides. -/
theorem sumOf_subtotals_doubles (hbase : List.Forall₂ Part.IsPlain gs base)
    (h : List.Forall₂ Part.Doubles base parts) :
    sumOf (parts.map Part.subtotal) =
      sumOf (base.map Part.subtotal) + sumOf (parts.flatMap Part.besides) := by
  induction hbase generalizing parts with
  | nil =>
    cases h
    rfl
  | cons hown _ ih =>
    cases h with
    | cons hp hrest =>
      obtain ⟨more, -, -, hsubtotal⟩ := hp.exists_hand hown
      rw [List.map_cons, List.map_cons, List.flatMap_cons, sumOf_cons, sumOf_cons, sumOf_append,
        hsubtotal, ih hrest]
      omega

/-- The dice besides show at least one for every group. -/
theorem length_le_sumOf_besides (hcount : ∀ g ∈ gs, 1 ≤ g.count)
    (hbase : List.Forall₂ Part.IsPlain gs base) (h : List.Forall₂ Part.Doubles base parts) :
    (gs.length : Int) ≤ sumOf (parts.flatMap Part.besides) := by
  induction hbase generalizing parts with
  | nil =>
    cases h
    exact Int.le_refl 0
  | cons hown _ ih =>
    cases h with
    | cons hp hrest =>
      rw [List.forall_mem_cons] at hcount
      obtain ⟨more, hmore, hbesides, -⟩ := hp.exists_hand hown
      have hfirst := hmore.count_le_sumOf
      have hothers := ih hcount.2 hrest
      rw [List.flatMap_cons, sumOf_append, hbesides, List.length_cons]
      omega

/-- Of parts twice over the first one has a hand besides of the first group. -/
theorem exists_hand_of_doubles {e : Expression} (hbase : List.Forall₂ Part.IsPlain e.groups base)
    (h : List.Forall₂ Part.Doubles base parts) :
    ∃ p parts' more, parts = p :: parts' ∧ IsHand e.first.count e.first.sides more ∧
      p.besides = more.map Die.shows := by
  obtain ⟨g, gs, hgroups⟩ := List.exists_cons_of_ne_nil e.groups_ne_nil
  rw [Expression.first_eq hgroups]
  rw [hgroups] at hbase
  cases hbase with
  | cons hown _ =>
    cases h with
    | cons hp _ =>
      obtain ⟨more, hmore, hbesides, -⟩ := hp.exists_hand hown
      exact ⟨_, _, more, rfl, hmore, hbesides⟩

/-! ## Recasts -/

namespace Roll

/-- **Whether a roll can be recast to another one** in a mode and under a policy, with some
source. -/
def RecastsTo (r : Roll) (mode : Mode) (policy : CriticalPolicy) (r' : Roll) : Prop :=
  ∃ (σ : Type) (_ : Source σ) (t t' : Tape σ),
    Gives (r.recastAs mode.value policy) t (some r') t'

/-- What the dice of a roll show besides the declared ones. -/
def besides (r : Roll) : List Int :=
  r.parts.flatMap Part.besides

variable {e : Expression} {mode : Mode} {policy : CriticalPolicy} {r' : Roll}

/-- What a plain roll is recast to is given by its own parts. -/
theorem RecastsTo.exists_gives (hbase : List.Forall₂ Part.IsPlain gs base)
    (h : RecastsTo ⟨e, .normal, base⟩ mode policy r') :
    ∃ parts, r' = ⟨e, mode, parts⟩ ∧ ∃ (σ : Type) (_ : Source σ) (t t' : Tape σ),
      Gives (recastParts mode policy base) t parts t' := by
  obtain ⟨σ, _, t, t', h⟩ := h
  have hdeclared : Roll.declared ⟨e, .normal, base⟩ = base := declared_base hbase
  rw [recastAs_value, recast] at h
  split at h
  · obtain ⟨parts, hparts, heq⟩ := gives_map.1 h
    rw [hdeclared] at hparts
    exact ⟨parts, Option.some.inj heq, σ, _, t, t', hparts⟩
  · cases (gives_pure.1 h).1

theorem besides_concat (hbase : List.Forall₂ Part.IsPlain gs base) (p : Part) :
    Roll.besides ⟨e, mode, base ++ [p]⟩ = p.besides := by
  show (base ++ [p]).flatMap Part.besides = _
  rw [List.flatMap_append, besides_of_isPlain hbase]
  exact List.append_nil p.besides

theorem total_concat (p : Part) :
    Roll.total ⟨e, mode, base ++ [p]⟩ = Roll.total ⟨e, .normal, base⟩ + p.subtotal := by
  show sumOf ((base ++ [p]).map Part.subtotal) + e.modifier =
    sumOf (base.map Part.subtotal) + e.modifier + p.subtotal
  rw [List.map_append, sumOf_append, List.map_singleton, sumOf_cons, sumOf_nil]
  omega

/-- **With advantage** the higher one of two dice is counted besides. -/
theorem RecastsTo.advantage (hbase : List.Forall₂ Part.IsPlain gs base)
    (h : RecastsTo ⟨e, .normal, base⟩ .advantage policy r') :
    ∃ a b, r'.besides = [a, b] ∧ (1 ≤ a ∧ 1 ≤ b) ∧
      r'.total = Roll.total ⟨e, .normal, base⟩ + max a b := by
  obtain ⟨parts, rfl, σ, _, t, t', hparts⟩ := h.exists_gives hbase
  obtain ⟨ds, rfl, hds⟩ := over_of_gives_recastParts hbase hparts
  obtain ⟨c, d, rfl, hone⟩ := hds.exists_pair
  refine ⟨c.shows, d.shows, besides_concat hbase _, hone, ?_⟩
  rw [total_concat]
  show _ + (max c.face d.face).count = _ + max c.face.count d.face.count
  rw [Face.count_max]

/-- **With disadvantage** the lower one of two dice is subtracted. -/
theorem RecastsTo.disadvantage (hbase : List.Forall₂ Part.IsPlain gs base)
    (h : RecastsTo ⟨e, .normal, base⟩ .disadvantage policy r') :
    ∃ a b, r'.besides = [a, b] ∧ (1 ≤ a ∧ 1 ≤ b) ∧
      r'.total = Roll.total ⟨e, .normal, base⟩ - min a b := by
  obtain ⟨parts, rfl, σ, _, t, t', hparts⟩ := h.exists_gives hbase
  obtain ⟨ds, rfl, hds⟩ := over_of_gives_recastParts hbase hparts
  obtain ⟨c, d, rfl, hone⟩ := hds.exists_pair
  refine ⟨c.shows, d.shows, besides_concat hbase _, hone, ?_⟩
  rw [total_concat]
  show _ + -(min c.face d.face).count = _ - min c.face.count d.face.count
  rw [Face.count_min, Int.sub_eq_add_neg]

/-- **On a critical hit under doubled dice** every group has its dice twice over, and all the
dice besides are counted. -/
theorem RecastsTo.double (hbase : List.Forall₂ Part.IsPlain e.groups base)
    (h : RecastsTo ⟨e, .normal, base⟩ .critical .double r') :
    List.Forall₂ Part.Doubles base r'.parts ∧
      r'.total = Roll.total ⟨e, .normal, base⟩ + sumOf r'.besides := by
  obtain ⟨parts, rfl, σ, _, t, t', hparts⟩ := h.exists_gives hbase
  have hcritical : Gives (doubleParts .double base) t parts t' := hparts
  have hdoubles : List.Forall₂ Part.Doubles base parts :=
    overCritical_of_gives e.groups_ne_nil hbase hcritical
  refine ⟨hdoubles, ?_⟩
  show sumOf (parts.map Part.subtotal) + e.modifier =
    sumOf (base.map Part.subtotal) + e.modifier + sumOf (parts.flatMap Part.besides)
  rw [sumOf_subtotals_doubles hbase hdoubles]
  omega

/-- **On a critical hit under the granted set** this set is counted, and the dice besides of
all groups but the first. -/
theorem RecastsTo.maxFace (hbase : List.Forall₂ Part.IsPlain e.groups base)
    (h : RecastsTo ⟨e, .normal, base⟩ .critical .maxFace r') :
    r'.total = Roll.total ⟨e, .normal, base⟩ + e.first.count * e.first.sides +
      sumOf (r'.parts.tail.flatMap Part.besides) := by
  obtain ⟨parts, rfl, σ, _, t, t', hparts⟩ := h.exists_gives hbase
  have hcritical : Gives (doubleParts .maxFace base) t parts t' := hparts
  obtain ⟨g, ds, base', parts', rfl, rfl, hdoubles⟩ :=
    overCritical_of_gives e.groups_ne_nil hbase hcritical
  obtain ⟨g', gs, ⟨ds', heq, hds⟩, hrest, hgroups⟩ := List.forall₂_cons_right_iff.1 hbase
  cases heq
  have hgranted : (Part.maxFaced g ds).IsMaxFaced g := ⟨ds, rfl, hds⟩
  have hplain : (Part.plain g ds).IsPlain g := ⟨ds, rfl, hds⟩
  have hothers := sumOf_subtotals_doubles hrest hdoubles
  show sumOf ((Part.maxFaced g ds :: parts').map Part.subtotal) + e.modifier =
    sumOf ((Part.plain g ds :: base').map Part.subtotal) + e.modifier +
      e.first.count * e.first.sides + sumOf (parts'.flatMap Part.besides)
  rw [List.map_cons, List.map_cons, sumOf_cons, sumOf_cons, hgranted.subtotal_eq,
    hplain.subtotal_eq, hothers, Expression.first_eq hgroups]
  show sumOf (ds.map Die.shows) + _ + _ + _ = sumOf (ds.map Die.shows) + _ + _ + _ + _
  omega

/-- **The recasts of a plain roll are in order.** Whatever dice are thrown for them, the total
with disadvantage is lower than that of the roll, and with advantage it is higher. With the
same two bonus dice they differ by what both of these show. On a critical hit under doubled
dice the total is higher than that of the roll. Under the granted set it is at least that,
if the dice besides of all groups but the first show the same, and it is the same just if
those of the first group all show the highest face. -/
theorem recasts_ranked {r : Roll} (hmode : r.mode = .normal)
    (hshape : HasShape r.expression.groups r.mode r.parts)
    (hcount : ∀ g ∈ r.expression.groups, 1 ≤ g.count) :
    (∀ policy low, RecastsTo r .disadvantage policy low → low.total < r.total) ∧
      (∀ policy high, RecastsTo r .advantage policy high → r.total < high.total) ∧
      (∀ policy policy' low high a b, RecastsTo r .disadvantage policy low →
        RecastsTo r .advantage policy' high → high.besides = [a, b] →
        low.besides = [a, b] ∨ low.besides = [b, a] → high.total - low.total = a + b) ∧
      (∀ twice, RecastsTo r .critical .double twice → r.total < twice.total) ∧
      ∀ twice granted, RecastsTo r .critical .double twice →
        RecastsTo r .critical .maxFace granted →
        twice.parts.tail.flatMap Part.besides = granted.parts.tail.flatMap Part.besides →
        twice.total ≤ granted.total ∧ (twice.total = granted.total ↔
          ∀ p ∈ twice.parts.head?, ∀ n ∈ p.besides, n = r.expression.first.sides) := by
  obtain ⟨e, mode, base⟩ := r
  obtain rfl : mode = .normal := hmode
  have hbase : List.Forall₂ Part.IsPlain e.groups base := hshape
  refine ⟨fun policy low h => ?_, fun policy high h => ?_,
    fun policy policy' low high a b hlow hhigh hab hba => ?_, fun twice h => ?_,
    fun twice granted htwice hgranted hsame => ?_⟩
  · obtain ⟨a, b, -, hone, htotal⟩ := h.disadvantage hbase
    omega
  · obtain ⟨a, b, -, hone, htotal⟩ := h.advantage hbase
    omega
  · obtain ⟨c, d, hlow', -, htotal⟩ := hlow.disadvantage hbase
    obtain ⟨c', d', hhigh', -, htotal'⟩ := hhigh.advantage hbase
    rw [hlow'] at hba
    rw [hhigh'] at hab
    -- the higher and the lower of two numbers sum up to both, in whichever order they fell
    grind
  · obtain ⟨hdoubles, htotal⟩ := h.double hbase
    have hsum : (e.groups.length : Int) ≤ sumOf twice.besides :=
      length_le_sumOf_besides hcount hbase hdoubles
    have hsome : 0 < e.groups.length := List.length_pos_of_ne_nil e.groups_ne_nil
    omega
  · obtain ⟨hdoubles, htotal⟩ := htwice.double hbase
    have htotal' := hgranted.maxFace hbase
    obtain ⟨p, parts, more, hparts, hmore, hbesides⟩ := exists_hand_of_doubles hbase hdoubles
    have hsplit : sumOf twice.besides = sumOf (more.map Die.shows) +
        sumOf (granted.parts.tail.flatMap Part.besides) := by
      rw [← hsame, besides, hparts, List.flatMap_cons, sumOf_append, hbesides]
      rfl
    have hle := hmore.sumOf_le
    refine ⟨by omega, ?_⟩
    rw [hparts, List.head?_cons]
    simp only [Option.mem_some_iff, forall_eq', hbesides, ← hmore.sumOf_eq_iff]
    omega

/-- Two dice of six sides show three and five, and one of four sides two. With the bonus dice
six and one the roll of eleven becomes one of ten with disadvantage and one of seventeen with
advantage. On a critical hit the dice of six sides show six again, so that the granted set is
no more than what they show. -/
theorem recasts_ranked_of_two_groups :
    let e : Expression := ⟨[⟨2, 6⟩, ⟨1, 4⟩], by decide, 1, "2d6+1d4+1"⟩
    let die (sides n : Int) : Die := ⟨sides, .number n⟩
    let own : List Part := [.plain ⟨2, 6⟩ [die 6 3, die 6 5], .plain ⟨1, 4⟩ [die 4 2]]
    let r : Roll := ⟨e, .normal, own⟩
    let low : Roll := ⟨e, .disadvantage, own ++ [.disadvantage [die 6 6, die 6 1]]⟩
    let high : Roll := ⟨e, .advantage, own ++ [.advantage [die 6 6, die 6 1]]⟩
    let twice : Roll := ⟨e, .critical, [.critical ⟨2, 6⟩ [die 6 3, die 6 5, die 6 6, die 6 6] 0,
      .critical ⟨1, 4⟩ [die 4 2, die 4 4] 0]⟩
    let granted : Roll := ⟨e, .critical, [.critical ⟨2, 6⟩ [die 6 3, die 6 5] 12,
      .critical ⟨1, 4⟩ [die 4 2, die 4 4] 0]⟩
    HasShape e.groups .normal own ∧ (∀ g ∈ e.groups, 1 ≤ g.count) ∧
      (RecastsTo r .disadvantage .double low ∧ RecastsTo r .advantage .double high ∧
        RecastsTo r .critical .double twice ∧ RecastsTo r .critical .maxFace granted) ∧
      (low.total < r.total ∧ r.total < high.total ∧ r.total < twice.total) ∧
      high.total - low.total = 6 + 1 ∧ twice.total = granted.total := by
  intro e die own r low high twice granted
  have replied (mode : Mode) (policy : CriticalPolicy) (ns : List Int) (r' : Roll) (t' : Tape Script)
      (h : Gives (r.recastAs mode.value policy)
        ⟨Script.replies (ns.map fun n => .value (.whole n)), #[]⟩ (some r') t') :
      RecastsTo r mode policy r' :=
    ⟨Script, inferInstance, _, t', h⟩
  have hlow : RecastsTo r .disadvantage .double low :=
    replied _ _ [6, 1] _ ⟨.replies [], #[⟨1, 6⟩, ⟨1, 6⟩]⟩ rfl
  have hhigh : RecastsTo r .advantage .double high :=
    replied _ _ [6, 1] _ ⟨.replies [], #[⟨1, 6⟩, ⟨1, 6⟩]⟩ rfl
  have htwice : RecastsTo r .critical .double twice :=
    replied _ _ [6, 6, 4] _ ⟨.replies [], #[⟨1, 6⟩, ⟨1, 6⟩, ⟨1, 4⟩]⟩ rfl
  have hgranted : RecastsTo r .critical .maxFace granted :=
    replied _ _ [4] _ ⟨.replies [], #[⟨1, 4⟩]⟩ rfl
  have hr : Gives (e.rollAs Mode.normal.value .double)
      ⟨Script.replies ([3, 5, 2].map fun n => .value (.whole n)), #[]⟩ r
      ⟨.replies [], #[⟨1, 6⟩, ⟨1, 6⟩, ⟨1, 4⟩]⟩ := rfl
  have hshape : HasShape e.groups .normal own :=
    (madeUnder_of_gives_rollAs (by decide) hr).2.2.shape
  have hcount : ∀ g ∈ e.groups, 1 ≤ g.count := by decide
  obtain ⟨hlower, hhigher, hdiffer, hcritical, hpolicies⟩ :=
    recasts_ranked (r := r) rfl hshape hcount
  refine ⟨hshape, hcount, ⟨hlow, hhigh, htwice, hgranted⟩,
    ⟨hlower _ _ hlow, hhigher _ _ hhigh, hcritical _ htwice⟩,
    hdiffer _ _ _ _ 6 1 hlow hhigh rfl (.inl rfl), ?_⟩
  exact (hpolicies _ _ htwice hgranted rfl).2.2 (by decide)

end Roll

end Tabletop
