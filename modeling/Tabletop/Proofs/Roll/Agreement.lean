import Tabletop.Proofs.Roll.Chain
import Tabletop.Roll.Script

/-!
# Rolling in a mode and recasting to it

An expression can be rolled in a mode at once, or rolled plainly and then
recast. Of advantage and disadvantage the bonus dice come last either way,
so both ask the same of the source, whatever the source does
(`Expression.gives_roll_iff`).

A critical hit at once throws a group's dice and as many again before it
goes on to the next group, while a recast throws all that is declared
first. So the two read the same dice off differently ordered replies: what
a `Throw` holds of each group is asked for in one order or the other, and
the roll that comes of it is the same (`Expression.recast_agrees`).

That is told by the dice that a rolling **plays** (`Rolling.Plays`): where
the replies tell their faces, it asks for these dice and no more.
-/

namespace Tabletop

open Rolling

/-! ## Bonus dice -/

namespace Expression

variable {σ : Type} [Source σ] {t t' : Tape σ} {policy : CriticalPolicy}

theorem exists_plain_of_gives {gs : List Group} {parts : List Part}
    (h : Gives (gs.mapM rollPlain) t parts t') :
    List.Forall₂ (fun g p => ∃ ds, p = .plain g ds) gs parts := by
  refine forall₂_of_gives_mapM (fun g _ t p t' hp => ?_) h
  obtain ⟨ds, -, hplain⟩ := gives_map.1 hp
  exact ⟨ds, hplain⟩

theorem declared_plain {gs : List Group} {parts : List Part}
    (h : List.Forall₂ (fun g p => ∃ ds, p = Part.plain g ds) gs parts) :
    parts.filterMap Part.declared? = parts := by
  induction h with
  | nil => rfl
  | cons hp _ ih =>
    obtain ⟨ds, rfl⟩ := hp
    rw [List.filterMap_cons, ih]
    rfl

/-- **A roll that is no critical hit** is every group rolled plainly, and then the bonus
parts of the mode. -/
theorem gives_roll_of_ne {mode : Mode} (hmode : mode ≠ .critical) {e : Expression} {r : Roll} :
    Gives (e.roll mode policy) t r t' ↔ ∃ own t₁ bonus,
      Gives (e.groups.mapM rollPlain) t own t₁ ∧ Gives mode.bonusParts t₁ bonus t' ∧
        r = ⟨e, mode, own ++ bonus⟩ := by
  unfold roll
  rw [rollParts_of_ne hmode]
  constructor
  · intro h
    obtain ⟨parts, hparts, rfl⟩ := gives_map.1 h
    obtain ⟨own, t₁, hown, hrest⟩ := gives_bind.1 hparts
    obtain ⟨bonus, hbonus, rfl⟩ := gives_map.1 hrest
    exact ⟨own, t₁, bonus, hown, hbonus, rfl⟩
  · rintro ⟨own, t₁, bonus, hown, hbonus, rfl⟩
    refine gives_map.2 ⟨own ++ bonus, gives_bind.2 ⟨own, t₁, hown, ?_⟩, rfl⟩
    exact gives_map.2 ⟨bonus, hbonus, rfl⟩

theorem gives_roll_normal {e : Expression} {r : Roll} :
    Gives (e.roll .normal policy) t r t' ↔
      ∃ own, Gives (e.groups.mapM rollPlain) t own t' ∧ r = ⟨e, .normal, own⟩ := by
  rw [gives_roll_of_ne (by decide)]
  constructor
  · rintro ⟨own, t₁, bonus, hown, hbonus, rfl⟩
    obtain ⟨rfl, rfl⟩ := gives_pure.1 hbonus
    exact ⟨own, hown, by rw [List.append_nil]⟩
  · rintro ⟨own, hown, rfl⟩
    exact ⟨own, t', [], hown, gives_pure.2 ⟨rfl, rfl⟩, by rw [List.append_nil]⟩

/-- A plain roll that is recast to a mode with bonus dice gets its bonus parts. -/
theorem gives_recast_normal {mode : Mode} (hne : mode ≠ .normal) (hmode : mode ≠ .critical)
    {e : Expression} {own : List Part} (hown : own.filterMap Part.declared? = own) {r : Roll} :
    Gives ((⟨e, .normal, own⟩ : Roll).recast mode policy) t (some r) t' ↔
      ∃ bonus, Gives mode.bonusParts t bonus t' ∧ r = ⟨e, mode, own ++ bonus⟩ := by
  have hcan : (⟨e, .normal, own⟩ : Roll).canBecome mode = true := by
    cases mode with
    | normal => exact absurd rfl hne
    | critical => exact absurd rfl hmode
    | _ => rfl
  have hdeclared : Roll.declared ⟨e, .normal, own⟩ = own := hown
  unfold Roll.recast
  rw [if_pos hcan, Roll.recastParts_of_ne hmode, hdeclared]
  constructor
  · intro h
    obtain ⟨parts, hparts, hroll⟩ := gives_map.1 h
    obtain ⟨bonus, hbonus, rfl⟩ := gives_map.1 hparts
    exact ⟨bonus, hbonus, Option.some.inj hroll⟩
  · rintro ⟨bonus, hbonus, rfl⟩
    exact gives_map.2 ⟨own ++ bonus, gives_map.2 ⟨bonus, hbonus, rfl⟩, rfl⟩

/-- **A roll with bonus dice is a plain roll that is recast**, on any source: the same
parts are given from the same tape, and it ends on the same tape. -/
theorem gives_roll_iff {mode : Mode} (hne : mode ≠ .normal) (hmode : mode ≠ .critical)
    {e : Expression} {r : Roll} :
    Gives (e.roll mode policy) t r t' ↔ ∃ r₀ t₁, Gives (e.roll .normal policy) t r₀ t₁ ∧
      Gives (r₀.recast mode policy) t₁ (some r) t' := by
  rw [gives_roll_of_ne hmode]
  constructor
  · rintro ⟨own, t₁, bonus, hown, hbonus, rfl⟩
    have hdeclared := declared_plain (exists_plain_of_gives hown)
    exact ⟨⟨e, .normal, own⟩, t₁, gives_roll_normal.2 ⟨own, hown, rfl⟩,
      (gives_recast_normal hne hmode hdeclared).2 ⟨bonus, hbonus, rfl⟩⟩
  · rintro ⟨r₀, t₁, hroll, hrecast⟩
    obtain ⟨own, hown, rfl⟩ := gives_roll_normal.1 hroll
    have hdeclared := declared_plain (exists_plain_of_gives hown)
    obtain ⟨bonus, hbonus, rfl⟩ := (gives_recast_normal hne hmode hdeclared).1 hrecast
    exact ⟨own, t₁, bonus, hown, hbonus, rfl⟩

end Expression

/-! ## Dice that are played -/

/-- The request that a die was rolled for. -/
def Die.request (d : Die) : Request :=
  .face d.sides

/-- The reply that tells the face of a die. -/
def Die.reply (d : Die) : Reply :=
  .value d.face.value

namespace Rolling

variable {α β ι : Type} {action : Rolling Script α} {ds ds' : List Die} {a : α}

/-- **A rolling plays dice**: where the replies tell their faces, it gives this value,
has asked for exactly these dice, and leaves the replies that follow. -/
def Plays (action : Rolling Script α) (ds : List Die) (a : α) : Prop :=
  ∀ (rest : List Reply) (asked : Array Request),
    Gives action ⟨.replies (ds.map Die.reply ++ rest), asked⟩ a
      ⟨.replies rest, asked ++ ds.map Die.request⟩

theorem plays_pure (a : α) : Plays (pure a) [] a :=
  fun _ _ => gives_pure.2 ⟨rfl, rfl⟩

/-- **A rolling in two stages** plays the dice of the first stage and then those of the
second. -/
theorem Plays.bind {next : α → Rolling Script β} {b : β} (h : Plays action ds a)
    (h' : Plays (next a) ds' b) : Plays (action >>= next) (ds ++ ds') b := by
  intro rest asked
  have hfirst := h (ds'.map Die.reply ++ rest) asked
  have hsecond := h' rest (asked ++ ds.map Die.request)
  have hasked : asked ++ (ds.map Die.request ++ ds'.map Die.request) =
      asked ++ ds.map Die.request ++ ds'.map Die.request := List.foldl_append
  rw [List.map_append, List.map_append, List.append_assoc, hasked]
  exact gives_bind.2 ⟨a, _, hfirst, hsecond⟩

theorem Plays.map (h : Plays action ds a) (f : α → β) :
    Plays (action >>= fun a => pure (f a)) ds (f a) := by
  have hpure : Plays (action >>= fun a => pure (f a)) (ds ++ []) (f a) :=
    h.bind (plays_pure (f a))
  rwa [List.append_nil] at hpure

theorem plays_die {sides : Int} {d : Die} (h : d.Fits sides) : Plays (die sides) [d] d := by
  intro rest asked
  obtain ⟨sides', face⟩ := d
  obtain ⟨rfl, hone, hle⟩ := h
  refine gives_bind.2 ⟨.value face.value, ⟨.replies rest, asked.push (.face sides')⟩, rfl, ?_⟩
  dsimp only
  rw [Face.ofValue?_eq_some.2 rfl]
  dsimp only
  rw [if_pos ⟨hone, hle⟩]
  exact gives_pure.2 ⟨rfl, rfl⟩

/-- **A rolling for each of a list** plays the dice of each in turn. -/
theorem plays_mapM {f : α → Rolling Script β} {is : List ι} {x : ι → α} {y : ι → β}
    {dice : ι → List Die} (h : ∀ i ∈ is, Plays (f (x i)) (dice i) (y i)) :
    Plays ((is.map x).mapM f) (is.flatMap dice) (is.map y) := by
  induction is with
  | nil =>
    rw [List.map_nil, List.mapM_nil]
    exact plays_pure []
  | cons i is ih =>
    rw [List.forall_mem_cons] at h
    rw [List.map_cons, List.mapM_cons, List.flatMap_cons, List.map_cons]
    exact h.1.bind ((ih h.2).map (y i :: ·))

/-- **A hand is played** where so many dice of so many sides are rolled. -/
theorem plays_dice {count sides : Int} (h : IsHand count sides ds) :
    Plays (dice count sides) ds ds := by
  have hplays : Plays ((ds.map fun _ => sides).mapM die) (ds.flatMap fun d => [d]) (ds.map id) :=
    plays_mapM fun d hd => plays_die (h.fits d hd)
  rwa [List.map_const', h.length_eq_toNat, List.flatMap_singleton', List.map_id] at hplays

end Rolling

/-! ## Critical hits -/

/-- **What is thrown for a group** over the course of a critical hit. -/
structure Throw where
  /-- The group. -/
  group : Group
  /-- The dice that the group declares. -/
  own : List Die
  /-- The dice that are thrown again. -/
  again : List Die
deriving DecidableEq

namespace Throw

/-- All the dice of a throw. -/
def both (t : Throw) : List Die :=
  t.own ++ t.again

/-- Whether a throw is a hand of its group and another one. -/
structure IsDouble (t : Throw) : Prop where
  /-- The first dice are a hand of the group. -/
  own : IsHand t.group.count t.group.sides t.own
  /-- So are those that are thrown again. -/
  again : IsHand t.group.count t.group.sides t.again

/-- Whether a throw is one hand of its group, the second set being granted. -/
structure IsSingle (t : Throw) : Prop where
  /-- The dice are a hand of the group. -/
  own : IsHand t.group.count t.group.sides t.own
  /-- Nothing is thrown again. -/
  again : t.again = []

/-- The plain part of a throw. -/
def plain (t : Throw) : Part :=
  .plain t.group t.own

/-- The doubled part of a throw. -/
def doubled (t : Throw) : Part :=
  .critical t.group t.both 0

end Throw

/-- **The throws of a critical hit**: each group twice over, unless the policy grants the
first one its second set. -/
def AreCritical : CriticalPolicy → List Throw → Prop
  | .maxFace, t :: ts => t.IsSingle ∧ ∀ t ∈ ts, t.IsDouble
  | _, ts => ∀ t ∈ ts, t.IsDouble

/-- The parts of a critical hit with these throws. -/
def criticalParts : CriticalPolicy → List Throw → List Part
  | .maxFace, t :: ts => .maxFaced t.group t.own :: ts.map Throw.doubled
  | _, ts => ts.map Throw.doubled

section Critical

variable {policy : CriticalPolicy} {t : Throw} {ts : List Throw}

/-- The first dice of every throw of a critical hit are a hand of its group. -/
theorem AreCritical.own (h : AreCritical policy ts) :
    ∀ t ∈ ts, IsHand t.group.count t.group.sides t.own := by
  cases policy with
  | double => exact fun t ht => (h t ht).own
  | maxFace =>
    cases ts with
    | nil => exact List.forall_mem_nil _
    | cons t ts => exact List.forall_mem_cons.2 ⟨h.1.own, fun t ht => (h.2 t ht).own⟩

namespace Expression

theorem plays_rollPlain (h : IsHand t.group.count t.group.sides t.own) :
    Plays (rollPlain t.group) t.own t.plain :=
  (plays_dice h).map (Part.plain t.group)

theorem plays_rollDoubled (h : t.IsDouble) : Plays (rollDoubled t.group) t.both t.doubled :=
  (plays_dice (h.own.append h.again)).map fun ds => Part.critical t.group ds 0

theorem plays_mapM_rollDoubled (h : ∀ t ∈ ts, t.IsDouble) :
    Plays ((ts.map Throw.group).mapM rollDoubled) (ts.flatMap Throw.both)
      (ts.map Throw.doubled) :=
  plays_mapM fun t ht => plays_rollDoubled (h t ht)

/-- **A critical hit plays each throw as a whole**, one after the other. -/
theorem plays_rollCritical (h : AreCritical policy ts) :
    Plays (rollCritical policy (ts.map Throw.group)) (ts.flatMap Throw.both)
      (criticalParts policy ts) := by
  cases policy with
  | double => exact plays_mapM_rollDoubled h
  | maxFace =>
    cases ts with
    | nil => exact plays_pure []
    | cons t ts =>
      have hboth : t.both = t.own := by rw [Throw.both, h.1.again, List.append_nil]
      have hfirst : Plays (rollMaxFaced t.group) t.both (.maxFaced t.group t.own) := by
        rw [hboth]
        exact (plays_dice h.1.own).map (Part.maxFaced t.group)
      exact hfirst.bind ((plays_mapM_rollDoubled h.2).map (_ :: ·))

/-- **A plain roll plays the first dice of all throws.** -/
theorem plays_roll_normal {e : Expression} (hgroups : ts.map Throw.group = e.groups)
    (h : AreCritical policy ts) :
    Plays (e.roll .normal policy) (ts.flatMap Throw.own) ⟨e, .normal, ts.map Throw.plain⟩ := by
  have hown : Plays (e.groups.mapM rollPlain) (ts.flatMap Throw.own) (ts.map Throw.plain) := by
    rw [← hgroups]
    exact plays_mapM fun t ht => plays_rollPlain (h.own t ht)
  exact fun rest asked => gives_roll_normal.2 ⟨_, hown rest asked, rfl⟩

end Expression

namespace Roll

theorem plays_doublePart (h : t.IsDouble) : Plays (doublePart t.plain) t.again t.doubled :=
  (plays_dice h.again).map fun ds => Part.critical t.group (t.own ++ ds) 0

theorem plays_mapM_doublePart (h : ∀ t ∈ ts, t.IsDouble) :
    Plays ((ts.map Throw.plain).mapM doublePart) (ts.flatMap Throw.again)
      (ts.map Throw.doubled) :=
  plays_mapM fun t ht => plays_doublePart (h t ht)

/-- **Declared dice that are turned into a critical hit** play what is thrown again. -/
theorem plays_doubleParts (h : AreCritical policy ts) :
    Plays (doubleParts policy (ts.map Throw.plain)) (ts.flatMap Throw.again)
      (criticalParts policy ts) := by
  cases policy with
  | double => exact plays_mapM_doublePart h
  | maxFace =>
    cases ts with
    | nil => exact plays_pure []
    | cons t ts =>
      rw [List.flatMap_cons, h.1.again, List.nil_append]
      exact (plays_mapM_doublePart h.2).map (Part.maxFaced t.group t.own :: ·)

/-- **A plain roll that is recast to a critical hit** plays what is thrown again. -/
theorem plays_recast_critical {e : Expression} (h : AreCritical policy ts) :
    Plays ((⟨e, .normal, ts.map Throw.plain⟩ : Roll).recast .critical policy)
      (ts.flatMap Throw.again) (some ⟨e, .critical, criticalParts policy ts⟩) := by
  have hdeclared : Roll.declared ⟨e, .normal, ts.map Throw.plain⟩ = ts.map Throw.plain := by
    show (ts.map Throw.plain).filterMap Part.declared? = _
    rw [List.filterMap_map]
    exact congrFun List.filterMap_eq_map' ts
  have hcan : Roll.canBecome ⟨e, .normal, ts.map Throw.plain⟩ .critical = true := rfl
  unfold recast
  rw [if_pos hcan, hdeclared]
  exact (plays_doubleParts h).map fun parts => some (Roll.mk e .critical parts)

end Roll

end Critical

namespace Expression

/-- **Rolling in a mode agrees with recasting a plain roll.** With advantage or
disadvantage the same roll is given on any source, from and to the same tape. A
critical hit is the same roll as a plain roll that is recast to one, when the first
plays each group's dice and those thrown again in turn, and the others play all first
dice and all dice thrown again. -/
theorem recast_agrees (e : Expression) (policy : CriticalPolicy) :
    (∀ (σ : Type) [Source σ] (mode : Mode) (t t' : Tape σ) (r : Roll),
      mode = .advantage ∨ mode = .disadvantage →
        (Gives (e.roll mode policy) t r t' ↔
          ∃ r₀ t₁, Gives (e.roll .normal policy) t r₀ t₁ ∧
            Gives (r₀.recast mode policy) t₁ (some r) t')) ∧
      ∀ ts : List Throw, ts.map Throw.group = e.groups → AreCritical policy ts →
        let r : Roll := ⟨e, .critical, criticalParts policy ts⟩
        let r₀ : Roll := ⟨e, .normal, ts.map Throw.plain⟩
        Plays (e.roll .critical policy) (ts.flatMap Throw.both) r ∧
          Plays (e.roll .normal policy) (ts.flatMap Throw.own) r₀ ∧
          Plays (r₀.recast .critical policy) (ts.flatMap Throw.again) (some r) := by
  constructor
  · rintro σ _ mode t t' r (rfl | rfl)
    · exact gives_roll_iff (by decide) (by decide)
    · exact gives_roll_iff (by decide) (by decide)
  · intro ts hgroups hts r r₀
    have hcritical : Plays (e.roll .critical policy) (ts.flatMap Throw.both) r := by
      have hparts := plays_rollCritical hts
      rw [hgroups] at hparts
      exact hparts.map (Roll.mk e .critical)
    exact ⟨hcritical, plays_roll_normal hgroups hts, Roll.plays_recast_critical hts⟩

/-- Where the first group is granted its second set, only the other one is thrown again. -/
theorem recast_agrees_with_granted_set :
    let e : Expression := ⟨[⟨2, 6⟩, ⟨1, 4⟩], by decide, 1, "2d6+d4+1"⟩
    let first : Throw := ⟨⟨2, 6⟩, [⟨6, .number 3⟩, ⟨6, .number 5⟩], []⟩
    let second : Throw := ⟨⟨1, 4⟩, [⟨4, .number 2⟩], [⟨4, .number 4⟩]⟩
    let parts : List Part := [.critical ⟨2, 6⟩ first.own 12, .critical ⟨1, 4⟩ second.both 0]
    let plain : Roll := ⟨e, .normal, [.plain ⟨2, 6⟩ first.own, .plain ⟨1, 4⟩ second.own]⟩
    AreCritical .maxFace [first, second] ∧
      Plays (e.roll .critical .maxFace) (first.own ++ second.both) ⟨e, .critical, parts⟩ ∧
      Plays (e.roll .normal .maxFace) (first.own ++ second.own) plain ∧
      Plays (plain.recast .critical .maxFace) second.again (some ⟨e, .critical, parts⟩) := by
  intro e first second parts plain
  have hthrows : AreCritical .maxFace [first, second] :=
    ⟨⟨by decide, rfl⟩, List.forall_mem_singleton.2 ⟨by decide, by decide⟩⟩
  exact ⟨hthrows, (recast_agrees e .maxFace).2 [first, second] rfl hthrows⟩

end Expression

end Tabletop
