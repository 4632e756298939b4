import Tabletop.Proofs.Roll.Outcome

/-!
# The shape of a roll

What parts a roll has is a matter of its mode (`HasShape`): each group's
own dice, or each group's dice twice over, and with advantage or
disadvantage a last part of two bonus dice.

Behind the parts of every mode stand the same **base parts**, one plain
part per group. `Over` says how the parts of a mode come from base parts:
they are the base parts, or the base parts and a bonus part, or the base
parts with as many dice again. Parts over base parts have the shape of
their mode (`Over.hasShape`), and the base parts are recovered from them as
their declared dice (`Over.declared_eq`).
-/

namespace Tabletop

/-! ## Hands -/

namespace IsHand

variable {count sides : Int} {ds ds' : List Die}

theorem nonneg (h : IsHand count sides ds) : 0 ≤ count := by
  rw [← h.length_eq]
  exact Int.natCast_nonneg _

theorem length_eq_toNat (h : IsHand count sides ds) : ds.length = count.toNat := by
  rw [← h.length_eq, Int.toNat_natCast]

theorem append (h : IsHand count sides ds) (h' : IsHand count sides ds') :
    IsHand (count * 2) sides (ds ++ ds') where
  length_eq := by
    rw [List.length_append, Int.natCast_add, h.length_eq, h'.length_eq, Int.mul_comm, Int.two_mul]
  fits d hd := (List.mem_append.1 hd).elim (h.fits d) (h'.fits d)

theorem take (h : IsHand (count * 2) sides ds) : IsHand count sides (ds.take count.toNat) where
  length_eq := by
    have hlength := h.length_eq
    rw [List.length_take]
    omega
  fits d hd := h.fits d (List.mem_of_mem_take hd)

theorem drop (h : IsHand (count * 2) sides ds) : IsHand count sides (ds.drop count.toNat) where
  length_eq := by
    have hlength := h.length_eq
    rw [List.length_drop]
    omega
  fits d hd := h.fits d (List.mem_of_mem_drop hd)

theorem take_append (h : IsHand count sides ds) (rest : List Die) :
    (ds ++ rest).take count.toNat = ds := by
  rw [← h.length_eq_toNat, List.take_left]

end IsHand

/-! ## What parts a mode has -/

namespace Part

/-- **The plain part of a group**: exactly its dice. -/
def IsPlain (g : Group) (p : Part) : Prop :=
  ∃ ds, p = .plain g ds ∧ IsHand g.count g.sides ds

/-- **The doubled part of a group**: twice its dice, and nothing granted. -/
def IsDoubled (g : Group) (p : Part) : Prop :=
  ∃ ds, p = .critical g ds 0 ∧ IsHand (g.count * 2) g.sides ds

/-- **The part of a group with a granted set**: exactly its dice, and once more
as much as they can show. -/
def IsMaxFaced (g : Group) (p : Part) : Prop :=
  ∃ ds, p = .critical g ds (g.count * g.sides) ∧ IsHand g.count g.sides ds

end Part

/-- **The parts of a mode**: one for each group in order, and of advantage or
disadvantage exactly one more of two bonus dice. A critical hit doubles every
group, unless it grants the first one its second set. -/
def HasShape (gs : List Group) : Mode → List Part → Prop
  | .normal, parts => List.Forall₂ Part.IsPlain gs parts
  | .advantage, parts => ∃ own ds, parts = own ++ [.advantage ds] ∧
      List.Forall₂ Part.IsPlain gs own ∧ IsHand 2 6 ds
  | .disadvantage, parts => ∃ own ds, parts = own ++ [.disadvantage ds] ∧
      List.Forall₂ Part.IsPlain gs own ∧ IsHand 2 6 ds
  | .critical, parts => List.Forall₂ Part.IsDoubled gs parts ∨
      ∃ g gs' p parts', gs = g :: gs' ∧ parts = p :: parts' ∧ p.IsMaxFaced g ∧
        List.Forall₂ Part.IsDoubled gs' parts'

namespace Part

/-- **The dice of a part fit**: each shows one of its faces, and has the number of
sides of the group that the part belongs to. -/
def Fits (p : Part) : Prop :=
  ∀ d ∈ p.dice, d.Fits d.sides ∧ ∀ g, p.group? = some g → d.sides = g.sides

/-- **The first faces of a part**, as many as its group has dice. -/
def firstFaces? (p : Part) : Option (List Face) :=
  p.group?.map fun g => p.faces.take g.count.toNat

variable {g : Group} {p : Part}

theorem fits_of_isHand {count sides : Int} (h : IsHand count sides p.dice)
    (hgroup : ∀ g, p.group? = some g → sides = g.sides) : p.Fits := by
  intro d hd
  have hfits := h.fits d hd
  rw [hfits.sides_eq]
  exact ⟨hfits, hgroup⟩

theorem IsPlain.fits (h : p.IsPlain g) : p.Fits := by
  obtain ⟨ds, rfl, hds⟩ := h
  exact fits_of_isHand hds fun g' hg => congrArg Group.sides (Option.some.inj hg)

theorem IsDoubled.fits (h : p.IsDoubled g) : p.Fits := by
  obtain ⟨ds, rfl, hds⟩ := h
  exact fits_of_isHand hds fun g' hg => congrArg Group.sides (Option.some.inj hg)

theorem IsMaxFaced.fits (h : p.IsMaxFaced g) : p.Fits := by
  obtain ⟨ds, rfl, hds⟩ := h
  exact fits_of_isHand hds fun g' hg => congrArg Group.sides (Option.some.inj hg)

theorem firstFaces?_eq_bind (p : Part) : p.firstFaces? = p.declared?.bind firstFaces? := by
  cases p with
  | critical g ds bonus =>
    show some ((ds.map Die.face).take g.count.toNat) =
      some (((ds.take g.count.toNat).map Die.face).take g.count.toNat)
    rw [List.map_take, List.take_take, Nat.min_self]
  | _ => rfl

end Part

theorem forall_mem_of_forall₂ {R : Group → Part → Prop} {P : Part → Prop} {gs : List Group}
    {parts : List Part} (hR : ∀ g p, R g p → P p) (h : List.Forall₂ R gs parts) :
    ∀ p ∈ parts, P p := by
  induction h with
  | nil => exact List.forall_mem_nil _
  | cons hp _ ih => exact List.forall_mem_cons.2 ⟨hR _ _ hp, ih⟩

/-- **In parts of any mode all dice fit.** -/
theorem HasShape.fits {gs : List Group} {mode : Mode} {parts : List Part}
    (h : HasShape gs mode parts) : ∀ p ∈ parts, p.Fits := by
  cases mode with
  | normal => exact forall_mem_of_forall₂ (fun _ _ => Part.IsPlain.fits) h
  | advantage =>
    obtain ⟨own, ds, rfl, hown, hds⟩ := h
    rw [List.forall_mem_append, List.forall_mem_singleton]
    exact ⟨forall_mem_of_forall₂ (fun _ _ => Part.IsPlain.fits) hown,
      Part.fits_of_isHand hds (by rintro _ ⟨⟩)⟩
  | disadvantage =>
    obtain ⟨own, ds, rfl, hown, hds⟩ := h
    rw [List.forall_mem_append, List.forall_mem_singleton]
    exact ⟨forall_mem_of_forall₂ (fun _ _ => Part.IsPlain.fits) hown,
      Part.fits_of_isHand hds (by rintro _ ⟨⟩)⟩
  | critical =>
    obtain hdoubled | ⟨g, gs', p, parts', rfl, rfl, hp, hdoubled⟩ := h
    · exact forall_mem_of_forall₂ (fun _ _ => Part.IsDoubled.fits) hdoubled
    · exact List.forall_mem_cons.2
        ⟨hp.fits, forall_mem_of_forall₂ (fun _ _ => Part.IsDoubled.fits) hdoubled⟩

/-! ## Parts over base parts -/

/-- **A part twice over**: its dice and an equal hand after them. -/
def Part.Doubles (own p : Part) : Prop :=
  ∃ g ds more, own = .plain g ds ∧ p = .critical g (ds ++ more) 0 ∧ IsHand g.count g.sides more

/-- **Parts of a mode over base parts.** -/
def Over (base : List Part) : Mode → List Part → Prop
  | .normal, parts => parts = base
  | .advantage, parts => ∃ ds, parts = base ++ [.advantage ds] ∧ IsHand 2 6 ds
  | .disadvantage, parts => ∃ ds, parts = base ++ [.disadvantage ds] ∧ IsHand 2 6 ds
  | .critical, parts => List.Forall₂ Part.Doubles base parts ∨
      ∃ g ds base' parts', base = .plain g ds :: base' ∧ parts = .maxFaced g ds :: parts' ∧
        List.Forall₂ Part.Doubles base' parts'

namespace Part

variable {g : Group} {own p : Part}

theorem Doubles.isDoubled (h : own.Doubles p) (hown : own.IsPlain g) : p.IsDoubled g := by
  obtain ⟨g', ds, more, rfl, rfl, hmore⟩ := h
  obtain ⟨ds', heq, hds⟩ := hown
  cases heq
  exact ⟨ds ++ more, rfl, hds.append hmore⟩

theorem IsDoubled.exists_doubles (h : p.IsDoubled g) :
    ∃ own : Part, own.IsPlain g ∧ own.Doubles p := by
  obtain ⟨ds, rfl, hds⟩ := h
  refine ⟨.plain g (ds.take g.count.toNat), ⟨_, rfl, hds.take⟩, g, _, ds.drop g.count.toNat, rfl,
    ?_, hds.drop⟩
  rw [List.take_append_drop]

theorem IsPlain.declared?_eq (h : own.IsPlain g) : own.declared? = some own := by
  obtain ⟨ds, rfl, -⟩ := h
  rfl

theorem Doubles.declared?_eq (h : own.Doubles p) (hown : own.IsPlain g) :
    p.declared? = some own := by
  obtain ⟨g', ds, more, rfl, rfl, -⟩ := h
  obtain ⟨ds', heq, hds⟩ := hown
  cases heq
  show some (Part.plain g ((ds ++ more).take g.count.toNat)) = some (.plain g ds)
  rw [hds.take_append]

theorem declared?_maxFaced {ds : List Die} (hds : IsHand g.count g.sides ds) :
    (Part.maxFaced g ds).declared? = some (.plain g ds) := by
  show some (Part.plain g (ds.take g.count.toNat)) = some (.plain g ds)
  rw [← hds.length_eq_toNat, List.take_length]

end Part

/-! ## Lists of parts -/

section Lists

variable {gs : List Group} {base parts : List Part} {mode : Mode}

theorem forall₂_isDoubled (hbase : List.Forall₂ Part.IsPlain gs base)
    (h : List.Forall₂ Part.Doubles base parts) : List.Forall₂ Part.IsDoubled gs parts := by
  induction hbase generalizing parts with
  | nil =>
    cases h
    exact .nil
  | cons hown _ ih =>
    cases h with
    | cons hp hrest => exact .cons (hp.isDoubled hown) (ih hrest)

theorem exists_base_of_isDoubled (h : List.Forall₂ Part.IsDoubled gs parts) :
    ∃ base, List.Forall₂ Part.IsPlain gs base ∧ List.Forall₂ Part.Doubles base parts := by
  induction h with
  | nil => exact ⟨[], .nil, .nil⟩
  | cons hp _ ih =>
    obtain ⟨base, hbase, hparts⟩ := ih
    obtain ⟨own, hown, hdoubles⟩ := hp.exists_doubles
    exact ⟨own :: base, .cons hown hbase, .cons hdoubles hparts⟩

theorem declared_base (hbase : List.Forall₂ Part.IsPlain gs base) :
    base.filterMap Part.declared? = base := by
  induction hbase with
  | nil => rfl
  | cons hown _ ih => rw [List.filterMap_cons_some hown.declared?_eq, ih]

theorem declared_doubles (hbase : List.Forall₂ Part.IsPlain gs base)
    (h : List.Forall₂ Part.Doubles base parts) : parts.filterMap Part.declared? = base := by
  induction hbase generalizing parts with
  | nil =>
    cases h
    rfl
  | cons hown _ ih =>
    cases h with
    | cons hp hrest => rw [List.filterMap_cons_some (hp.declared?_eq hown), ih hrest]

namespace Over

/-- **Parts over base parts have the shape of their mode.** -/
theorem hasShape (h : Over base mode parts) (hbase : List.Forall₂ Part.IsPlain gs base) :
    HasShape gs mode parts := by
  cases mode with
  | normal =>
    rw [show parts = base from h]
    exact hbase
  | advantage =>
    obtain ⟨ds, rfl, hds⟩ := h
    exact ⟨base, ds, rfl, hbase, hds⟩
  | disadvantage =>
    obtain ⟨ds, rfl, hds⟩ := h
    exact ⟨base, ds, rfl, hbase, hds⟩
  | critical =>
    obtain hdoubles | ⟨g, ds, base', parts', rfl, rfl, hdoubles⟩ := h
    · exact .inl (forall₂_isDoubled hbase hdoubles)
    · cases hbase with
      | cons hown hrest =>
        obtain ⟨ds', heq, hds⟩ := hown
        cases heq
        exact .inr ⟨g, _, _, parts', rfl, rfl, ⟨ds, rfl, hds⟩, forall₂_isDoubled hrest hdoubles⟩

/-- **The base parts are recovered** from the parts over them, as their declared
dice. -/
theorem declared_eq (h : Over base mode parts) (hbase : List.Forall₂ Part.IsPlain gs base) :
    parts.filterMap Part.declared? = base := by
  cases mode with
  | normal =>
    rw [show parts = base from h]
    exact declared_base hbase
  -- the bonus part declares no dice
  | advantage =>
    obtain ⟨ds, rfl, -⟩ := h
    rw [List.filterMap_append, declared_base hbase]
    exact List.append_nil base
  | disadvantage =>
    obtain ⟨ds, rfl, -⟩ := h
    rw [List.filterMap_append, declared_base hbase]
    exact List.append_nil base
  | critical =>
    obtain hdoubles | ⟨g, ds, base', parts', rfl, rfl, hdoubles⟩ := h
    · exact declared_doubles hbase hdoubles
    · cases hbase with
      | cons hown hrest =>
        obtain ⟨ds', heq, hds⟩ := hown
        cases heq
        rw [List.filterMap_cons_some (Part.declared?_maxFaced hds), declared_doubles hrest hdoubles]

end Over

end Lists

end Tabletop
