import Tabletop.Proofs.Roll.Shape
import Tabletop.Roll.Script

/-!
# Chains of recasts

A roll is recast again and again, each time from the latest result, in
whatever mode a caller names, with whatever policy and whatever source.
A recast that is refused or fails leaves the latest result as it was.

What a first roll throws is a list of base parts (`Expression.over_of_gives_rollParts`).
Every recast takes the declared dice, which are these base parts, and puts
the parts of the new mode over them (`Roll.over_of_gives_recastParts`). So
however long the chain, the latest result is over the base parts of the
first (`Roll.StandsOn.chain`): it has the shape of its mode, and the
declared dice that were thrown at first (`Roll.chain_keeps_declared_dice`).
-/

namespace Tabletop

open Rolling

variable {σ : Type} [Source σ] {t t' : Tape σ} {base parts : List Part}

/-! ## What a roll and a recast give -/

/-- **Bonus parts over base parts**: what a mode other than a critical hit adds
after base parts makes parts of this mode. -/
theorem Mode.over_of_gives_bonusParts {mode : Mode} (hmode : mode ≠ .critical)
    (h : Gives mode.bonusParts t parts t') : Over base mode (base ++ parts) := by
  cases mode with
  | normal =>
    rw [(gives_pure.1 h).1]
    exact List.append_nil base
  | advantage =>
    obtain ⟨ds, hds, rfl⟩ := gives_map.1 h
    exact ⟨ds, rfl, isHand_of_gives (by decide) hds⟩
  | disadvantage =>
    obtain ⟨ds, hds, rfl⟩ := gives_map.1 h
    exact ⟨ds, rfl, isHand_of_gives (by decide) hds⟩
  | critical => exact absurd rfl hmode

namespace Expression

variable {g : Group} {gs : List Group} {p : Part}

theorem isPlain_of_gives (hcount : 0 ≤ g.count) (h : Gives (rollPlain g) t p t') :
    p.IsPlain g := by
  obtain ⟨ds, hds, rfl⟩ := gives_map.1 h
  exact ⟨ds, rfl, isHand_of_gives hcount hds⟩

theorem isDoubled_of_gives (hcount : 0 ≤ g.count) (h : Gives (rollDoubled g) t p t') :
    p.IsDoubled g := by
  obtain ⟨ds, hds, rfl⟩ := gives_map.1 h
  exact ⟨ds, rfl, isHand_of_gives (Int.mul_nonneg hcount (by decide)) hds⟩

theorem exists_base_of_gives_doubled (hcount : ∀ g ∈ gs, 0 ≤ g.count)
    (h : Gives (gs.mapM rollDoubled) t parts t') :
    ∃ base, List.Forall₂ Part.IsPlain gs base ∧ List.Forall₂ Part.Doubles base parts :=
  exists_base_of_isDoubled
    (forall₂_of_gives_mapM (fun g hg _ _ _ => isDoubled_of_gives (hcount g hg)) h)

/-- Groups that are rolled on a critical hit are over base parts. -/
theorem over_of_gives_rollCritical {policy : CriticalPolicy} (hcount : ∀ g ∈ gs, 0 ≤ g.count)
    (h : Gives (rollCritical policy gs) t parts t') :
    ∃ base, List.Forall₂ Part.IsPlain gs base ∧ Over base .critical parts := by
  have hdoubled : Gives (gs.mapM rollDoubled) t parts t' →
      ∃ base, List.Forall₂ Part.IsPlain gs base ∧ Over base .critical parts := by
    intro h
    obtain ⟨base, hbase, hparts⟩ := exists_base_of_gives_doubled hcount h
    exact ⟨base, hbase, .inl hparts⟩
  cases policy with
  | double => exact hdoubled h
  | maxFace =>
    -- the policy grants a set to the first group, so it says nothing where there is none
    cases gs with
    | nil => exact hdoubled h
    | cons g gs =>
      rw [List.forall_mem_cons] at hcount
      obtain ⟨p, t₁, hp, h⟩ := gives_bind.1 h
      obtain ⟨parts', hparts', rfl⟩ := gives_map.1 h
      obtain ⟨ds, hds, rfl⟩ := gives_map.1 hp
      obtain ⟨base, hbase, hdoubles⟩ := exists_base_of_gives_doubled hcount.2 hparts'
      exact ⟨.plain g ds :: base, .cons ⟨ds, rfl, isHand_of_gives hcount.1 hds⟩ hbase,
        .inr ⟨g, ds, base, parts', rfl, rfl, hdoubles⟩⟩

theorem rollParts_of_ne {mode : Mode} (hmode : mode ≠ .critical) (policy : CriticalPolicy)
    (gs : List Group) :
    rollParts mode policy gs = (do
      let own ← gs.mapM rollPlain
      let bonus ← mode.bonusParts
      return own ++ bonus : Rolling σ (List Part)) := by
  cases mode with
  | critical => exact absurd rfl hmode
  | _ => rfl

/-- **What is rolled in a mode is over base parts**, one plain part per group. -/
theorem over_of_gives_rollParts {mode : Mode} {policy : CriticalPolicy}
    (hcount : ∀ g ∈ gs, 0 ≤ g.count) (h : Gives (rollParts mode policy gs) t parts t') :
    ∃ base, List.Forall₂ Part.IsPlain gs base ∧ Over base mode parts := by
  by_cases hmode : mode = .critical
  · subst hmode
    exact over_of_gives_rollCritical hcount h
  · rw [rollParts_of_ne hmode] at h
    obtain ⟨base, t₁, hbase, h⟩ := gives_bind.1 h
    obtain ⟨bonus, hbonus, rfl⟩ := gives_map.1 h
    exact ⟨base,
      forall₂_of_gives_mapM (fun g hg _ _ _ => isPlain_of_gives (hcount g hg)) hbase,
      Mode.over_of_gives_bonusParts hmode hbonus⟩

end Expression

namespace Roll

/-- **A roll stands on base parts**: they are one plain part for each group of what
was rolled, and the parts of the roll are over them. -/
structure StandsOn (e : Expression) (base : List Part) (r : Roll) : Prop where
  /-- The expression is the one that was rolled. -/
  expression_eq : r.expression = e
  /-- The base parts are plain parts of its groups. -/
  isPlain : List.Forall₂ Part.IsPlain e.groups base
  /-- The parts are those of the mode over the base parts. -/
  over_parts : Over base r.mode r.parts

theorem StandsOn.declared_eq {e : Expression} {r : Roll} (h : r.StandsOn e base) :
    r.declared = base :=
  h.over_parts.declared_eq h.isPlain

variable {gs : List Group} {own p : Part}

theorem doubles_of_gives {g : Group} (hown : own.IsPlain g) (h : Gives (doublePart own) t p t') :
    own.Doubles p := by
  obtain ⟨ds, rfl, hds⟩ := hown
  obtain ⟨more, hmore, rfl⟩ := gives_map.1 h
  exact ⟨g, ds, more, rfl, rfl, isHand_of_gives hds.nonneg hmore⟩

theorem forall₂_doubles_of_gives (hbase : List.Forall₂ Part.IsPlain gs base)
    (h : Gives (base.mapM doublePart) t parts t') : List.Forall₂ Part.Doubles base parts := by
  have hplain : ∀ own ∈ base, ∃ g, own.IsPlain g :=
    forall_mem_of_forall₂ (fun g p hp => ⟨g, hp⟩) hbase
  refine forall₂_of_gives_mapM (fun own hown t p t' hp => ?_) h
  obtain ⟨g, hg⟩ := hplain own hown
  exact doubles_of_gives hg hp

/-- Plain parts that are turned into a critical hit are under its parts. -/
theorem over_of_gives_doubleParts {policy : CriticalPolicy}
    (hbase : List.Forall₂ Part.IsPlain gs base) (h : Gives (doubleParts policy base) t parts t') :
    Over base .critical parts := by
  cases policy with
  | double => exact .inl (forall₂_doubles_of_gives hbase h)
  | maxFace =>
    cases hbase with
    | nil => exact .inl (forall₂_doubles_of_gives .nil h)
    | cons hown hrest =>
      obtain ⟨ds, rfl, -⟩ := hown
      obtain ⟨parts', hparts', rfl⟩ := gives_map.1 h
      exact .inr ⟨_, ds, _, parts', rfl, rfl, forall₂_doubles_of_gives hrest hparts'⟩

theorem recastParts_of_ne {mode : Mode} (hmode : mode ≠ .critical) (policy : CriticalPolicy)
    (parts : List Part) :
    recastParts mode policy parts = (do
      let bonus ← mode.bonusParts
      return parts ++ bonus : Rolling σ (List Part)) := by
  cases mode with
  | critical => exact absurd rfl hmode
  | _ => rfl

/-- **What base parts are turned into is over them.** -/
theorem over_of_gives_recastParts {mode : Mode} {policy : CriticalPolicy}
    (hbase : List.Forall₂ Part.IsPlain gs base)
    (h : Gives (recastParts mode policy base) t parts t') : Over base mode parts := by
  by_cases hmode : mode = .critical
  · subst hmode
    exact over_of_gives_doubleParts hbase h
  · rw [recastParts_of_ne hmode] at h
    obtain ⟨bonus, hbonus, rfl⟩ := gives_map.1 h
    exact Mode.over_of_gives_bonusParts hmode hbonus

/-- **A first roll stands on base parts**, whatever mode was named. -/
theorem exists_standsOn_of_gives {e : Expression} {named : Value} {policy : CriticalPolicy}
    {r : Roll} (hcount : ∀ g ∈ e.groups, 0 ≤ g.count)
    (h : Gives (e.rollAs named policy) t r t') : ∃ base, r.StandsOn e base := by
  unfold Expression.rollAs at h
  split at h
  · next mode _ =>
    obtain ⟨parts, hparts, rfl⟩ := gives_map.1 h
    obtain ⟨base, hbase, hover⟩ := Expression.over_of_gives_rollParts hcount hparts
    exact ⟨base, rfl, hbase, hover⟩
  · exact absurd h not_gives_throw

/-- **A roll that was recast stands on the same base parts.** -/
theorem StandsOn.of_gives_recastAs {e : Expression} {named : Value} {policy : CriticalPolicy}
    {r r' : Roll} (hr : r.StandsOn e base) (h : Gives (r.recastAs named policy) t (some r') t') :
    r'.StandsOn e base := by
  unfold recastAs at h
  split at h
  · next mode _ =>
    unfold recast at h
    split at h
    · obtain ⟨parts, hparts, heq⟩ := gives_map.1 h
      rw [hr.declared_eq] at hparts
      rw [Option.some.inj heq]
      exact ⟨hr.expression_eq, hr.isPlain, over_of_gives_recastParts hr.isPlain hparts⟩
    · cases (gives_pure.1 h).1
  · exact absurd h not_gives_throw

end Roll

/-! ## Chains -/

/-- **An attempt to roll or to recast**: with its own source, in the mode that it
names, under its own policy. -/
structure Attempt where
  /-- The states of the source. -/
  σ : Type
  /-- The source. -/
  source : Source σ
  /-- The state in which the source is found, and what it was asked before. -/
  tape : Tape σ
  /-- What names the mode. -/
  named : Value
  /-- What a critical hit does to the first group. -/
  policy : CriticalPolicy

namespace Attempt

/-- An attempt with a source that replies with these numbers. -/
def scripted (replies : List Int) (mode : Mode) (policy : CriticalPolicy) : Attempt :=
  ⟨Script, inferInstance, ⟨.replies (replies.map fun n => .value (.whole n)), #[]⟩, mode.value, policy⟩

/-- What an attempt to roll an expression results in, if it succeeds. -/
def roll? (a : Attempt) (e : Expression) : Option Roll :=
  letI := a.source
  ((e.rollAs a.named a.policy : Rolling a.σ Roll).run.run a.tape).1.toOption

/-- **The latest result after an attempt to recast a roll**: what it was recast to,
or the roll itself if that was refused or failed. -/
def recast (a : Attempt) (r : Roll) : Roll :=
  letI := a.source
  match (r.recastAs a.named a.policy : Rolling a.σ (Option Roll)).run.run a.tape with
  | (.ok (some r'), _) => r'
  | _ => r

end Attempt

namespace Roll

/-- **The latest result of a chain of attempts** to recast a roll. -/
def chain (r : Roll) (attempts : List Attempt) : Roll :=
  attempts.foldl (fun r a => a.recast r) r

/-- The first faces of each group of a roll, as many as the group has dice. -/
def firstFaces (r : Roll) : List (List Face) :=
  r.parts.filterMap Part.firstFaces?

theorem firstFaces_eq (r : Roll) : r.firstFaces = r.declared.filterMap Part.firstFaces? := by
  unfold firstFaces declared
  rw [List.filterMap_filterMap]
  exact List.filterMap_congr fun p _ => p.firstFaces?_eq_bind

variable {e : Expression} {r : Roll}

/-- A roll that an attempt results in stands on base parts. -/
theorem exists_standsOn_of_roll? {a : Attempt} (hcount : ∀ g ∈ e.groups, 0 ≤ g.count)
    (hroll : a.roll? e = some r) : ∃ base, r.StandsOn e base := by
  let := a.source
  unfold Attempt.roll? at hroll
  cases h : (e.rollAs a.named a.policy : Rolling a.σ Roll).run.run a.tape with
  | mk result t' =>
    rw [h] at hroll
    cases result with
    | error error => cases hroll
    | ok r' =>
      cases hroll
      exact exists_standsOn_of_gives hcount h

/-- An attempt to recast a roll leaves it on its base parts. -/
theorem StandsOn.recast (hr : r.StandsOn e base) (a : Attempt) : (a.recast r).StandsOn e base := by
  let := a.source
  unfold Attempt.recast
  split
  · next r' t' h => exact hr.of_gives_recastAs h
  · exact hr

/-- **A chain of attempts leaves a roll on its base parts.** -/
theorem StandsOn.chain (hr : r.StandsOn e base) (attempts : List Attempt) :
    (r.chain attempts).StandsOn e base := by
  induction attempts generalizing r with
  | nil => exact hr
  | cons a attempts ih => exact ih (hr.recast a)

/-- **A roll keeps its expression, its shape and its declared dice**, in whatever
chain it is recast: the latest result is of the expression that was rolled, its parts
are those of its mode, all its dice fit, and the first faces of every group, as many
as the group has dice, are those that were rolled at first. -/
theorem chain_keeps_declared_dice {start : Attempt} (hcount : ∀ g ∈ e.groups, 1 ≤ g.count)
    (hroll : start.roll? e = some r) (attempts : List Attempt) :
    (r.chain attempts).expression = e ∧
      HasShape e.groups (r.chain attempts).mode (r.chain attempts).parts ∧
      (∀ p ∈ (r.chain attempts).parts, p.Fits) ∧
      (r.chain attempts).firstFaces = r.firstFaces := by
  have hnonneg : ∀ g ∈ e.groups, 0 ≤ g.count := fun g hg =>
    Int.le_trans (by decide) (hcount g hg)
  obtain ⟨base, hr⟩ := exists_standsOn_of_roll? hnonneg hroll
  have hlast := hr.chain attempts
  have hshape := hlast.over_parts.hasShape hlast.isPlain
  refine ⟨hlast.expression_eq, hshape, hshape.fits, ?_⟩
  rw [firstFaces_eq, firstFaces_eq, hlast.declared_eq, hr.declared_eq]

/-- Two dice of six sides and one of four are rolled plainly, then with advantage,
which is not turned into a critical hit, then plainly again, and then as a critical
hit that grants the first group its second set. -/
theorem chain_keeps_declared_dice_scripted :
    let e : Expression := ⟨[⟨2, 6⟩, ⟨1, 4⟩], by decide, 1, "2d6+1d4+1"⟩
    let r : Roll := ⟨e, .normal,
      [.plain ⟨2, 6⟩ [⟨6, .number 3⟩, ⟨6, .number 5⟩], .plain ⟨1, 4⟩ [⟨4, .number 2⟩]]⟩
    let last := r.chain [.scripted [6, 1] .advantage .double, .scripted [1, 1, 1] .critical .double,
      .scripted [] .normal .double, .scripted [4] .critical .maxFace]
    (∀ g ∈ e.groups, 1 ≤ g.count) ∧
      (Attempt.scripted [3, 5, 2] .normal .double).roll? e = some r ∧
      last.expression = e ∧ HasShape e.groups .critical last.parts ∧ (∀ p ∈ last.parts, p.Fits) ∧
      last.firstFaces = [[.number 3, .number 5], [.number 2]] := by
  intro e r last
  have hcount : ∀ g ∈ e.groups, 1 ≤ g.count := by decide
  have hroll : (Attempt.scripted [3, 5, 2] .normal .double).roll? e = some r := rfl
  obtain ⟨hexpression, hshape, hfits, hfaces⟩ := chain_keeps_declared_dice hcount hroll
    [.scripted [6, 1] .advantage .double, .scripted [1, 1, 1] .critical .double,
      .scripted [] .normal .double, .scripted [4] .critical .maxFace]
  exact ⟨hcount, hroll, hexpression, hshape, hfits, hfaces.trans rfl⟩

end Roll

end Tabletop
