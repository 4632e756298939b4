import Tabletop.Proofs.Roll.Chain

/-!
# Critical hits by their policy

The shape of a critical hit leaves open whether the first group was granted
its second set. The policy settles it (`HasCriticalShape`): under doubled
dice every group has its dice twice over, and under the granted set the
first group has its dice once and all others twice.

A roll is **made under a policy** if it has the shape of its mode and, where
it is a critical hit, the shape that the policy asks for
(`Roll.MadeUnder`). Rolls that are rolled under a policy are made under it,
and so are those that a roll made under any policy is recast to.
-/

namespace Tabletop

open Rolling

/-- **The parts of a critical hit under a policy.** -/
def HasCriticalShape : CriticalPolicy → List Group → List Part → Prop
  | .double, gs, parts => List.Forall₂ Part.IsDoubled gs parts
  | .maxFace, gs, parts => ∃ g gs' p parts', gs = g :: gs' ∧ parts = p :: parts' ∧
      p.IsMaxFaced g ∧ List.Forall₂ Part.IsDoubled gs' parts'

/-- **The parts of a critical hit over base parts, under a policy**: each of them twice over,
or the first one with its set granted. -/
def OverCritical : CriticalPolicy → List Part → List Part → Prop
  | .double, base, parts => List.Forall₂ Part.Doubles base parts
  | .maxFace, base, parts => ∃ g ds base' parts', base = .plain g ds :: base' ∧
      parts = .maxFaced g ds :: parts' ∧ List.Forall₂ Part.Doubles base' parts'

/-- Parts over base parts under a policy are those that the policy asks for. -/
theorem OverCritical.hasCriticalShape {policy : CriticalPolicy} {gs : List Group}
    {base parts : List Part} (h : OverCritical policy base parts)
    (hbase : List.Forall₂ Part.IsPlain gs base) : HasCriticalShape policy gs parts := by
  cases policy with
  | double => exact forall₂_isDoubled hbase h
  | maxFace =>
    obtain ⟨g, ds, base', parts', rfl, rfl, hdoubles⟩ := h
    cases hbase with
    | cons hown hrest =>
      obtain ⟨ds', heq, hds⟩ := hown
      cases heq
      exact ⟨g, _, _, parts', rfl, rfl, ⟨ds, rfl, hds⟩, forall₂_isDoubled hrest hdoubles⟩

/-- **Parts of any mode are over base parts.** -/
theorem HasShape.exists_over {gs : List Group} {mode : Mode} {parts : List Part}
    (h : HasShape gs mode parts) : ∃ base, List.Forall₂ Part.IsPlain gs base ∧
      Over base mode parts := by
  cases mode with
  | normal => exact ⟨parts, h, rfl⟩
  | advantage =>
    obtain ⟨own, ds, rfl, hown, hds⟩ := h
    exact ⟨own, hown, ds, rfl, hds⟩
  | disadvantage =>
    obtain ⟨own, ds, rfl, hown, hds⟩ := h
    exact ⟨own, hown, ds, rfl, hds⟩
  | critical =>
    obtain hdoubled | ⟨g, gs', p, parts', rfl, rfl, ⟨ds, rfl, hds⟩, hdoubled⟩ := h
    · obtain ⟨base, hbase, hdoubles⟩ := exists_base_of_isDoubled hdoubled
      exact ⟨base, hbase, .inl hdoubles⟩
    · obtain ⟨base, hbase, hdoubles⟩ := exists_base_of_isDoubled hdoubled
      exact ⟨.plain g ds :: base, .cons ⟨ds, rfl, hds⟩ hbase, .inr ⟨g, ds, base, parts', rfl, rfl,
        hdoubles⟩⟩

namespace Roll

/-- **A roll made under a policy.** -/
structure MadeUnder (policy : CriticalPolicy) (r : Roll) : Prop where
  /-- Its parts are those of its mode. -/
  shape : HasShape r.expression.groups r.mode r.parts
  /-- On a critical hit they are those that the policy asks for. -/
  critical : r.mode = .critical → HasCriticalShape policy r.expression.groups r.parts

end Roll

variable {σ : Type} [Source σ] {t t' : Tape σ} {policy : CriticalPolicy} {parts base : List Part}

/-- **What is rolled on a critical hit** is what the policy asks for. -/
theorem Expression.hasCriticalShape_of_gives {gs : List Group} (hne : gs ≠ [])
    (hcount : ∀ g ∈ gs, 0 ≤ g.count) (h : Gives (rollCritical policy gs) t parts t') :
    HasCriticalShape policy gs parts := by
  obtain ⟨g, gs, rfl⟩ := List.exists_cons_of_ne_nil hne
  cases policy with
  | double => exact forall₂_of_gives_mapM (fun g hg _ _ _ => isDoubled_of_gives (hcount g hg)) h
  | maxFace =>
    rw [List.forall_mem_cons] at hcount
    obtain ⟨p, t₁, hp, hrest⟩ := gives_bind.1 h
    obtain ⟨parts', hparts', rfl⟩ := gives_map.1 hrest
    obtain ⟨ds, hds, rfl⟩ := gives_map.1 hp
    exact ⟨g, gs, _, parts', rfl, rfl, ⟨ds, rfl, isHand_of_gives hcount.1 hds⟩,
      forall₂_of_gives_mapM (fun g hg _ _ _ => isDoubled_of_gives (hcount.2 g hg)) hparts'⟩

namespace Roll

/-- **What base parts are turned into on a critical hit** is over them as the policy asks for. -/
theorem overCritical_of_gives {gs : List Group} (hne : gs ≠ [])
    (hbase : List.Forall₂ Part.IsPlain gs base) (h : Gives (doubleParts policy base) t parts t') :
    OverCritical policy base parts := by
  obtain ⟨g, gs, rfl⟩ := List.exists_cons_of_ne_nil hne
  cases policy with
  | double => exact forall₂_doubles_of_gives hbase h
  | maxFace =>
    cases hbase with
    | cons hown hrest =>
      obtain ⟨ds, rfl, -⟩ := hown
      obtain ⟨parts', hparts', rfl⟩ := gives_map.1 h
      exact ⟨g, ds, _, parts', rfl, rfl, forall₂_doubles_of_gives hrest hparts'⟩

/-- **A roll of an expression is made under the policy that it was rolled under**, in the
mode that was named. -/
theorem madeUnder_of_gives_rollAs {e : Expression} {named : Value} {r : Roll}
    (hcount : ∀ g ∈ e.groups, 0 ≤ g.count) (h : Gives (e.rollAs named policy) t r t') :
    r.expression = e ∧ Mode.ofValue? named = some r.mode ∧ r.MadeUnder policy := by
  unfold Expression.rollAs at h
  split at h
  · next mode hmode =>
    obtain ⟨parts, hparts, rfl⟩ := gives_map.1 h
    obtain ⟨base, hbase, hover⟩ := Expression.over_of_gives_rollParts hcount hparts
    refine ⟨rfl, hmode, hover.hasShape hbase, ?_⟩
    rintro rfl
    exact Expression.hasCriticalShape_of_gives e.groups_ne_nil hcount hparts
  · exact absurd h not_gives_throw

/-- **A roll that was recast is made under the policy that it was recast under**, in the
mode that was named, whatever policy it had been made under before. -/
theorem MadeUnder.of_gives_recastAs {before : CriticalPolicy} {named : Value} {r r' : Roll}
    (hr : r.MadeUnder before) (h : Gives (r.recastAs named policy) t (some r') t') :
    r'.expression = r.expression ∧ Mode.ofValue? named = some r'.mode ∧ r'.MadeUnder policy := by
  obtain ⟨base, hbase, hover⟩ := hr.shape.exists_over
  have hdeclared : r.declared = base := hover.declared_eq hbase
  unfold recastAs at h
  split at h
  · next mode hmode =>
    unfold recast at h
    split at h
    · obtain ⟨parts, hparts, heq⟩ := gives_map.1 h
      rw [hdeclared] at hparts
      obtain rfl := Option.some.inj heq
      refine ⟨rfl, hmode, (over_of_gives_recastParts hbase hparts).hasShape hbase, ?_⟩
      rintro rfl
      exact (overCritical_of_gives r.expression.groups_ne_nil hbase hparts).hasCriticalShape hbase
    · cases (gives_pure.1 h).1
  · exact absurd h not_gives_throw

end Roll

end Tabletop
