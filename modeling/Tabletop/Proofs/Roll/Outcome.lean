import Mathlib.Data.List.Forall2
import Tabletop.Roll.Casting

/-!
# What a rolling gives

Rolling runs on a tape and may fail. `Rolling.Gives` says that from one
tape it succeeds, with what and on which tape it ends; a rolling in two
stages gives what the second gives from where the first ends
(`Rolling.gives_bind`), so rollings are taken apart stage by stage and
never run.

Whatever the source does, dice that were rolled are a **hand**: as many as
were asked for, of the number of sides that was asked for, each showing
one of its faces (`Rolling.isHand_of_gives`).
-/

namespace Tabletop

/-- **A die of so many sides**, showing one of its faces. -/
structure Die.Fits (sides : Int) (d : Die) : Prop where
  /-- It has that many sides. -/
  sides_eq : d.sides = sides
  /-- Its face is at least one. -/
  one_le : 1 ≤ d.face.count
  /-- Its face is at most its number of sides. -/
  le_sides : d.face.count ≤ sides

/-- **A hand of dice**: so many of so many sides. -/
structure IsHand (count sides : Int) (ds : List Die) : Prop where
  /-- They are that many. -/
  length_eq : ds.length = count
  /-- Each has that many sides. -/
  fits : ∀ d ∈ ds, d.Fits sides

instance (sides : Int) (d : Die) : Decidable (d.Fits sides) :=
  decidable_of_iff (d.sides = sides ∧ 1 ≤ d.face.count ∧ d.face.count ≤ sides)
    ⟨fun h => ⟨h.1, h.2.1, h.2.2⟩, fun h => ⟨h.1, h.2, h.3⟩⟩

instance (count sides : Int) (ds : List Die) : Decidable (IsHand count sides ds) :=
  decidable_of_iff (ds.length = count ∧ ∀ d ∈ ds, d.Fits sides)
    ⟨fun h => ⟨h.1, h.2⟩, fun h => ⟨h.1, h.2⟩⟩

namespace Rolling

variable {σ α β : Type}

/-- **A rolling gives a value**: it succeeds from one tape and ends on another. -/
def Gives (action : Rolling σ α) (t : Tape σ) (a : α) (t' : Tape σ) : Prop :=
  action.run.run t = (.ok a, t')

/-- **A rolling fails**: from one tape, with an error, and it ends on another. -/
def Fails (action : Rolling σ α) (t : Tape σ) (error : RollError) (t' : Tape σ) : Prop :=
  action.run.run t = (.error error, t')

/-- A rolling gives something or fails. -/
theorem gives_or_fails (action : Rolling σ α) (t : Tape σ) :
    (∃ a t', Gives action t a t') ∨ ∃ error t', Fails action t error t' := by
  unfold Gives Fails
  cases action.run.run t with
  | mk result t' =>
    cases result with
    | error error => exact .inr ⟨error, t', rfl⟩
    | ok a => exact .inl ⟨a, t', rfl⟩

theorem gives_pure {a b : α} {t t' : Tape σ} :
    Gives (pure a : Rolling σ α) t b t' ↔ b = a ∧ t' = t := by
  show ((Except.ok a, t) : Except RollError α × Tape σ) = (.ok b, t') ↔ _
  rw [Prod.mk.injEq, Except.ok.injEq, eq_comm, @eq_comm _ t]

theorem not_gives_throw {error : RollError} {a : α} {t t' : Tape σ} :
    ¬Gives (throw error : Rolling σ α) t a t' := by
  intro h
  have h' : ((Except.error error, t) : Except RollError α × Tape σ) = (.ok a, t') := h
  cases h'

/-- **A rolling in two stages** gives what the second stage gives from where the
first ends. -/
theorem gives_bind {action : Rolling σ α} {next : α → Rolling σ β} {t t'' : Tape σ} {b : β} :
    Gives (action >>= next) t b t'' ↔
      ∃ a t', Gives action t a t' ∧ Gives (next a) t' b t'' := by
  have hrun : (action >>= next).run.run t =
      (ExceptT.bindCont next (action.run.run t).1).run (action.run.run t).2 := rfl
  unfold Gives
  rw [hrun]
  cases h : action.run.run t with
  | mk result t' =>
    cases result with
    | error e =>
      constructor
      · intro hb
        have hb' : ((Except.error e, t') : Except RollError β × Tape σ) = (.ok b, t'') := hb
        cases hb'
      · rintro ⟨a, t₁, ha, -⟩
        cases ha
    | ok a =>
      constructor
      · intro hb
        exact ⟨a, t', rfl, hb⟩
      · rintro ⟨a₁, t₁, ha, hb⟩
        cases ha
        exact hb

/-- What is made of what a rolling gives needs no further rolling. -/
theorem gives_map {action : Rolling σ α} {f : α → β} {t t' : Tape σ} {b : β} :
    Gives (action >>= fun a => pure (f a)) t b t' ↔ ∃ a, Gives action t a t' ∧ b = f a := by
  rw [gives_bind]
  constructor
  · rintro ⟨a, t₁, ha, hpure⟩
    obtain ⟨rfl, rfl⟩ := gives_pure.1 hpure
    exact ⟨a, ha, rfl⟩
  · rintro ⟨a, ha, rfl⟩
    exact ⟨a, t', ha, gives_pure.2 ⟨rfl, rfl⟩⟩

/-- **A rolling for each of a list** gives a list that is related to it, if each
gives what is related to its own. -/
theorem forall₂_of_gives_mapM {f : α → Rolling σ β} {R : α → β → Prop} {xs : List α} {ys : List β}
    {t t' : Tape σ} (h : ∀ x ∈ xs, ∀ t y t', Gives (f x) t y t' → R x y)
    (hgives : Gives (xs.mapM f) t ys t') : List.Forall₂ R xs ys := by
  -- the tape after an element is the tape before the next one
  induction xs generalizing ys t t' with
  | nil =>
    rw [List.mapM_nil, gives_pure] at hgives
    rw [hgives.1]
    exact .nil
  | cons x xs ih =>
    rw [List.mapM_cons, gives_bind] at hgives
    obtain ⟨y, t₁, hy, hrest⟩ := hgives
    obtain ⟨ys', hys, rfl⟩ := gives_map.1 hrest
    rw [List.forall_mem_cons] at h
    exact .cons (h.1 t y t₁ hy) (ih h.2 hys)

variable [Source σ]

/-- A die that was rolled fits. -/
theorem fits_of_gives_die {sides : Int} {t t' : Tape σ} {d : Die}
    (h : Gives (die sides) t d t') : d.Fits sides := by
  obtain ⟨reply, t₁, -, h⟩ := gives_bind.1 h
  cases reply with
  | failure text => exact absurd h not_gives_throw
  | value v =>
    dsimp only at h
    split at h
    · split at h
      · next hface =>
        rw [(gives_pure.1 h).1]
        exact ⟨rfl, hface.1, hface.2⟩
      · exact absurd h not_gives_throw
    · exact absurd h not_gives_throw

/-- **Dice that were rolled are a hand**, if a number of dice was asked for. -/
theorem isHand_of_gives {count sides : Int} {t t' : Tape σ} {ds : List Die} (hcount : 0 ≤ count)
    (h : Gives (dice count sides) t ds t') : IsHand count sides ds := by
  have hall : List.Forall₂ (fun _ d => d.Fits sides) (List.replicate count.toNat sides) ds := by
    refine forall₂_of_gives_mapM (fun s hs t d t' hd => ?_) h
    rw [← List.eq_of_mem_replicate hs]
    exact fits_of_gives_die hd
  have hlength := hall.length_eq
  rw [List.length_replicate] at hlength
  refine ⟨by rw [← hlength, Int.toNat_of_nonneg hcount], fun d hd => ?_⟩
  obtain ⟨i, hi, rfl⟩ := List.getElem_of_mem hd
  exact (List.forall₂_iff_get.1 hall).2 i (by rw [List.length_replicate, hlength]; exact hi) hi

end Rolling

end Tabletop
