import Mathlib.Algebra.BigOperators.Ring.List
import Mathlib.Algebra.Order.BigOperators.Group.List
import Mathlib.Algebra.Order.Ring.Int
import Tabletop.Proofs.Roll.Policy
import Tabletop.Proofs.Roll.Replies

/-!
# What a roll asks for

Which faces a roll asks its source for is planned before the first reply:
so many of so many sides for every group in order, and those of the bonus
dice after them (`Expression.plan`). The total of a roll is what the faces
of its plan come to (`Roll.MadeUnder.total_eq`).

Rolling follows the plan, so the replies of the source decide all that comes
of it: the dice and the total, or the failure
(`Expression.roll_follows_source`).
-/

namespace Tabletop

open Rolling

variable {σ : Type} [Source σ] {t : Tape σ}

/-! ## The plan of an expression -/

/-- The requests for the dice of a group, so many times over. -/
def Group.requests (times : Nat) (g : Group) : List Int :=
  List.replicate (times * g.count.toNat) g.sides

/-- The requests for the bonus dice of a mode. -/
def Mode.requests : Mode → List Int
  | .advantage | .disadvantage => [6, 6]
  | _ => []

/-- The requests for the dice of groups in a mode: every group once, and on a critical hit
twice, unless the first one is granted its second set. -/
def Group.allRequests (mode : Mode) (policy : CriticalPolicy) (gs : List Group) : List Int :=
  match mode, policy, gs with
  | .critical, .maxFace, g :: gs => g.requests 1 ++ gs.flatMap (Group.requests 2)
  | .critical, _, gs => gs.flatMap (Group.requests 2)
  | _, _, gs => gs.flatMap (Group.requests 1)

theorem Group.allRequests_of_ne {mode : Mode} (hmode : mode ≠ .critical) (policy : CriticalPolicy)
    (gs : List Group) : Group.allRequests mode policy gs = gs.flatMap (Group.requests 1) := by
  cases mode with
  | critical => exact absurd rfl hmode
  | _ => rfl

/-- **The plan of an expression**: what it asks for when it is rolled in a mode. -/
def Expression.plan (e : Expression) (mode : Mode) (policy : CriticalPolicy) : List Int :=
  Group.allRequests mode policy e.groups ++ mode.requests

namespace Expression

theorem follows_rollPlain (g : Group) :
    Follows (rollPlain g : Rolling σ Part) (g.requests 1) Part.dice := by
  unfold Group.requests
  rw [Nat.one_mul]
  exact (follows_dice g.count g.sides).map fun _ => rfl

theorem follows_rollDoubled (g : Group) :
    Follows (rollDoubled g : Rolling σ Part) (g.requests 2) Part.dice := by
  unfold Group.requests
  rw [show 2 * g.count.toNat = (g.count * 2).toNat by omega]
  exact (follows_dice (g.count * 2) g.sides).map fun _ => rfl

theorem follows_rollMaxFaced (g : Group) :
    Follows (rollMaxFaced g : Rolling σ Part) (g.requests 1) Part.dice := by
  unfold Group.requests
  rw [Nat.one_mul]
  exact (follows_dice g.count g.sides).map fun _ => rfl

theorem follows_rollCritical (policy : CriticalPolicy) (gs : List Group) :
    Follows (rollCritical policy gs : Rolling σ (List Part))
      (Group.allRequests .critical policy gs) (List.flatMap Part.dice) := by
  cases policy with
  | double => exact follows_mapM follows_rollDoubled gs
  | maxFace =>
    cases gs with
    | nil => exact follows_mapM follows_rollDoubled []
    | cons g gs =>
      exact (follows_rollMaxFaced g).and_then (follows_mapM follows_rollDoubled gs)
        fun _ _ => List.flatMap_cons

end Expression

/-- The bonus parts of a mode follow its requests. -/
theorem Mode.follows_bonusParts (mode : Mode) :
    Follows (mode.bonusParts : Rolling σ (List Part)) mode.requests (List.flatMap Part.dice) := by
  cases mode with
  | normal => exact follows_pure [] rfl
  | critical => exact follows_pure [] rfl
  | advantage =>
    exact (follows_dice 2 bonusSides).map fun ds => List.append_nil ds
  | disadvantage =>
    exact (follows_dice 2 bonusSides).map fun ds => List.append_nil ds

namespace Expression

/-- **Rolling an expression follows its plan.** -/
theorem follows_roll (e : Expression) (mode : Mode) (policy : CriticalPolicy) :
    Follows (e.roll mode policy : Rolling σ Roll) (e.plan mode policy) Roll.dice := by
  have hparts : Follows (rollParts mode policy e.groups : Rolling σ (List Part))
      (e.plan mode policy) (List.flatMap Part.dice) := by
    unfold plan
    by_cases hmode : mode = .critical
    · subst hmode
      rw [show Mode.critical.requests = [] from rfl, List.append_nil]
      exact follows_rollCritical policy e.groups
    · rw [rollParts_of_ne hmode, Group.allRequests_of_ne hmode]
      exact (follows_mapM follows_rollPlain e.groups).and_then mode.follows_bonusParts
        fun _ _ => List.flatMap_append
  exact hparts.map fun _ => rfl

theorem follows_rollAs (e : Expression) (mode : Mode) (policy : CriticalPolicy) :
    Follows (e.rollAs mode.value policy : Rolling σ Roll) (e.plan mode policy) Roll.dice := by
  rw [rollAs_value]
  exact e.follows_roll mode policy

end Expression

/-! ## What the faces come to -/

/-- What the bonus faces of a mode count: the higher one, or less the lower one. -/
def Mode.worth : Mode → List Int → Int
  | .advantage, [a, b] => max a b
  | .disadvantage, [a, b] => -min a b
  | _, _ => 0

namespace Expression

/-- What is counted without being rolled: the second set of the first group, where the
policy grants it. -/
def granted (e : Expression) : Mode → CriticalPolicy → Int
  | .critical, .maxFace => e.first.count * e.first.sides
  | _, _ => 0

/-- **What the faces of a plan come to**: the sum of those of the groups, what is granted,
what the bonus faces count, and the modifier. -/
def worth (e : Expression) (mode : Mode) (policy : CriticalPolicy) (faces : List Int) : Int :=
  let own := (Group.allRequests mode policy e.groups).length
  sumOf (faces.take own) + e.granted mode policy + mode.worth (faces.drop own) + e.modifier

theorem worth_append (e : Expression) {mode : Mode} {policy : CriticalPolicy}
    {own bonus : List Int} (h : own.length = (Group.allRequests mode policy e.groups).length) :
    e.worth mode policy (own ++ bonus) =
      sumOf own + e.granted mode policy + mode.worth bonus + e.modifier := by
  show sumOf ((own ++ bonus).take _) + _ + mode.worth ((own ++ bonus).drop _) + _ = _
  rw [← h, List.take_left, List.drop_left]

end Expression

/-- What a die shows, as a number. -/
def Die.shows (d : Die) : Int :=
  d.face.count

namespace Part

variable {g : Group} {p : Part}

theorem map_count_faces (p : Part) : p.faces.map Face.count = p.dice.map Die.shows :=
  List.map_map

theorem IsPlain.subtotal_eq (h : p.IsPlain g) : p.subtotal = sumOf (p.dice.map Die.shows) := by
  obtain ⟨ds, rfl, -⟩ := h
  exact congrArg sumOf (map_count_faces _)

theorem IsDoubled.subtotal_eq (h : p.IsDoubled g) : p.subtotal = sumOf (p.dice.map Die.shows) := by
  obtain ⟨ds, rfl, -⟩ := h
  show sumOf (faces _ |>.map Face.count) + 0 = _
  rw [Int.add_zero, map_count_faces]

theorem IsMaxFaced.subtotal_eq (h : p.IsMaxFaced g) :
    p.subtotal = sumOf (p.dice.map Die.shows) + g.count * g.sides := by
  obtain ⟨ds, rfl, -⟩ := h
  show sumOf (faces _ |>.map Face.count) + g.count * g.sides = _
  rw [map_count_faces]

end Part

theorem sumOf_eq_sum (ns : List Int) : sumOf ns = ns.sum := rfl

theorem sumOf_subtotals {parts : List Part}
    (h : ∀ p ∈ parts, p.subtotal = sumOf (p.dice.map Die.shows)) :
    sumOf (parts.map Part.subtotal) = sumOf ((parts.flatMap Part.dice).map Die.shows) := by
  induction parts with
  | nil => rfl
  | cons p parts ih =>
    rw [List.forall_mem_cons] at h
    rw [List.map_cons, sumOf_cons, h.1, ih h.2, List.flatMap_cons, List.map_append, sumOf_append]

namespace Roll

/-- The faces of a roll in two stretches of parts come to its total, if the first counts
what its dice show and what is granted, and the second what the bonus faces count. -/
theorem total_append {e : Expression} {mode : Mode} {policy : CriticalPolicy}
    {own bonus : List Part}
    (hdice : (Roll.dice ⟨e, mode, own ++ bonus⟩).map Die.sides = e.plan mode policy)
    (hlength : (bonus.flatMap Part.dice).length = mode.requests.length)
    (hown : sumOf (own.map Part.subtotal) =
      sumOf ((own.flatMap Part.dice).map Die.shows) + e.granted mode policy)
    (hbonus : sumOf (bonus.map Part.subtotal) =
      mode.worth ((bonus.flatMap Part.dice).map Die.shows)) :
    Roll.total ⟨e, mode, own ++ bonus⟩ =
      e.worth mode policy ((Roll.dice ⟨e, mode, own ++ bonus⟩).map Die.shows) := by
  have hsplit : Roll.dice ⟨e, mode, own ++ bonus⟩ =
      own.flatMap Part.dice ++ bonus.flatMap Part.dice := List.flatMap_append
  -- the dice of the groups are as many as were planned, since the bonus dice are
  have hplanned := congrArg List.length hdice
  rw [hsplit, Expression.plan, List.length_map, List.length_append, List.length_append,
    hlength] at hplanned
  have hworth : e.worth mode policy ((own.flatMap Part.dice).map Die.shows ++
      (bonus.flatMap Part.dice).map Die.shows) = _ :=
    e.worth_append (by rw [List.length_map]; exact Nat.add_right_cancel hplanned)
  rw [hsplit, List.map_append, hworth, ← hown, ← hbonus, ← sumOf_append, ← List.map_append]
  rfl

/-- **The total of a roll is what its faces come to.** -/
theorem MadeUnder.total_eq {policy : CriticalPolicy} {r : Roll} (h : r.MadeUnder policy)
    (hdice : r.dice.map Die.sides = r.expression.plan r.mode policy) :
    r.total = r.expression.worth r.mode policy (r.dice.map Die.shows) := by
  obtain ⟨e, mode, parts⟩ := r
  obtain ⟨hshape, hcritical⟩ := h
  have hplain {own : List Part} (hown : List.Forall₂ Part.IsPlain e.groups own) :
      sumOf (own.map Part.subtotal) = sumOf ((own.flatMap Part.dice).map Die.shows) :=
    sumOf_subtotals (forall_mem_of_forall₂ (fun _ _ => Part.IsPlain.subtotal_eq) hown)
  have hdoubled {gs : List Group} {own : List Part} (hown : List.Forall₂ Part.IsDoubled gs own) :
      sumOf (own.map Part.subtotal) = sumOf ((own.flatMap Part.dice).map Die.shows) :=
    sumOf_subtotals (forall_mem_of_forall₂ (fun _ _ => Part.IsDoubled.subtotal_eq) hown)
  cases mode with
  | normal =>
    rw [← List.append_nil parts] at hdice ⊢
    exact total_append hdice rfl ((hplain hshape).trans (Int.add_zero _).symm) rfl
  | advantage =>
    obtain ⟨own, ds, hparts, hown, hds⟩ := hshape
    obtain rfl : parts = _ := hparts
    obtain ⟨a, b, rfl⟩ := List.length_eq_two.1 (Int.ofNat_inj.1 hds.length_eq)
    refine total_append hdice rfl ((hplain hown).trans (Int.add_zero _).symm) ?_
    show (max a.face b.face).count + 0 = max a.face.count b.face.count
    rw [Face.count_max, Int.add_zero]
  | disadvantage =>
    obtain ⟨own, ds, hparts, hown, hds⟩ := hshape
    obtain rfl : parts = _ := hparts
    obtain ⟨a, b, rfl⟩ := List.length_eq_two.1 (Int.ofNat_inj.1 hds.length_eq)
    refine total_append hdice rfl ((hplain hown).trans (Int.add_zero _).symm) ?_
    show -(min a.face b.face).count + 0 = -min a.face.count b.face.count
    rw [Face.count_min, Int.add_zero]
  | critical =>
    rw [← List.append_nil parts] at hdice ⊢
    have hcrit := hcritical rfl
    cases policy with
    | double => exact total_append hdice rfl ((hdoubled hcrit).trans (Int.add_zero _).symm) rfl
    | maxFace =>
      obtain ⟨g, gs, p, parts', hgroups, hparts, hp, hmore⟩ := hcrit
      obtain rfl : parts = _ := hparts
      have hgranted : e.granted .critical .maxFace = g.count * g.sides := by
        obtain ⟨groups, hne, modifier, text⟩ := e
        obtain rfl : groups = _ := hgroups
        rfl
      refine total_append hdice rfl ?_ rfl
      rw [List.map_cons, sumOf_cons, hp.subtotal_eq, hdoubled hmore, hgranted, List.flatMap_cons,
        List.map_append, sumOf_append]
      omega

end Roll

namespace Expression

/-- **A roll follows its source.** In every mode it is given exactly if all the replies to
the plan tell faces. Then exactly the plan is asked for, in order, each time for a number
from one to the number of sides, the dice of the roll have the sides that were asked for and
show what was replied, and the total is what these faces come to. Otherwise the roll fails
for the first reply that tells no face, after exactly the requests up to that one, and the
message names the number of sides and this reply. A reply with a number of too many digits
is not named: then it is the message that fails, after the same requests. Where no mode is
named nothing is asked for, and the failure is not put down to the source but to what was
named instead. -/
theorem roll_follows_source {e : Expression} (hcount : ∀ g ∈ e.groups, 1 ≤ g.count)
    (policy : CriticalPolicy) (t : Tape σ) :
    (∀ mode : Mode,
      let plan := e.plan mode policy
      let action : Rolling σ Roll := e.rollAs mode.value policy
      ((∃ r t', Gives action t r t') ↔ Source.AllFaces plan t.source) ∧
        (∀ r t', Gives action t r t' →
          t'.asked = t.asked ++ plan.map (Request.mk 1) ∧ t' = t.after plan ∧
          r.dice.map Die.sides = plan ∧
          r.dice.map Die.reply = (Source.replies plan t.source).1 ∧
          r.total = sumOf (r.parts.map Part.subtotal) + e.modifier ∧
          r.total = e.worth mode policy (r.dice.map Die.shows)) ∧
        (¬Source.AllFaces plan t.source → ∃ before sides rest, plan = before ++ sides :: rest ∧
          Source.AllFaces before t.source ∧
          let reply := Source.reply sides (t.after before).source
          let last := t.after (before ++ [sides])
          ¬reply.IsFace sides ∧ Fails action t (reply.error sides) last ∧
            last.asked = t.asked ++ (before ++ [sides]).map (Request.mk 1) ∧
            reply.IsRefused sides (reply.error sides))) ∧
      ∀ named, Mode.ofValue? named = none →
        let error := (RollError.unknownMode named).raised
        Fails (e.rollAs named policy) t error t ∧ error.isOfSource = false ∧
          ∀ value, named.written? = some value →
            error.message = "Unknown roll type: " ++ value := by
  refine ⟨fun mode => ?_, fun named hnamed => ?_⟩
  · intro plan action
    have hfollows : Follows action plan Roll.dice := e.follows_rollAs mode policy
    refine ⟨hfollows.exists_gives_iff, fun r t' hr => ?_, fun hfaces => ?_⟩
    · obtain ⟨rfl, hsides, hreplies⟩ := hfollows.dice_eq hr
      obtain ⟨hexpression, hmode, hmade⟩ := Roll.madeUnder_of_gives_rollAs
        (fun g hg => Int.le_trans (by decide) (hcount g hg)) hr
      rw [Mode.ofValue?_value, Option.some.injEq] at hmode
      subst hexpression hmode
      exact ⟨rfl, rfl, hsides, hreplies, rfl, hmade.total_eq hsides⟩
    · obtain ⟨before, sides, rest, hplan, hbefore, hreply, hfails⟩ := hfollows.exists_fails hfaces
      exact ⟨before, sides, rest, hplan, hbefore, hreply, hfails, rfl, Reply.isRefused_error _ _⟩
  · refine ⟨?_, RollError.isOfSource_raised_unknownMode named, fun value hvalue => ?_⟩
    · unfold rollAs
      rw [hnamed]
      rfl
    · have hmessage : (RollError.unknownMode named).message? =
          some ("Unknown roll type: " ++ value) := by
        rw [RollError.message?, hvalue, Option.map_some]
      rw [RollError.raised_eq_self hmessage]
      exact RollError.message_eq hmessage

/-- Two dice of six sides and one of four are rolled as a critical hit that grants the first
group its second set: two dice of six sides and two of four are asked for. -/
theorem roll_follows_source_with_granted_set :
    let e : Expression := ⟨[⟨2, 6⟩, ⟨1, 4⟩], by decide, 1, "2d6+d4+1"⟩
    let replies : List Reply := [3, 5, 2, 4].map fun n => .value (.whole n)
    let t : Tape Script := ⟨.replies replies, #[]⟩
    let r : Roll := ⟨e, .critical, [.critical ⟨2, 6⟩ [⟨6, .number 3⟩, ⟨6, .number 5⟩] 12,
      .critical ⟨1, 4⟩ [⟨4, .number 2⟩, ⟨4, .number 4⟩] 0]⟩
    (∀ g ∈ e.groups, 1 ≤ g.count) ∧
      Gives (e.rollAs Mode.critical.value .maxFace) t r
        ⟨.replies [], #[⟨1, 6⟩, ⟨1, 6⟩, ⟨1, 4⟩, ⟨1, 4⟩]⟩ ∧
      Source.AllFaces [6, 6, 4, 4] t.source ∧ r.dice.map Die.reply = replies ∧
      r.total = 3 + 5 + 12 + (2 + 4) + 1 := by
  intro e replies t r
  have hcount : ∀ g ∈ e.groups, 1 ≤ g.count := by decide
  have hr : Gives (e.rollAs Mode.critical.value .maxFace) t r
      ⟨.replies [], #[⟨1, 6⟩, ⟨1, 6⟩, ⟨1, 4⟩, ⟨1, 4⟩]⟩ := rfl
  obtain ⟨hiff, hgives, -⟩ := (roll_follows_source hcount .maxFace t).1 .critical
  obtain ⟨-, -, -, hreplies, -, htotal⟩ := hgives r _ hr
  exact ⟨hcount, hr, hiff.1 ⟨r, _, hr⟩, hreplies, htotal⟩

/-- A source that replies with a number of five thousand digits to a request for one die fails
the roll, but the failure is not put down to it and does not name the number of sides. -/
theorem roll_unwritable_reply :
    let e : Expression := ⟨[⟨1, 6⟩], by decide, 0, "d6"⟩
    let t : Tape Script := ⟨.replies [.value (.whole (10 ^ 5000))], #[]⟩
    let action : Rolling Script Roll := e.rollAs Mode.normal.value .double
    (∀ g ∈ e.groups, 1 ≤ g.count ∧ 2 ≤ g.sides) ∧
      ¬Source.AllFaces (e.plan .normal .double) t.source ∧
      Fails action t .unwritable ⟨.replies [], #[⟨1, 6⟩]⟩ ∧
      ∀ error t', Fails action t error t' →
        error.isOfSource = false ∧ error.message = Text.tooManyDigits := by
  intro e t action
  have hfollows : Follows action [6] Roll.dice := e.follows_rollAs .normal .double
  have hreply : ¬Reply.IsFace 6 (.value (.whole (10 ^ 5000))) := by
    rw [Reply.isFace_whole_iff]
    decide +kernel
  have hfaces : ¬Source.AllFaces [6] t.source := by
    intro h
    cases h with
    | cons hface _ => exact hreply hface
  have hwritten : (Value.whole (10 ^ 5000)).written? = none := by
    rw [Value.written?]
    exact if_neg (by decide +kernel)
  have hunwritable : Reply.error 6 (.value (.whole (10 ^ 5000))) = .unwritable :=
    ((Reply.isRefused_error _ _).unwritable (.inr ⟨_, rfl, hwritten⟩)).1
  have hfails : Fails action t .unwritable ⟨.replies [], #[⟨1, 6⟩]⟩ := by
    rw [← hunwritable]
    exact hfollows.fails_of_dice (fails_bind.2 (.inl (fails_die hreply)))
  refine ⟨by decide, hfaces, hfails, fun error t' h => ?_⟩
  cases hfails.symm.trans h
  exact ⟨rfl, rfl⟩

end Expression

end Tabletop
