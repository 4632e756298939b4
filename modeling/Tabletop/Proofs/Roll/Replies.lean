import Tabletop.Proofs.Roll.Agreement

/-!
# Rolling by the replies of a source

Some rollings plan all they ask for before the first reply. Such a rolling
**follows** its plan (`Rolling.Follows`): it gives something just where dice
for all the requests are given, with these dice in it, and it fails just
where they fail.

So what comes of it is told by the replies of the source to the plan
(`Source.replies`). If all of them tell faces, it gives dice that show what
was replied, and the plan is what was asked for (`Follows.dice_eq`). If not,
the first one that tells none is the failure, and nothing is asked for after
it (`Follows.exists_fails`). The message of the failure names the number of
sides and the reply, unless one of them is too long (`Reply.IsRefused`).
-/

namespace Tabletop

open Rolling

variable {σ α β γ : Type}

/-! ## Failing -/

namespace Rolling

/-- **A rolling in two stages fails** where the first stage does, or where the second does
from where the first ends. -/
theorem fails_bind {action : Rolling σ α} {next : α → Rolling σ β} {t t'' : Tape σ}
    {error : RollError} : Fails (action >>= next) t error t'' ↔
      Fails action t error t'' ∨ ∃ a t', Gives action t a t' ∧ Fails (next a) t' error t'' := by
  have hrun : (action >>= next).run.run t =
      (ExceptT.bindCont next (action.run.run t).1).run (action.run.run t).2 := rfl
  unfold Fails Gives
  rw [hrun]
  cases h : action.run.run t with
  | mk result t' =>
    cases result with
    | error e =>
      constructor
      · intro hb
        have hb' : ((Except.error e, t') : Except RollError β × Tape σ) = (.error error, t'') := hb
        cases hb'
        exact .inl rfl
      · rintro (hb | ⟨a, t₁, ha, -⟩)
        · cases hb
          rfl
        · cases ha
    | ok a =>
      constructor
      · intro hb
        exact .inr ⟨a, t', rfl, hb⟩
      · rintro (hb | ⟨a₁, t₁, ha, hb⟩)
        · cases hb
        · cases ha
          exact hb

theorem fails_map {action : Rolling σ α} {f : α → β} {t t' : Tape σ} {error : RollError} :
    Fails (action >>= fun a => pure (f a)) t error t' ↔ Fails action t error t' := by
  rw [fails_bind]
  constructor
  · rintro (h | ⟨a, t₁, -, h⟩)
    · exact h
    · cases h
  · exact .inl

theorem Gives.not_fails {action : Rolling σ α} {t t' t'' : Tape σ} {a : α} {error : RollError}
    (h : Gives action t a t') : ¬Fails action t error t'' := by
  intro h'
  cases h.symm.trans h'

theorem Gives.unique {action : Rolling σ α} {t t' t'' : Tape σ} {a a' : α}
    (h : Gives action t a t') (h' : Gives action t a' t'') : a = a' ∧ t' = t'' := by
  cases h.symm.trans h'
  exact ⟨rfl, rfl⟩

end Rolling

variable [Source σ] {t t' : Tape σ} {sides : Int}

/-! ## Replies -/

/-- **Whether a reply tells a face** of a die of so many sides: it is a number that such a
die shows. -/
def Reply.IsFace (sides : Int) (reply : Reply) : Prop :=
  ∃ face : Face, reply = .value face.value ∧ 1 ≤ face.count ∧ face.count ≤ sides

theorem Reply.isFace_whole_iff {n : Int} :
    (Reply.value (.whole n)).IsFace sides ↔ 1 ≤ n ∧ n ≤ sides := by
  constructor
  · rintro ⟨face, hface, hrange⟩
    cases face with
    | number m =>
      cases hface
      exact hrange
    | truth b => cases hface
  · intro hrange
    exact ⟨.number n, rfl, hrange⟩

/-- **The error of a reply** that tells no face: the source failed, or replied with this. -/
def Reply.error (sides : Int) : Reply → RollError
  | .failure text => (RollError.sourceFailed sides text).raised
  | .value v => (RollError.impossibleFace sides v).raised

/-- **What a reply is refused with**, where it tells no face of a die of so many sides. -/
structure Reply.IsRefused (sides : Int) (reply : Reply) (error : RollError) : Prop where
  /-- Where the source failed, the error tells the number of sides and why it failed. -/
  failed : ∀ text number, reply = .failure text → Text.whole? sides = some number →
    error = .sourceFailed sides text ∧
      error.message = "Randomness source failed rolling d" ++ number ++ ": " ++ text
  /-- Where it replied with a value, the error tells the value and the number of sides. -/
  impossible : ∀ v value number, reply = .value v → v.written? = some value →
    Text.whole? sides = some number → error = .impossibleFace sides v ∧
      error.message = "Randomness source returned " ++ value ++ " for a d" ++ number
  /-- Where one of the two cannot be written, the error tells that and nothing else. -/
  unwritable : (Text.whole? sides = none ∨ ∃ v, reply = .value v ∧ v.written? = none) →
    error = .unwritable ∧ error.message = Text.tooManyDigits

/-- **The error of a reply** is what it is refused with. -/
theorem Reply.isRefused_error (sides : Int) (reply : Reply) :
    reply.IsRefused sides (reply.error sides) where
  failed text number hreply hnumber := by
    have hmessage : (RollError.sourceFailed sides text).message? =
        some ("Randomness source failed rolling d" ++ number ++ ": " ++ text) := by
      rw [RollError.message?, hnumber, Option.map_some]
    subst hreply
    rw [Reply.error, RollError.raised_eq_self hmessage]
    exact ⟨rfl, RollError.message_eq hmessage⟩
  impossible v value number hreply hvalue hnumber := by
    have hmessage : (RollError.impossibleFace sides v).message? =
        some ("Randomness source returned " ++ value ++ " for a d" ++ number) := by
      rw [RollError.message?, hvalue, Option.bind_some, hnumber, Option.map_some]
    subst hreply
    rw [Reply.error, RollError.raised_eq_self hmessage]
    exact ⟨rfl, RollError.message_eq hmessage⟩
  unwritable h := by
    suffices herror : reply.error sides = .unwritable by
      rw [herror]
      exact ⟨rfl, rfl⟩
    cases reply with
    | failure text =>
      obtain hsides | ⟨v, hv, -⟩ := h
      · exact RollError.raised_eq_unwritable (by rw [RollError.message?, hsides, Option.map_none])
      · cases hv
    | value v =>
      refine RollError.raised_eq_unwritable ?_
      rw [RollError.message?]
      obtain hsides | ⟨_, hv, hvalue⟩ := h
      · rw [hsides]
        cases v.written? <;> rfl
      · cases hv
        rw [hvalue, Option.bind_none]

namespace Source

/-- The reply of a source to the request for a face of a die. -/
def reply (sides : Int) (source : σ) : Reply :=
  (draw (.face sides) source).1

/-- **The replies of a source** to the requests for faces of dice one after the other, and
the source after them. -/
def replies : List Int → σ → List Reply × σ
  | [], source => ([], source)
  | sides :: requests, source =>
    let more := replies requests (draw (.face sides) source).2
    (reply sides source :: more.1, more.2)

/-- **Whether all the replies to requests tell faces.** -/
def AllFaces (requests : List Int) (source : σ) : Prop :=
  List.Forall₂ Reply.IsFace requests (replies requests source).1

end Source

/-- **A tape after requests** for faces of dice: the source is the one after its replies, and
the requests are kept. -/
def Tape.after (t : Tape σ) (requests : List Int) : Tape σ :=
  ⟨(Source.replies requests t.source).2, t.asked ++ requests.map Request.face⟩

theorem Tape.after_cons (t : Tape σ) (sides : Int) (requests : List Int) :
    t.after (sides :: requests) = (t.after [sides]).after requests := by
  have hasked : t.asked ++ (sides :: requests).map Request.face =
      t.asked ++ [Request.face sides] ++ requests.map Request.face := rfl
  show (⟨_, t.asked ++ (sides :: requests).map Request.face⟩ : Tape σ) = _
  rw [hasked]
  rfl

namespace Rolling

/-- **A die is rolled** where the reply tells its face. -/
theorem gives_die {d : Die} (hreply : Source.reply sides t.source = d.reply)
    (hd : d.Fits sides) : Gives (die sides) t d (t.after [sides]) := by
  obtain ⟨sides', face⟩ := d
  obtain ⟨rfl, hone, hle⟩ := hd
  have hvalue : Source.reply sides' t.source = .value face.value := hreply
  refine gives_bind.2 ⟨Source.reply sides' t.source, t.after [sides'], rfl, ?_⟩
  rw [hvalue]
  dsimp only
  rw [Face.ofValue?_eq_some.2 rfl]
  dsimp only
  rw [if_pos ⟨hone, hle⟩]
  exact gives_pure.2 ⟨rfl, rfl⟩

/-- **A die cannot be rolled** where the reply tells no face. -/
theorem fails_die (h : ¬(Source.reply sides t.source).IsFace sides) :
    Fails (die sides) t ((Source.reply sides t.source).error sides) (t.after [sides]) := by
  refine fails_bind.2 (.inr ⟨Source.reply sides t.source, t.after [sides], rfl, ?_⟩)
  generalize Source.reply sides t.source = reply at h ⊢
  cases reply with
  | failure text => rfl
  | value v =>
    dsimp only
    split
    · next face hface =>
      obtain rfl := Face.ofValue?_eq_some.1 hface
      rw [if_neg fun hrange => h ⟨face, rfl, hrange⟩]
      rfl
    · rfl

/-- **Dice for requests** are rolled where all the replies tell faces, and are what the
replies tell. -/
theorem gives_of_allFaces {requests : List Int} (h : Source.AllFaces requests t.source) :
    ∃ ds, Gives (requests.mapM die) t ds (t.after requests) ∧ ds.map Die.sides = requests ∧
      ds.map Die.reply = (Source.replies requests t.source).1 := by
  induction requests generalizing t with
  | nil => exact ⟨[], gives_pure.2 ⟨rfl, rfl⟩, rfl, rfl⟩
  | cons sides requests ih =>
    cases h with
    | cons hface hrest =>
      obtain ⟨face, hreply, hrange⟩ := hface
      obtain ⟨ds, hds, hsides, hreplies⟩ := ih (t := t.after [sides]) hrest
      have hd : Gives (die sides) t ⟨sides, face⟩ (t.after [sides]) :=
        gives_die hreply ⟨rfl, hrange.1, hrange.2⟩
      refine ⟨⟨sides, face⟩ :: ds, ?_, ?_, ?_⟩
      · rw [List.mapM_cons, t.after_cons]
        exact gives_bind.2 ⟨_, _, hd, gives_map.2 ⟨ds, hds, rfl⟩⟩
      · rw [List.map_cons, hsides]
      · rw [List.map_cons, hreplies]
        exact congrArg (· :: _) hreply.symm

/-- **Dice for requests cannot be rolled** where some reply tells no face: the first such
reply is the failure, and the request for it is the last one made. -/
theorem exists_fails_of_not_allFaces {requests : List Int}
    (h : ¬Source.AllFaces requests t.source) :
    ∃ before sides rest, requests = before ++ sides :: rest ∧
      Source.AllFaces before t.source ∧
      ¬(Source.reply sides (t.after before).source).IsFace sides ∧
      Fails (requests.mapM die) t ((Source.reply sides (t.after before).source).error sides)
        (t.after (before ++ [sides])) := by
  induction requests generalizing t with
  | nil => exact absurd .nil h
  | cons sides requests ih =>
    by_cases hface : (Source.reply sides t.source).IsFace sides
    · obtain ⟨before, sides', rest, rfl, hbefore, hreply, hfails⟩ :=
        ih (t := t.after [sides]) fun hrest => h (.cons hface hrest)
      obtain ⟨face, hreply', hrange⟩ := hface
      have hd : Gives (die sides) t ⟨sides, face⟩ (t.after [sides]) :=
        gives_die hreply' ⟨rfl, hrange.1, hrange.2⟩
      refine ⟨sides :: before, sides', rest, rfl, .cons ⟨face, hreply', hrange⟩ hbefore, ?_, ?_⟩
      · rw [t.after_cons]
        exact hreply
      · rw [List.mapM_cons, List.cons_append, t.after_cons sides (before ++ [sides'])]
        exact fails_bind.2 (.inr ⟨_, _, hd, fails_map.2 hfails⟩)
    · refine ⟨[], sides, requests, rfl, .nil, hface, ?_⟩
      rw [List.mapM_cons]
      exact fails_bind.2 (.inl (fails_die hface))

/-! ## Following a plan -/

/-- **A rolling follows a plan**: what it gives and where it fails is what dice for the
planned requests give and where they fail, with the dice that are in it. -/
structure Follows (action : Rolling σ α) (plan : List Int) (dice : α → List Die) : Prop where
  /-- The dice of what it gives are those that the requests give. -/
  gives : ∀ {t a t'}, Gives action t a t' → Gives (plan.mapM die) t (dice a) t'
  /-- It fails where the requests fail. -/
  fails : ∀ {t error t'}, Fails action t error t' → Fails (plan.mapM die) t error t'

variable {action : Rolling σ α} {plan plan' : List Int} {dice' : α → List Die}

theorem follows_pure (a : α) (h : dice' a = []) : Follows (pure a : Rolling σ α) [] dice' where
  gives hgives := by
    obtain ⟨rfl, rfl⟩ := gives_pure.1 hgives
    exact gives_pure.2 ⟨h, rfl⟩
  fails hfails := by cases hfails

theorem follows_dice (count sides : Int) :
    Follows (dice count sides : Rolling σ (List Die)) (List.replicate count.toNat sides) id :=
  ⟨id, id⟩

/-- What is made of what a rolling gives follows its plan, if it holds the same dice. -/
theorem Follows.map (h : Follows action plan dice') {f : α → β} {dice'' : β → List Die}
    (hf : ∀ a, dice'' (f a) = dice' a) :
    Follows (action >>= fun a => pure (f a)) plan dice'' where
  gives hgives := by
    obtain ⟨a, ha, rfl⟩ := gives_map.1 hgives
    rw [hf]
    exact h.gives ha
  fails hfails := h.fails (fails_map.1 hfails)

/-- **Two rollings, one after the other**, follow the plan of the first and then that of
the second. -/
theorem Follows.and_then (h : Follows action plan dice') {next : Rolling σ β}
    {dice'' : β → List Die} (h' : Follows next plan' dice'') {f : α → β → γ}
    {both : γ → List Die} (hf : ∀ a b, both (f a b) = dice' a ++ dice'' b) :
    Follows (action >>= fun a => next >>= fun b => pure (f a b)) (plan ++ plan') both where
  gives hgives := by
    obtain ⟨a, t₁, ha, hrest⟩ := gives_bind.1 hgives
    obtain ⟨b, hb, rfl⟩ := gives_map.1 hrest
    rw [hf, List.mapM_append]
    exact gives_bind.2 ⟨_, t₁, h.gives ha, gives_map.2 ⟨_, h'.gives hb, rfl⟩⟩
  fails hfails := by
    rw [List.mapM_append]
    rcases fails_bind.1 hfails with ha | ⟨a, t₁, ha, hrest⟩
    · exact fails_bind.2 (.inl (h.fails ha))
    · exact fails_bind.2 (.inr ⟨_, t₁, h.gives ha, fails_map.2 (h'.fails (fails_map.1 hrest))⟩)

/-- **A rolling for each of a list** follows their plans in order. -/
theorem follows_mapM {f : β → Rolling σ α} {plan : β → List Int}
    (h : ∀ x, Follows (f x) (plan x) dice') (xs : List β) :
    Follows (xs.mapM f) (xs.flatMap plan) (List.flatMap dice') := by
  induction xs with
  | nil => exact follows_pure [] rfl
  | cons x xs ih =>
    rw [List.mapM_cons, List.flatMap_cons]
    exact (h x).and_then ih fun _ _ => List.flatMap_cons

theorem Follows.fails_of_dice (h : Follows action plan dice') {error : RollError}
    (hdice : Fails (plan.mapM die) t error t') : Fails action t error t' := by
  obtain ⟨a, t₁, ha⟩ | ⟨error₁, t₁, ha⟩ := gives_or_fails action t
  · exact absurd hdice (h.gives ha).not_fails
  · cases (h.fails ha).symm.trans hdice
    exact ha

/-- **A rolling that follows a plan fails** where some reply to the plan tells no face: the
first such reply is the failure, and the request for it is the last one made. -/
theorem Follows.exists_fails (h : Follows action plan dice')
    (hfaces : ¬Source.AllFaces plan t.source) :
    ∃ before sides rest, plan = before ++ sides :: rest ∧ Source.AllFaces before t.source ∧
      ¬(Source.reply sides (t.after before).source).IsFace sides ∧
      Fails action t ((Source.reply sides (t.after before).source).error sides)
        (t.after (before ++ [sides])) := by
  obtain ⟨before, sides, rest, hplan, hbefore, hreply, hdice⟩ := exists_fails_of_not_allFaces hfaces
  exact ⟨before, sides, rest, hplan, hbefore, hreply, h.fails_of_dice hdice⟩

/-- **A rolling that follows a plan gives something** exactly if all the replies to the
plan tell faces. -/
theorem Follows.exists_gives_iff (h : Follows action plan dice') :
    (∃ a t', Gives action t a t') ↔ Source.AllFaces plan t.source := by
  constructor
  · rintro ⟨a, t', ha⟩
    by_contra hfaces
    obtain ⟨_, _, _, _, _, _, hfails⟩ := h.exists_fails hfaces
    exact ha.not_fails hfails
  · intro hfaces
    obtain ⟨ds, hds, -⟩ := gives_of_allFaces hfaces
    obtain ha | ⟨error, t', ha⟩ := gives_or_fails action t
    · exact ha
    · exact absurd (h.fails ha) hds.not_fails

/-- **What a rolling that follows a plan gives** holds the dice that were planned, showing
what was replied, and the plan is what was asked for. -/
theorem Follows.dice_eq (h : Follows action plan dice') {a : α} (ha : Gives action t a t') :
    t' = t.after plan ∧ (dice' a).map Die.sides = plan ∧
      (dice' a).map Die.reply = (Source.replies plan t.source).1 := by
  obtain ⟨ds, hds, hsides, hreplies⟩ := gives_of_allFaces (h.exists_gives_iff.1 ⟨a, t', ha⟩)
  obtain ⟨hdice, rfl⟩ := (h.gives ha).unique hds
  rw [hdice]
  exact ⟨rfl, hsides, hreplies⟩

end Rolling

end Tabletop
