import Tabletop.Proofs.Table.Course
import Tabletop.Roll.Script

/-!
# The history of a session

A run answers any calls one after the other; its **events** are the calls
with their outcomes. From the events alone one reads off which rolls were
recorded since the journal was last cleared (`recordedSinceClear`): every
roll that was answered and every recast that was made, and nothing else.

The journal after a run holds the newest of them, as many as the house
rules have room for, and what a call can learn of the history is just that
(`Session.run_keeps_history`). The invariant that carries this through a
run is `Keeps`; it takes the identifiers of different numbers to be distinct.
-/

namespace Tabletop

/-- **An event**: a call and its outcome. -/
structure Event where
  /-- What was asked. -/
  call : Call
  /-- What was answered, or why it was refused. -/
  outcome : Except Refusal Answer

/-- The occasion that is listed under an identifier. -/
def contextOf (log : List Listing) (id : String) : Value :=
  ((log.find? fun l => l.id == id).map Listing.context).getD .nothing

namespace Event

/-- **What is listed after an event**: a roll that was answered comes first, and so
does a recast that was made, on the occasion of the roll that was recast. -/
def after (log : List Listing) (event : Event) : List Listing :=
  match event.call, event.outcome with
  | .roll _ _ context, .ok (.rolled id report) => ⟨id, context, report⟩ :: log
  | .recast old _, .ok (.recast id report) => ⟨id, contextOf log old, report⟩ :: log
  | .clear, _ => []
  | _, _ => log

/-- **The answer fits the call**: a roll that is answered was made, and a recast that
is answered was made or left the roll as it was. -/
def IsFitting (event : Event) : Prop :=
  match event.call, event.outcome with
  | .roll _ _ _, .ok answer => ∃ id report, answer = .rolled id report
  | .recast old _, .ok answer =>
    (∃ id report, answer = .recast id report) ∨ ∃ report, answer = .kept old report
  | .clear, outcome => outcome = .ok .cleared
  | _, _ => True

end Event

/-- **The rolls recorded since the journal was last cleared**, the newest first. -/
def recordedSinceClear (events : List Event) : List Listing :=
  events.foldl Event.after []

namespace Session

variable {σ : Type}

theorem idOf_injective : Function.Injective idOf := by
  intro m n h
  exact Numeral.repr_inj.1 ((String.append_right_inj "r").1 h)

/-! ## What the journal holds -/

/-- **A session keeps a log**: its journal holds the newest of what is logged, as
many as it has room for, under identifiers of different numbers. -/
structure Keeps (size : Nat) (log : List Listing) (s : Session σ) : Prop where
  /-- The journal has room for this many records. -/
  capacity_eq : s.journal.capacity = size
  /-- It lists the newest of the log. -/
  listings_eq : s.journal.records.map Record.listing = log.take size
  /-- All that is logged is numbered by what has entered. -/
  numbered : ∀ l ∈ log, ∃ n ≤ s.entered, l.id = s.ids n
  /-- Different numbers have different identifiers. -/
  ids_injective : Function.Injective s.ids
  /-- No identifier is logged twice. -/
  nodup : (log.map Listing.id).Nodup

namespace Keeps

variable {size : Nat} {log : List Listing} {s s' : Session σ}

theorem start {ids : Nat → String} (hids : Function.Injective ids) (rules : HouseRules)
    (source : σ) : Keeps rules.historySize.toNat [] (start rules ids source) where
  capacity_eq := rfl
  listings_eq := List.take_nil.symm
  numbered := List.forall_mem_nil _
  ids_injective := hids
  nodup := List.nodup_nil

theorem rolledOn (h : Keeps size log s) (tape : Tape σ) : Keeps size log (s.rolledOn tape) :=
  ⟨h.capacity_eq, h.listings_eq, h.numbered, h.ids_injective, h.nodup⟩

theorem cleared (h : Keeps size log s) : Keeps size [] s.cleared where
  capacity_eq := h.capacity_eq
  listings_eq := List.take_nil.symm
  numbered := List.forall_mem_nil _
  ids_injective := h.ids_injective
  nodup := List.nodup_nil

/-- **Recording a roll logs it**, under an identifier that is not in the log. -/
theorem recorded (h : Keeps size log s) (roll : Roll) (context : Value) (tape : Tape σ) :
    Keeps size (⟨s.ids (s.entered + 1), context, roll.report⟩ :: log)
      (s.recorded roll context tape) where
  capacity_eq := h.capacity_eq
  listings_eq := by
    show (((⟨s.ids (s.entered + 1), roll, context⟩ : Record) :: s.journal.records).take
      s.journal.capacity).map Record.listing = _
    rw [h.capacity_eq, List.map_take, List.map_cons, h.listings_eq]
    cases size with
    | zero => rfl
    | succ m =>
      rw [List.take_succ_cons, List.take_succ_cons, List.take_take, Nat.min_eq_left (Nat.le_succ m)]
      rfl
  numbered := by
    rw [List.forall_mem_cons]
    refine ⟨⟨s.entered + 1, Nat.le_refl _, rfl⟩, fun l hl => ?_⟩
    obtain ⟨n, hn, hid⟩ := h.numbered l hl
    exact ⟨n, Nat.le_succ_of_le hn, hid⟩
  ids_injective := h.ids_injective
  nodup := by
    rw [List.map_cons, List.nodup_cons]
    refine ⟨fun hmem => ?_, h.nodup⟩
    obtain ⟨l, hl, hid⟩ := List.mem_map.1 hmem
    obtain ⟨n, hn, hidn⟩ := h.numbered l hl
    have heq : n = s.entered + 1 := h.ids_injective (hidn.symm.trans hid)
    rw [heq] at hn
    exact Nat.not_succ_le_self _ hn

theorem find?_eq (h : Keeps size log s) (id : String) :
    (s.journal.find? id).map Record.listing = (log.take size).find? fun l => l.id == id := by
  rw [← h.listings_eq, List.find?_map]
  rfl

theorem contextOf_eq (h : Keeps size log s) {id : String} {record : Record}
    (hfind : s.journal.find? id = some record) : contextOf log id = record.context := by
  have hnewest := h.find?_eq id
  rw [hfind] at hnewest
  unfold contextOf
  rw [(List.take_prefix size log).find?_eq_some hnewest.symm]
  rfl

variable [Source σ] {rules : HouseRules} {c : Call} {outcome : Except Refusal Answer}

/-- **Every course of a call keeps the log**, as it is after the call. -/
theorem course (h : Keeps size log s) (hcourse : Course rules s c outcome s') :
    Keeps size (Event.after log ⟨c, outcome⟩) s' := by
  -- a course that records nothing and clears nothing leaves the journal and the log as they were
  cases hcourse with
  | rolled => exact h.recorded _ _ _
  | recast hfind =>
    show Keeps size (⟨_, contextOf log _, _⟩ :: log) _
    rw [h.contextOf_eq hfind]
    exact h.recorded _ _ _
  | rollFailed => exact h.rolledOn _
  | recastFailed => exact h.rolledOn _
  | kept => exact h.rolledOn _
  | cleared => exact h.cleared
  | _ => exact h

/-- **An identifier of the log is known** exactly if it is among the newest. -/
theorem unknownRoll_iff (h : Keeps size log s) {k : Nat} {l : Listing} (hk : log[k]? = some l)
    (mode : Value) :
    (s.call rules (.recast l.id mode)).1 = .error (.unknownRoll l.id) ↔ size ≤ k := by
  rw [Session.unknownRoll_iff, ← Option.map_eq_none_iff, h.find?_eq, List.find?_eq_none]
  constructor
  · intro hnone
    by_contra hlt
    have hmem : l ∈ log.take size :=
      List.mem_of_getElem? ((List.getElem?_take_of_lt (Nat.lt_of_not_le hlt)).trans hk)
    exact hnone l hmem (beq_self_eq_true l.id)
  · -- two places of the log with one identifier are one place
    intro hle l' hl' hid
    obtain ⟨j, hj⟩ := List.mem_iff_getElem?.1 hl'
    rw [List.getElem?_take, Option.ite_none_right_eq_some] at hj
    have hsame : (log.map Listing.id)[j]? = (log.map Listing.id)[k]? := by
      rw [List.getElem?_map, List.getElem?_map, hj.2, hk]
      exact congrArg some (eq_of_beq hid)
    have hlength : j < (log.map Listing.id).length := by
      rw [List.length_map]
      exact (List.getElem?_eq_some_iff.1 hj.2).1
    have heq : j = k := (List.getElem?_inj hlength h.nodup).1 hsame
    exact Nat.not_lt_of_le hle (heq ▸ hj.1)

/-- **Listing so many records** lists the newest of the log. -/
theorem recalled (h : Keeps size log s) {limit : Int} (hlimit : 0 ≤ limit) :
    (s.call rules (.recall (some limit))).1 =
      .ok (.records ((log.take size).take limit.toNat)) := by
  have hnewest : s.journal.newest? (some limit) = some (s.journal.records.take limit.toNat) :=
    if_neg (Int.not_lt.2 hlimit)
  rw [(Course.recalled hnewest).call_eq, List.map_take, h.listings_eq]

/-- **Listing all records** lists what the journal has room for. -/
theorem recalled_all (h : Keeps size log s) :
    (s.call rules (.recall none)).1 = .ok (.records (log.take size)) := by
  have hnewest : s.journal.newest? none = some s.journal.records := rfl
  rw [(Course.recalled hnewest).call_eq, h.listings_eq]

end Keeps

/-! ## Runs -/

variable [Source σ] {rules : HouseRules} {s s' : Session σ}

theorem Course.isFitting {c : Call} {outcome : Except Refusal Answer}
    (h : Course rules s c outcome s') : (Event.mk c outcome).IsFitting := by
  cases h with
  | rolled => exact ⟨_, _, rfl⟩
  | recast => exact .inl ⟨_, _, rfl⟩
  | kept => exact .inr ⟨_, rfl⟩
  | cleared => rfl
  | _ => trivial

/-- **A run of calls**: its events, and the session after them. -/
def run (rules : HouseRules) (s : Session σ) : List Call → List Event × Session σ
  | [] => ([], s)
  | c :: calls =>
    let (outcome, s') := s.call rules c
    let (events, last) := run rules s' calls
    (⟨c, outcome⟩ :: events, last)

/-- **A run keeps the log**, as it is after the events of the run. -/
theorem Keeps.run {size : Nat} {log : List Listing} (h : Keeps size log s) (calls : List Call) :
    Keeps size ((s.run rules calls).1.foldl Event.after log) (s.run rules calls).2 := by
  induction calls generalizing s log with
  | nil => exact h
  | cons c calls ih => exact ih (h.course (course_call rules s c))

/-- In every event of a run the answer fits the call. -/
theorem isFitting_of_mem_run (calls : List Call) :
    ∀ event ∈ (s.run rules calls).1, event.IsFitting := by
  induction calls generalizing s with
  | nil => exact List.forall_mem_nil _
  | cons c calls ih => exact List.forall_mem_cons.2 ⟨(course_call rules s c).isFitting, ih⟩

/-- **The journal after a run** holds the newest of the rolls that were recorded since
it was last cleared, as many as the house rules have room for. A roll is recorded by
every roll that was answered and by every recast that was made. If identifiers are given
out once, those of the rolls recorded are distinct, and those of the newest are known to a
recast while all others are refused; records are listed newest first, up to the number
asked for. -/
theorem run_keeps_history {ids : Nat → String} (hids : Function.Injective ids)
    (rules : HouseRules) (source : σ) (calls : List Call) :
    let last := ((start rules ids source).run rules calls).2
    let events := ((start rules ids source).run rules calls).1
    let history := (recordedSinceClear events).take rules.historySize.toNat
    last.journal.records.map Record.listing = history ∧
      (∀ event ∈ events, event.IsFitting) ∧
      ((recordedSinceClear events).map Listing.id).Nodup ∧
      (∀ (k : Nat) (l : Listing) (mode : Value), (recordedSinceClear events)[k]? = some l →
        ((last.call rules (.recast l.id mode)).1 ≠ .error (.unknownRoll l.id) ↔
          k < rules.historySize)) ∧
      (∀ limit, 0 ≤ limit → (last.call rules (.recall (some limit))).1 =
        .ok (.records (history.take limit.toNat))) ∧
      (last.call rules (.recall none)).1 = .ok (.records history) := by
  intro last events history
  have hkeeps : Keeps rules.historySize.toNat (recordedSinceClear events) last :=
    (Keeps.start hids rules source).run calls
  refine ⟨hkeeps.listings_eq, isFitting_of_mem_run calls, hkeeps.nodup, ?_,
    fun limit hlimit => hkeeps.recalled hlimit, hkeeps.recalled_all⟩
  intro k l mode hk
  rw [ne_eq, hkeeps.unknownRoll_iff hk, Int.toNat_le, Int.not_le]

/-- Of two rolls the older one is forgotten where there is room for one. -/
theorem run_keeps_history_of_two_rolls :
    let rules : HouseRules := { historySize := 1 }
    let source := Script.replies [.value (.whole 2), .value (.whole 5)]
    let roll : Call := .roll "d6" Mode.normal.value .nothing
    let run := (start rules idOf source).run rules [roll, roll]
    (recordedSinceClear run.1).map Listing.id = [idOf 2, idOf 1] ∧
      ∀ mode, (run.2.call rules (.recast (idOf 2) mode)).1 ≠ .error (.unknownRoll (idOf 2)) ∧
        (run.2.call rules (.recast (idOf 1) mode)).1 = .error (.unknownRoll (idOf 1)) := by
  intro rules source roll run
  have hparse : Expression.parse rules.limits "d6" = .ok ⟨[⟨1, 6⟩], by decide, 0, "d6"⟩ := by
    decide +kernel
  have hcall : ∀ s : Session Script, s.call rules roll = _ := fun s => call_roll hparse rfl
  have hids : (recordedSinceClear run.1).map Listing.id = [idOf 2, idOf 1] := by
    show (recordedSinceClear [⟨roll, ((start rules idOf source).call rules roll).1⟩,
      ⟨roll, (((start rules idOf source).call rules roll).2.call rules roll).1⟩]).map Listing.id = _
    rw [hcall, hcall]
    rfl
  obtain ⟨-, -, -, hknown, -⟩ :=
    run_keeps_history idOf_injective rules source [roll, roll]
  obtain ⟨newer, rest, hlog, hnewer, hrest⟩ := List.map_eq_cons_iff.1 hids
  obtain ⟨older, rest', rfl, holder, -⟩ := List.map_eq_cons_iff.1 hrest
  have hat : ∀ k : Nat, (recordedSinceClear run.1)[k]? = (newer :: older :: rest')[k]? := fun k =>
    congrArg (fun log : List Listing => log[k]?) hlog
  refine ⟨hids, fun mode => ⟨?_, ?_⟩⟩
  · have h := hknown 0 newer mode (hat 0)
    rw [hnewer] at h
    exact h.2 (by decide)
  · have h := hknown 1 older mode (hat 1)
    rw [holder] at h
    by_contra hne
    exact absurd (h.1 hne) (by decide)

end Session

end Tabletop
