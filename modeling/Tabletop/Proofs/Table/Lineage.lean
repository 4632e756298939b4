import Mathlib.Data.List.Nodup
import Mathlib.Data.List.Pairwise
import Tabletop.Proofs.Table.Admission

/-!
# The lineage of records

A record that was recast from another one, which may itself have been
recast, goes back to a roll of a notation. The journal does not tell which:
it holds no links, and the older records of the lineage may be gone from
it. The events tell, since each says what it was called with and under
which identifier it answered (`Descends`).

What is on record is what was answered when its identifier was given out,
and no identifier is given out twice. A record has the occasion and the
declared dice of the roll that it goes back to, since a recast takes over
both, and whatever else happens touches neither
(`Session.run_keeps_lineage`). The invariant of a run is `Session.Traces`.
-/

namespace Tabletop

/-! ## Declared dice in a report -/

namespace Part

/-- The group of a part, and as many of its first faces as the group has dice. -/
def declaredFaces? (p : Part) : Option (Group × List Face) :=
  p.group?.map fun g => (g, p.faces.take g.count.toNat)

theorem declaredFaces?_eq_bind (p : Part) :
    p.declaredFaces? = p.declared?.bind declaredFaces? := by
  cases p with
  | critical g ds bonus =>
    show some (g, (ds.map Die.face).take g.count.toNat) =
      some (g, ((ds.take g.count.toNat).map Die.face).take g.count.toNat)
    rw [List.map_take, List.take_take, Nat.min_self]
  | _ => rfl

theorem IsPlain.exists_declaredFaces? {g : Group} {p : Part} (hp : p.IsPlain g) :
    ∃ faces, p.declaredFaces? = some (g, faces) ∧ faces.length = g.count := by
  obtain ⟨ds, rfl, hds⟩ := hp
  refine ⟨_, rfl, ?_⟩
  show ((((ds.map Die.face).take g.count.toNat).length : Nat) : Int) = g.count
  rw [← hds.length_eq_toNat, ← List.map_take, List.take_length, List.length_map, hds.length_eq]

end Part

/-- **The declared dice in a report**: for each entry that belongs to a group the group, and as
many of the first faces as the group has dice. -/
def Report.declared (report : Report) : List (Group × List Face) :=
  report.entries.filterMap fun entry =>
    entry.group.map fun g => (g, entry.rolls.take g.count.toNat)

/-- **Whether dice are those of groups**: for each group in order as many faces as it has dice. -/
def Declares (gs : List Group) (declared : List (Group × List Face)) : Prop :=
  List.Forall₂ (fun g faces => faces.1 = g ∧ (faces.2.length : Int) = g.count) gs declared

theorem declares_of_isPlain {gs : List Group} {base : List Part}
    (hbase : List.Forall₂ Part.IsPlain gs base) :
    Declares gs (base.filterMap Part.declaredFaces?) := by
  induction hbase with
  | nil => exact .nil
  | cons hown _ ih =>
    obtain ⟨faces, hfaces, hlength⟩ := hown.exists_declaredFaces?
    rw [List.filterMap_cons_some hfaces]
    exact .cons ⟨rfl, hlength⟩ ih

namespace Roll

variable {σ : Type} [Source σ] {t t' : Tape σ} {r r' : Roll} {named : Value}
  {before policy : CriticalPolicy}

/-- The declared dice in the report of a roll are those of the roll. -/
theorem declared_report (r : Roll) :
    r.report.declared = r.declared.filterMap Part.declaredFaces? := by
  have hparts : r.report.declared = r.parts.filterMap Part.declaredFaces? :=
    List.filterMap_map
  rw [hparts, declared, List.filterMap_filterMap]
  exact List.filterMap_congr fun p _ => p.declaredFaces?_eq_bind

/-- **The report of a roll declares the dice of its groups.** -/
theorem MadeUnder.declares (hr : r.MadeUnder policy) :
    Declares r.expression.groups r.report.declared := by
  obtain ⟨base, hbase, hover⟩ := hr.shape.exists_over
  rw [declared_report, declared, hover.declared_eq hbase]
  exact declares_of_isPlain hbase

/-- **A recast keeps the declared dice.** -/
theorem declared_eq_of_gives_recastAs (hr : r.MadeUnder before)
    (h : Rolling.Gives (r.recastAs named policy) t (some r') t') : r'.declared = r.declared := by
  obtain ⟨base, hbase, hover⟩ := hr.shape.exists_over
  have hstands : r.StandsOn r.expression base := ⟨rfl, hbase, hover⟩
  rw [(hstands.of_gives_recastAs h).declared_eq, hstands.declared_eq]

end Roll

/-! ## What events create -/

/-- The identifier and the report of the roll that an event created, if it created one. -/
def Event.created? (event : Event) : Option (String × Report) :=
  match event.outcome with
  | .ok (.rolled id report) => some (id, report)
  | .ok (.recast id report) => some (id, report)
  | _ => none

/-- **The rolls that events created**, by their identifiers, the oldest first. -/
def created (events : List Event) : List (String × Report) :=
  events.filterMap Event.created?

/-- **What a roll goes back to**: a roll of a notation to itself, and a recast to what the roll
that was recast goes back to. -/
inductive Descends (events : List Event) : String → Listing → Prop
  /-- It was made of a notation, on an occasion. -/
  | rolled {text : String} {named context : Value} {id : String} {report : Report}
      (h : ⟨.roll text named context, .ok (.rolled id report)⟩ ∈ events) :
      Descends events id ⟨id, context, report⟩
  /-- It was recast from another one. -/
  | recast {old : String} {named : Value} {id : String} {report : Report} {root : Listing}
      (h : ⟨.recast old named, .ok (.recast id report)⟩ ∈ events) (hold : Descends events old root) :
      Descends events id root

section Events

variable {events later : List Event} {event event' : Event} {id : String} {report : Report}
  {root root' : Listing}

theorem created_append (events later : List Event) :
    created (events ++ later) = created events ++ created later :=
  List.filterMap_append

theorem Descends.append (h : Descends events id root) (later : List Event) :
    Descends (events ++ later) id root := by
  induction h with
  | rolled h => exact .rolled (List.mem_append_left _ h)
  | recast h _ ih => exact .recast (List.mem_append_left _ h) ih

/-- **An identifier is given out by one event**, if none is given out twice. -/
theorem eq_of_created (hids : ((created events).map Prod.fst).Nodup) (h : event ∈ events)
    (h' : event' ∈ events) {report' : Report} (hcreated : event.created? = some (id, report))
    (hcreated' : event'.created? = some (id, report')) : event = event' := by
  let Agree (a b : Event) : Prop :=
    ∀ x, a.created? = some x → ∀ y, b.created? = some y → x.1 = y.1 → a = b
  have hsymm : Std.Symm Agree := ⟨fun a b hab y hy x hx hid => (hab x hx y hy hid.symm).symm⟩
  have hpairwise : events.Pairwise Agree :=
    (List.pairwise_filterMap.1 (List.pairwise_map.1 hids)).imp
      fun hne x hx y hy hid => absurd hid (hne x hx y hy)
  exact hpairwise.forall_of_forall (fun _ _ _ _ _ _ _ => rfl) h h' _ hcreated _ hcreated' rfl

/-- **A roll goes back to one roll only**, if no identifier is given out twice. -/
theorem Descends.unique (hids : ((created events).map Prod.fst).Nodup)
    (h : Descends events id root) (h' : Descends events id root') : root = root' := by
  induction h with
  | rolled h =>
    cases h' with
    | rolled h₁ => cases eq_of_created hids h h₁ rfl rfl; rfl
    | recast h₁ _ => cases eq_of_created hids h h₁ rfl rfl
  | recast h _ ih =>
    cases h' with
    | rolled h₁ => cases eq_of_created hids h h₁ rfl rfl
    | recast h₁ hold => cases eq_of_created hids h h₁ rfl rfl; exact ih hold

end Events

namespace Session

variable {σ : Type} {rules : HouseRules} {events : List Event} {s s' : Session σ} {event : Event}

/-! ## What a session traces -/

/-- **What is listed of a record is traced by events**: one of them created the record with what
is listed, and it has the occasion and the declared dice of the roll that it goes back to. -/
structure IsTraced (events : List Event) (l : Listing) : Prop where
  /-- It is what was answered when it was created. -/
  created : (l.id, l.report) ∈ created events
  /-- It goes back to a roll of a notation. -/
  exists_root : ∃ root, Descends events l.id root ∧ root.context = l.context ∧
    root.report.declared = l.report.declared

/-- **A session is traced by events**: what they created is numbered by what has entered, and
they trace each of its records. -/
structure Traces (events : List Event) (s : Session σ) : Prop where
  /-- What was created is numbered. -/
  numbered : ∀ x ∈ created events, ∃ n ≤ s.entered, x.1 = s.ids n
  /-- Different numbers have different identifiers. -/
  ids_injective : Function.Injective s.ids
  /-- No identifier was given out twice. -/
  nodup : ((created events).map Prod.fst).Nodup
  /-- All records are traced. -/
  traced : ∀ record ∈ s.journal.records, IsTraced events record.listing

/-- A record is traced by later events too. -/
theorem IsTraced.append {l : Listing} (h : IsTraced events l) (later : List Event) :
    IsTraced (events ++ later) l where
  created := by
    rw [created_append]
    exact List.mem_append_left _ h.created
  exists_root := by
    obtain ⟨root, hroot, hsame⟩ := h.exists_root
    exact ⟨root, hroot.append later, hsame⟩

namespace Traces

theorem start {ids : Nat → String} (hids : Function.Injective ids) (rules : HouseRules)
    (source : σ) : Traces [] (start rules ids source) :=
  ⟨List.forall_mem_nil _, hids, List.nodup_nil, List.forall_mem_nil _⟩

/-- **An event that creates nothing** and enters nothing leaves a session traced. -/
theorem passed (h : Traces events s) (hevent : event.created? = none) (hids : s'.ids = s.ids)
    (hentered : s'.entered = s.entered) (hrecords : s'.journal.records ⊆ s.journal.records) :
    Traces (events ++ [event]) s' := by
  have hcreated : created (events ++ [event]) = created events := by
    have hnone : created [event] = [] := List.filterMap_cons_none hevent
    rw [created_append, hnone, List.append_nil]
  refine ⟨?_, ?_, ?_, fun record hrecord => (h.traced record (hrecords hrecord)).append _⟩
  · rw [hcreated, hentered, hids]
    exact h.numbered
  · rw [hids]
    exact h.ids_injective
  · rw [hcreated]
    exact h.nodup

/-- **An event that creates a roll** leaves a session traced if what it creates is recorded and
goes back to a roll with its occasion and its declared dice. -/
theorem recorded (h : Traces events s) {roll : Roll} {context : Value} {tape : Tape σ}
    (hevent : event.created? = some (s.ids (s.entered + 1), roll.report))
    (hroot : ∃ root, Descends (events ++ [event]) (s.ids (s.entered + 1)) root ∧
      root.context = context ∧ root.report.declared = roll.report.declared) :
    Traces (events ++ [event]) (s.recorded roll context tape) := by
  have hcreated : created (events ++ [event]) =
      created events ++ [(s.ids (s.entered + 1), roll.report)] := by
    rw [created_append]
    exact congrArg (fun new => created events ++ new) (List.filterMap_cons_some hevent)
  refine ⟨?_, h.ids_injective, ?_, ?_⟩
  · rw [hcreated, List.forall_mem_append, List.forall_mem_singleton]
    refine ⟨fun x hx => ?_, s.entered + 1, Nat.le_refl _, rfl⟩
    obtain ⟨n, hn, hid⟩ := h.numbered x hx
    exact ⟨n, Nat.le_succ_of_le hn, hid⟩
  · rw [hcreated, List.map_append, List.nodup_append]
    refine ⟨h.nodup, List.nodup_singleton _, ?_⟩
    rintro id hid _ hnew rfl
    obtain rfl := List.mem_singleton.1 hnew
    obtain ⟨x, hx, hidx⟩ := List.mem_map.1 hid
    obtain ⟨n, hn, hidn⟩ := h.numbered x hx
    have heq : n = s.entered + 1 := h.ids_injective (hidn.symm.trans hidx)
    exact Nat.not_succ_le_self _ (heq ▸ hn)
  · intro record hrecord
    rcases List.mem_cons.1 (List.mem_of_mem_take hrecord) with rfl | hold
    · refine ⟨?_, hroot⟩
      rw [hcreated]
      exact List.mem_append_right _ List.mem_cons_self
    · exact (h.traced record hold).append _

theorem of_find? (h : Traces events s) {id : String} {record : Record}
    (hfind : s.journal.find? id = some record) : record.id = id ∧ IsTraced events record.listing := by
  obtain ⟨hrecord, hid⟩ := Journal.mem_of_find? hfind
  exact ⟨hid, h.traced record hrecord⟩

variable [Source σ] {c : Call} {outcome : Except Refusal Answer}

/-- **Every course of a call leaves a session traced**, by its event too. -/
theorem course (h : Traces events s) (hadmits : Admits rules s)
    (hcourse : Course rules s c outcome s') : Traces (events ++ [⟨c, outcome⟩]) s' := by
  have hlast : ∀ event : Event, event ∈ events ++ [event] := fun event =>
    List.mem_append_right _ List.mem_cons_self
  cases hcourse with
  | rolled => exact h.recorded rfl ⟨_, .rolled (hlast _), rfl, rfl⟩
  | @recast id mode record roll tape hfind _ hroll =>
    obtain ⟨rfl, htraced⟩ := h.of_find? hfind
    obtain ⟨root, hroot, hcontext, hdeclared⟩ := htraced.exists_root
    have hkept : roll.declared = record.roll.declared :=
      Roll.declared_eq_of_gives_recastAs (hadmits.of_find? hfind).made hroll
    refine h.recorded rfl ⟨root, .recast (hlast _) (hroot.append _), hcontext, hdeclared.trans ?_⟩
    show record.roll.report.declared = roll.report.declared
    rw [Roll.declared_report, Roll.declared_report, hkept]
  | cleared => exact h.passed rfl rfl rfl (List.nil_subset _)
  | _ => exact h.passed rfl rfl rfl (List.Subset.refl _)

/-- **A run leaves a session traced**, by its events too. -/
theorem run (h : Traces events s) (hadmits : Admits rules s) (calls : List Call) :
    Traces (events ++ (s.run rules calls).1) (s.run rules calls).2 := by
  induction calls generalizing events s with
  | nil =>
    rw [show (s.run rules []).1 = [] from rfl, List.append_nil]
    exact h
  | cons c calls ih =>
    have hcourse := course_call rules s c
    have hrest := ih (h.course hadmits hcourse) (hcourse.admits hadmits)
    rwa [List.append_assoc] at hrest

end Traces

/-! ## What is listed and recast after a run -/

/-- **Whether a record is a recast of another one** to the mode that was named: it tells the
same of the expression and has the same occasion and the same declared dice. -/
structure IsRecast (named : Value) (old new : Record) : Prop where
  /-- It has the occasion of the other one. -/
  context_eq : new.context = old.context
  /-- It tells the text that was read. -/
  input_eq : new.roll.report.input = old.roll.report.input
  /-- It tells the canonical form. -/
  canonical_eq : new.roll.report.canonical = old.roll.report.canonical
  /-- It tells the modifier. -/
  modifier_eq : new.roll.report.modifier = old.roll.report.modifier
  /-- Its mode is the one that was named. -/
  mode_eq : named = .text new.roll.report.mode
  /-- Its declared dice are those of the other one. -/
  declared_eq : new.roll.report.declared = old.roll.report.declared
  /-- They are those of all groups of the expression. -/
  declares : Declares old.roll.expression.groups new.roll.report.declared

theorem find?_recorded (s : Session σ) (roll : Roll) (context : Value) (tape : Tape σ) :
    (s.recorded roll context tape).journal.find? (s.ids (s.entered + 1)) =
      some ⟨s.ids (s.entered + 1), roll, context⟩ := by
  show (s.journal.enter _).records.find? _ = _
  rw [Journal.records_enter_eq]
  exact List.find?_cons_of_pos (beq_self_eq_true _)

variable [Source σ]

/-- **A record that was recast is a recast.** -/
theorem isRecast_of_gives {policy : CriticalPolicy} {named : Value} {old : Record} {roll : Roll}
    {t t' : Tape σ} (hmade : old.roll.MadeUnder policy)
    (hroll : Rolling.Gives (old.roll.recastAs named policy) t (some roll) t') (id : String) :
    IsRecast named old ⟨id, roll, old.context⟩ := by
  obtain ⟨hexpression, hmode, hmade'⟩ := hmade.of_gives_recastAs hroll
  refine ⟨rfl, congrArg Expression.text hexpression, congrArg Expression.canonical hexpression,
    congrArg Expression.modifier hexpression, Mode.ofValue?_eq_some.1 hmode, ?_, ?_⟩
  · rw [Roll.declared_report, Roll.declared_report, Roll.declared_eq_of_gives_recastAs hmade hroll]
  · rw [← hexpression]
    exact hmade'.declares

variable {rules : HouseRules} {events : List Event} {s s' : Session σ} {named : Value}
  {id id' : String} {report : Report}

/-- **What is listed is traced.** -/
theorem Traces.listed (h : Traces events s) {limit : Option Int} {listings : List Listing}
    (hcourse : Course rules s (.recall limit) (.ok (.records listings)) s') :
    ∀ l ∈ listings, IsTraced events l := by
  cases hcourse with
  | recalled hnewest =>
    exact List.forall_mem_map.2 fun record hrecord =>
      h.traced record (Journal.mem_of_mem_newest? hnewest hrecord)

/-- **What is recast is traced**, and its record is found under the new identifier. -/
theorem Traces.recast (h : Traces events s) (hadmits : Admits rules s)
    (hcourse : Course rules s (.recast id named) (.ok (.recast id' report)) s') :
    ∃ old new root, s.journal.find? id = some old ∧ s'.journal.find? id' = some new ∧
      new.roll.report = report ∧ IsRecast named old new ∧
      Descends events id root ∧ report.declared = root.report.declared := by
  cases hcourse with
  | @recast _ _ old roll tape hfind _ hroll =>
    obtain ⟨rfl, htraced⟩ := h.of_find? hfind
    obtain ⟨root, hroot, -, hdeclared⟩ := htraced.exists_root
    have hrecast := isRecast_of_gives (hadmits.of_find? hfind).made hroll (s.ids (s.entered + 1))
    exact ⟨old, _, root, hfind, find?_recorded s roll old.context tape, rfl, hrecast, hroot,
      hrecast.declared_eq.trans hdeclared.symm⟩

theorem Course.kept_eq (h : Course rules s (.recast id named) (.ok (.kept id' report)) s') :
    id' = id ∧ ∃ old, s.journal.find? id = some old ∧ report = old.roll.report := by
  cases h with
  | kept hfind => exact ⟨rfl, _, hfind, rfl⟩

/-- **Records are what was answered, and keep their lineage**, after whatever calls. If
different numbers have different identifiers, none is given out twice, and a roll goes back to one roll of a notation. Every record that
is listed is what was answered when it was created, and has the occasion and the declared dice
of the roll that it goes back to. A recast that is made records a recast of the record that was
named; the declared dice of both are those of the roll that they go back to. A recast that
leaves the roll as it was answers what is on record. -/
theorem run_keeps_lineage {ids : Nat → String} (hids : Function.Injective ids)
    (rules : HouseRules) (source : σ) (calls : List Call) :
    let events := ((start rules ids source).run rules calls).1
    let s := ((start rules ids source).run rules calls).2
    ((created events).map Prod.fst).Nodup ∧
      (∀ id root root', Descends events id root → Descends events id root' → root = root') ∧
      (∀ limit listings, (s.call rules (.recall limit)).1 = .ok (.records listings) →
        ∀ l ∈ listings, IsTraced events l) ∧
      (∀ id named id' report,
        (s.call rules (.recast id named)).1 = .ok (.recast id' report) →
          ∃ old new root, s.journal.find? id = some old ∧
            (s.call rules (.recast id named)).2.journal.find? id' = some new ∧
            new.roll.report = report ∧ IsRecast named old new ∧
            Descends events id root ∧ report.declared = root.report.declared) ∧
      ∀ id named id' report, (s.call rules (.recast id named)).1 = .ok (.kept id' report) →
        id' = id ∧ ∃ old, s.journal.find? id = some old ∧ report = old.roll.report := by
  intro events s
  have hadmits : Admits rules s :=
    (show Admits rules (start rules ids source) from List.forall_mem_nil _).run calls
  have htraces : Traces events s :=
    (Traces.start hids rules source).run (List.forall_mem_nil _) calls
  exact ⟨htraces.nodup, fun _ _ _ => Descends.unique htraces.nodup,
    fun _ _ hlisted => htraces.listed (course_of_outcome hlisted),
    fun _ _ _ _ hanswer => htraces.recast hadmits (course_of_outcome hanswer),
    fun _ _ _ _ hanswer => (course_of_outcome hanswer).kept_eq⟩

/-- A die is rolled on an occasion and recast, and with room for one record it is dropped. What
it was recast to still goes back to it, and so does what this is recast to. -/
theorem run_keeps_lineage_of_dropped_root :
    let rules : HouseRules := { historySize := 1 }
    let source := Script.replies [.value (.whole 2), .value (.whole 5), .value (.whole 3)]
    let calls : List Call := [.roll "d6" Mode.normal.value (.text "sneak"),
      .recast (idOf 1) Mode.advantage.value]
    let events := ((start rules idOf source).run rules calls).1
    let s := ((start rules idOf source).run rules calls).2
    s.journal.find? (idOf 1) = none ∧
      (∃ record, s.journal.records = [record] ∧ IsTraced events record.listing ∧
        record.context = .text "sneak") ∧
      ∃ report root, (s.call rules (.recast (idOf 2) Mode.normal.value)).1 =
          .ok (.recast (idOf 3) report) ∧ Descends events (idOf 2) root ∧ root.id = idOf 1 ∧
        report.declared = [(⟨1, 6⟩, [.number 2])] ∧ root.report.declared = report.declared := by
  intro rules source calls events s
  let e : Expression := ⟨[⟨1, 6⟩], by decide, 0, "d6"⟩
  let plain : Roll := ⟨e, .normal, [.plain ⟨1, 6⟩ [⟨6, .number 2⟩]]⟩
  let raised : Roll := ⟨e, .advantage,
    [.plain ⟨1, 6⟩ [⟨6, .number 2⟩], .advantage [⟨6, .number 5⟩, ⟨6, .number 3⟩]]⟩
  let tape : Tape Script := ⟨.replies [.value (.whole 5), .value (.whole 3)], #[⟨1, 6⟩]⟩
  let last : Tape Script := ⟨.replies [], #[⟨1, 6⟩, ⟨1, 6⟩, ⟨1, 6⟩]⟩
  let first : Session Script := (start rules idOf source).recorded plain (.text "sneak") tape
  let second : Session Script := first.recorded raised (.text "sneak") last
  have hparse : Expression.parse rules.limits "d6" = .ok e := by decide +kernel
  have hrolled : (start rules idOf source).call rules (.roll "d6" Mode.normal.value (.text "sneak")) =
      (.ok (.rolled (idOf 1) plain.report), first) := Course.call_eq (.rolled hparse rfl rfl)
  have hfirst : first.journal.find? (idOf 1) = some ⟨idOf 1, plain, .text "sneak"⟩ :=
    find?_recorded _ _ _ _
  have hsecond : second.journal.find? (idOf 2) = some ⟨idOf 2, raised, .text "sneak"⟩ :=
    find?_recorded _ _ _ _
  have hraised : first.call rules (.recast (idOf 1) Mode.advantage.value) =
      (.ok (.recast (idOf 2) raised.report), second) := Course.call_eq (.recast hfirst rfl rfl)
  have hplain : second.call rules (.recast (idOf 2) Mode.normal.value) =
      (.ok (.recast (idOf 3) plain.report), second.recorded plain (.text "sneak") last) :=
    Course.call_eq (.recast hsecond rfl rfl)
  have hrun : (start rules idOf source).run rules calls =
      ([⟨.roll "d6" Mode.normal.value (.text "sneak"), .ok (.rolled (idOf 1) plain.report)⟩,
        ⟨.recast (idOf 1) Mode.advantage.value, .ok (.recast (idOf 2) raised.report)⟩], second) := by
    simp only [calls, Session.run, hrolled, hraised]
  have hs : s = second := congrArg Prod.snd hrun
  have hevents : events = _ := congrArg Prod.fst hrun
  obtain ⟨-, hunique, hlisted, hrecast, -⟩ := run_keeps_lineage idOf_injective rules source calls
  have hdropped : Descends events (idOf 2) ⟨idOf 1, .text "sneak", plain.report⟩ := by
    rw [hevents]
    exact .recast (List.mem_cons_of_mem _ List.mem_cons_self) (.rolled List.mem_cons_self)
  have hrecall : (s.call rules (.recall none)).1 =
      .ok (.records [Record.listing ⟨idOf 2, raised, .text "sneak"⟩]) := by
    rw [hs]
    rfl
  have hanswer : (s.call rules (.recast (idOf 2) Mode.normal.value)).1 =
      .ok (.recast (idOf 3) plain.report) := by
    rw [hs, hplain]
  obtain ⟨_, _, root, -, -, -, -, hroot, hdeclared⟩ := hrecast _ _ _ _ hanswer
  obtain rfl := hunique _ _ _ hdropped hroot
  refine ⟨?_, ⟨_, ?_, hlisted _ _ hrecall _ List.mem_cons_self, rfl⟩,
    _, _, hanswer, hdropped, rfl, rfl, hdeclared.symm⟩
  · rw [hs]
    exact List.find?_cons_of_neg (by decide)
  · rw [hs]
    rfl

end Session

end Tabletop
