import Mathlib.Data.List.Nodup
import Tabletop.Journal

/-!
# What a journal retains

A journal is written in, read from and cleared in any order. Since records
are removed too, how many were entered after a record does not decide
whether the journal still holds it; what decides is how full the journal
was each time (`Journal.Loses`).

Of the records that were entered a journal holds some, the newest first
and none twice (`Journal.records_after_sublist`), and it loses one only by
its removal, by clearing, or by entering another one into a full journal
of which it was the oldest (`Journal.loses_of_not_mem`). All of it is
shown act by act; a run of acts only puts the acts together
(`Journal.after_retains`).
-/

namespace Tabletop.Journal

/-! ## Acts on a journal -/

/-- **What is done with a journal.** -/
inductive Act
  /-- A record is entered. -/
  | enter (r : Record)
  /-- The record of an identifier is removed. -/
  | remove (id : String)
  /-- All records are removed. -/
  | clear
  /-- The record of an identifier is looked up. -/
  | find (id : String)
  /-- The newest records are listed, all or as many as given. -/
  | newest (limit : Option Int)

/-- **What comes of an act.** -/
inductive Outcome
  /-- This record was entered. -/
  | entered (r : Record)
  /-- A record was removed, or there was none. -/
  | removed (held : Bool)
  /-- All records were removed. -/
  | cleared
  /-- This record was found, or none. -/
  | found (r : Option Record)
  /-- These records were listed. -/
  | listed (records : List Record)
  /-- The act was refused, with a message. -/
  | refused (message : String)

/-- **An act on a journal**: what comes of it, and the journal after it. -/
def perform (j : Journal) : Act → Outcome × Journal
  | .enter r => (.entered r, j.enter r)
  | .remove id => (.removed (j.contains id), j.remove id)
  | .clear => (.cleared, j.clear)
  | .find id => (.found (j.find? id), j)
  | .newest limit =>
    match j.newest? limit with
    | some records => (.listed records, j)
    | none => (.refused limitMessage, j)

/-- **A journal after acts**, one after the other. -/
def after (j : Journal) (acts : List Act) : Journal :=
  acts.foldl (fun j act => (j.perform act).2) j

/-- The record that an act enters, if it enters one. -/
def Act.entered? : Act → Option Record
  | .enter r => some r
  | _ => none

/-- **The records that acts enter**, in the order of the acts. -/
def entered (acts : List Act) : List Record :=
  acts.filterMap Act.entered?

/-- **Whether an act loses a record of a journal**: it removes the record, it clears the
journal, or it enters another record into a journal that is full and of which this one is
the oldest. -/
def Loses (j : Journal) (act : Act) (r : Record) : Prop :=
  act = .remove r.id ∨ act = .clear ∨
    (∃ r', act = .enter r') ∧ j.size = j.capacity ∧ j.records.getLast? = some r

variable {j : Journal} {r : Record} {id : String} {act : Act} {acts later : List Act}

@[simp] theorem after_cons (j : Journal) (act : Act) (acts : List Act) :
    j.after (act :: acts) = (j.perform act).2.after acts := rfl

theorem after_append (j : Journal) (acts later : List Act) :
    j.after (acts ++ later) = (j.after acts).after later :=
  List.foldl_append

theorem entered_cons (act : Act) (acts : List Act) :
    entered (act :: acts) = act.entered?.toList ++ entered acts := by
  cases act <;> rfl

theorem entered_append (acts later : List Act) :
    entered (acts ++ later) = entered acts ++ entered later :=
  List.filterMap_append

theorem nodup_entered (h : ((entered (acts ++ later)).map Record.id).Nodup) :
    ((entered acts).map Record.id).Nodup := by
  rw [entered_append, List.map_append, List.nodup_append] at h
  exact h.1

theorem perform_newest (j : Journal) (limit : Option Int) :
    (j.perform (.newest limit)).2 = j := by
  unfold perform
  dsimp only
  cases j.newest? limit <;> rfl

@[simp] theorem capacity_perform (j : Journal) (act : Act) :
    (j.perform act).2.capacity = j.capacity := by
  cases act with
  | newest limit => rw [perform_newest]
  | _ => rfl

@[simp] theorem capacity_after (j : Journal) (acts : List Act) :
    (j.after acts).capacity = j.capacity := by
  induction acts generalizing j with
  | nil => rfl
  | cons act acts ih => rw [after_cons, ih, capacity_perform]

/-! ## Single acts -/

theorem contains_eq (j : Journal) (id : String) : j.contains id = (j.find? id).isSome := by
  rw [Bool.eq_iff_iff, contains, find?, List.any_eq_true, List.find?_isSome]

theorem find?_of_mem (hids : (j.records.map Record.id).Nodup) (hr : r ∈ j.records) :
    j.find? r.id = some r := by
  cases hfind : j.find? r.id with
  | none => exact absurd (beq_self_eq_true r.id) (List.find?_eq_none.1 hfind r hr)
  | some found =>
    obtain ⟨hfound, hid⟩ := mem_of_find? hfind
    rw [List.inj_on_of_nodup_map hids hfound hr hid]

/-- **Removing a record that is found** takes it out from between the newer and the older
ones. -/
theorem records_remove_of_find? (h : j.find? id = some r) :
    ∃ newer older, j.records = newer ++ r :: older ∧ (j.remove id).records = newer ++ older := by
  obtain ⟨hid, newer, older, hrecords, hnewer⟩ := List.find?_eq_some_iff_append.1 h
  refine ⟨newer, older, hrecords, ?_⟩
  have hnone : ∀ x ∈ newer, ¬(x.id == id) = true := fun x hx => by
    rw [Bool.not_eq_true, ← Bool.not_eq_true']
    exact hnewer x hx
  show j.records.eraseP (fun r => r.id == id) = _
  rw [hrecords, List.eraseP_append_right _ hnone, List.eraseP_cons, hid, cond_true]

theorem not_mem_ids_remove (hids : (j.records.map Record.id).Nodup) (h : j.find? id = some r) :
    id ∉ (j.remove id).records.map Record.id := by
  obtain ⟨newer, older, hrecords, hremoved⟩ := records_remove_of_find? h
  rw [hrecords, List.map_append, List.map_cons, List.nodup_middle, List.nodup_cons] at hids
  rw [hremoved, List.map_append, ← (mem_of_find? h).2]
  exact hids.1

theorem remove_of_find? (h : j.find? id = none) : j.remove id = j := by
  obtain ⟨capacity, hpos, records, hle⟩ := j
  have hrecords : records.eraseP (fun r => r.id == id) = records :=
    List.eraseP_of_forall_not (List.find?_eq_none.1 h)
  unfold remove
  congr

/-- An act leaves what it enters and some of what a journal held, in order. -/
theorem records_perform_sublist (j : Journal) (act : Act) :
    (j.perform act).2.records.Sublist (act.entered?.toList ++ j.records) := by
  cases act with
  | enter r => exact List.take_sublist _ _
  | remove id => exact List.eraseP_sublist
  | clear => exact List.nil_sublist _
  | find id => exact List.Sublist.refl _
  | newest limit =>
    rw [perform_newest]
    exact List.Sublist.refl _

/-- **What an act takes from a journal is lost by it.** -/
theorem loses_of_not_mem (hr : r ∈ j.records) (h : r ∉ (j.perform act).2.records) :
    Loses j act r := by
  cases act with
  | enter r' =>
    have hnext : r ∉ r' :: if j.isFull then j.records.dropLast else j.records :=
      records_enter_eq j r' ▸ h
    rw [List.mem_cons, not_or] at hnext
    by_cases hfull : j.isFull = true
    · rw [if_pos hfull] at hnext
      obtain ⟨front, last, hrecords⟩ :=
        (List.eq_nil_or_concat j.records).resolve_left (List.ne_nil_of_mem hr)
      rw [List.concat_eq_append] at hrecords
      rw [hrecords, List.dropLast_concat] at hnext
      rw [hrecords, List.mem_append, List.mem_singleton] at hr
      refine .inr (.inr ⟨⟨r', rfl⟩, (isFull_iff j).1 hfull, ?_⟩)
      rw [hrecords, List.getLast?_concat, hr.resolve_left hnext.2]
    · rw [if_neg hfull] at hnext
      exact absurd hr hnext.2
  | remove id =>
    refine .inl (congrArg Act.remove ?_)
    by_contra hne
    have hother : ¬(r.id == id) = true := fun hid => hne (eq_of_beq hid).symm
    exact h ((List.mem_eraseP_of_neg (p := fun x : Record => x.id == id) hother).2 hr)
  | clear => exact .inr (.inl rfl)
  | find id => exact absurd hr h
  | newest limit =>
    rw [perform_newest] at h
    exact absurd hr h

/-- **What is lost by an act is taken from the journal**, if no identifier is held twice and
no record is entered under one that is held. -/
theorem not_mem_of_loses (hids : (j.records.map Record.id).Nodup) (hr : r ∈ j.records)
    (hfresh : ∀ r', act = .enter r' → r'.id ∉ j.records.map Record.id) (h : Loses j act r) :
    r ∉ (j.perform act).2.records := by
  rcases h with rfl | rfl | ⟨⟨r', rfl⟩, hsize, hlast⟩
  · -- the record that is taken out is this one, and no other has its identifier
    intro hmem
    exact not_mem_ids_remove hids (find?_of_mem hids hr) (List.mem_map_of_mem hmem)
  · exact List.not_mem_nil
  · obtain ⟨front, hrecords⟩ := List.getLast?_eq_some_iff.1 hlast
    have hnodup := List.Nodup.of_map _ hids
    rw [hrecords, List.nodup_append] at hnodup
    show r ∉ (j.enter r').records
    rw [records_enter_eq, if_pos ((isFull_iff j).2 hsize), hrecords, List.dropLast_concat,
      List.mem_cons, not_or]
    refine ⟨?_, fun hfront => hnodup.2.2 r hfront r (List.mem_singleton.2 rfl) rfl⟩
    rintro rfl
    exact hfresh r rfl (List.mem_map_of_mem hr)

/-! ## Runs -/

/-- **A journal after acts holds some of what was entered**, the newest first, and then some
of what it held. -/
theorem records_after_sublist (j : Journal) (acts : List Act) :
    (j.after acts).records.Sublist ((entered acts).reverse ++ j.records) := by
  induction acts generalizing j with
  | nil => exact List.Sublist.refl _
  | cons act acts ih =>
    have hreverse : act.entered?.toList.reverse = act.entered?.toList := by
      cases act.entered? <;> rfl
    rw [after_cons, entered_cons, List.reverse_append, hreverse, List.append_assoc]
    exact (ih _).trans ((records_perform_sublist j act).append_left _)

/-- **A record that a journal held, or that was entered since, is held or was lost** by one of
the acts. -/
theorem mem_after_or_lost (h : r ∈ j.records ∨ r ∈ entered acts) :
    r ∈ (j.after acts).records ∨ ∃ before act rest, acts = before ++ act :: rest ∧
      r ∈ (j.after before).records ∧ Loses (j.after before) act r := by
  induction acts generalizing j with
  | nil => exact .inl (h.resolve_right List.not_mem_nil)
  | cons act acts ih =>
    by_cases hnext : r ∈ (j.perform act).2.records ∨ r ∈ entered acts
    · refine (ih hnext).imp_right ?_
      rintro ⟨before, act', rest, rfl, hmem, hlost⟩
      exact ⟨act :: before, act', rest, rfl, hmem, hlost⟩
    · -- it is neither left by this act nor entered later, so this act loses it
      rw [not_or] at hnext
      rw [entered_cons, List.mem_append] at h
      refine .inr ⟨[], act, acts, rfl, ?_⟩
      rcases h with hr | hentered | hlater
      · exact ⟨hr, loses_of_not_mem hr hnext.1⟩
      · cases act with
        | enter r' =>
          obtain rfl := List.mem_singleton.1 hentered
          have hfirst : r ∈ (j.enter r).records := by
            rw [records_enter_eq]
            exact List.mem_cons_self
          exact absurd hfirst hnext.1
        | _ => cases hentered
      · exact absurd hlater hnext.2

/-- **An identifier that is neither held nor entered** is not found after any acts. -/
theorem find?_after_eq_none (hj : id ∉ j.records.map Record.id)
    (hacts : id ∉ (entered acts).map Record.id) : (j.after acts).find? id = none := by
  refine List.find?_eq_none.2 fun r hr hid => ?_
  rcases List.mem_append.1 ((records_after_sublist j acts).subset hr) with hmem | hmem
  · exact hacts (List.mem_map.2 ⟨r, List.mem_reverse.1 hmem, eq_of_beq hid⟩)
  · exact hj (List.mem_map.2 ⟨r, hmem, eq_of_beq hid⟩)

/-- **Listing so many records** lists the newest, as many as there are; a negative number is
refused. -/
theorem outcome_newest (j : Journal) (n : Int) :
    (j.perform (.newest (some n))).1 =
      if n < 0 then .refused limitMessage else .listed (j.records.take (min n.toNat j.size)) := by
  by_cases hn : n < 0
  · have hnone : j.newest? (some n) = none := if_pos hn
    rw [if_pos hn, perform, hnone]
  · have hsome : j.newest? (some n) = some (j.records.take n.toNat) := if_neg hn
    rw [if_neg hn, perform, hsome, size, ← List.take_eq_take_min]

theorem outcome_remove_iff (j : Journal) (id : String) :
    (j.perform (.remove id)).1 = .removed true ↔
      ∃ r, (j.perform (.find id)).1 = .found (some r) := by
  show Outcome.removed (j.contains id) = .removed true ↔
    ∃ r, Outcome.found (j.find? id) = .found (some r)
  simp only [Outcome.removed.injEq, Outcome.found.injEq, contains_eq, Option.isSome_iff_exists]

theorem outcomes_of_find? (h : j.find? id = none) :
    (j.perform (.find id)).1 = .found none ∧ (j.perform (.remove id)).1 = .removed false := by
  refine ⟨congrArg Outcome.found h, ?_⟩
  show Outcome.removed (j.contains id) = _
  rw [contains_eq, h]
  rfl

section Start

variable {capacity : Nat} (hcapacity : 0 < capacity)

theorem records_sublist_entered (acts : List Act) :
    ((empty capacity hcapacity).after acts).records.Sublist (entered acts).reverse := by
  have h := records_after_sublist (empty capacity hcapacity) acts
  rwa [show (empty capacity hcapacity).records = [] from rfl, List.append_nil] at h

theorem nodup_ids_after (hids : ((entered acts).map Record.id).Nodup) :
    (((empty capacity hcapacity).after acts).records.map Record.id).Nodup := by
  have hreverse : ((entered acts).reverse.map Record.id).Nodup := by
    rw [List.map_reverse, List.nodup_reverse]
    exact hids
  exact hreverse.sublist ((records_sublist_entered hcapacity acts).map Record.id)

theorem mem_entered_of_mem (hr : r ∈ ((empty capacity hcapacity).after acts).records) :
    r ∈ entered acts :=
  List.mem_reverse.1 ((records_sublist_entered hcapacity acts).subset hr)

variable (hids : ((entered (acts ++ act :: later)).map Record.id).Nodup)

include hids

/-- What was entered before an act and what is entered by it or later have different
identifiers. -/
theorem id_ne_of_entered {r' : Record} (hr : r ∈ entered acts)
    (hr' : act.entered? = some r' ∨ r' ∈ entered later) : r'.id ≠ r.id := by
  rw [entered_append, entered_cons, List.map_append, List.nodup_append] at hids
  have hmem : r' ∈ act.entered?.toList ++ entered later :=
    List.mem_append.2 (hr'.imp_left Option.mem_toList.2)
  exact (hids.2.2 r.id (List.mem_map_of_mem hr) r'.id (List.mem_map_of_mem hmem)).symm

/-- **At every point of a run** an act takes exactly the records that it loses. -/
theorem not_mem_perform_iff (hr : r ∈ ((empty capacity hcapacity).after acts).records) :
    r ∉ (((empty capacity hcapacity).after acts).perform act).2.records ↔
      Loses ((empty capacity hcapacity).after acts) act r := by
  refine ⟨loses_of_not_mem hr, not_mem_of_loses (nodup_ids_after hcapacity (nodup_entered hids)) hr ?_⟩
  rintro r' rfl hheld
  obtain ⟨x, hx, hid⟩ := List.mem_map.1 hheld
  exact id_ne_of_entered hids (mem_entered_of_mem hcapacity hx) (.inl rfl) hid.symm

/-- **A record that is removed is gone for good.** -/
theorem find?_after_remove {id : String} (hact : act = .remove id)
    (hfind : ((empty capacity hcapacity).after acts).find? id = some r) :
    ((((empty capacity hcapacity).after acts).perform act).2.after later).find? id = none := by
  obtain ⟨hr, hid⟩ := mem_of_find? hfind
  subst hact
  refine find?_after_eq_none
    (not_mem_ids_remove (nodup_ids_after hcapacity (nodup_entered hids)) hfind) ?_
  intro hlater
  obtain ⟨x, hx, hxid⟩ := List.mem_map.1 hlater
  exact id_ne_of_entered hids (mem_entered_of_mem hcapacity hr) (.inr hx) (hxid.trans hid.symm)

/-- **A record that an act has lost** is not held after any later acts. -/
theorem not_mem_of_lost (hr : r ∈ ((empty capacity hcapacity).after acts).records)
    (hlost : Loses ((empty capacity hcapacity).after acts) act r) :
    r ∉ ((empty capacity hcapacity).after (acts ++ act :: later)).records := by
  intro hmem
  rw [after_append, after_cons] at hmem
  rcases List.mem_append.1 ((records_after_sublist _ later).subset hmem) with hlater | hnext
  · exact id_ne_of_entered hids (mem_entered_of_mem hcapacity hr)
      (.inr (List.mem_reverse.1 hlater)) rfl
  · exact (not_mem_perform_iff hcapacity hids hr).2 hlost hnext

end Start

/-- **A journal retains what no act has lost.** At every point of a run of acts that enters no
identifier twice it holds some of the records that were entered, the newest first and none
twice, no more than there is room for, and it is full exactly when it holds that many. A
record that is entered comes first, and only a full journal drops one for it, the last. A
removal succeeds exactly if the record would have been found; it takes out this record and
leaves all others in order, and the record is never found or removed again. Looking up and
listing change nothing. So a record that was entered is missing exactly if some act has lost
it. -/
theorem after_retains {capacity : Nat} (hcapacity : 0 < capacity) (acts : List Act) (act : Act)
    (later : List Act) (hids : ((entered (acts ++ act :: later)).map Record.id).Nodup) :
    let start := empty capacity hcapacity
    let j := start.after acts
    let outcome := (j.perform act).1
    let next := (j.perform act).2
    (j.records.Sublist (entered acts).reverse ∧ (j.records.map Record.id).Nodup ∧
        j.size ≤ capacity ∧ (j.isFull = true ↔ j.size = capacity)) ∧
      (∀ r, act = .enter r →
        next.records = r :: if j.isFull then j.records.dropLast else j.records) ∧
      (∀ id, act = .remove id →
        (outcome = .removed true ↔ ∃ r, (j.perform (.find id)).1 = .found (some r)) ∧
          ((j.perform (.find id)).1 = .found none → next = j) ∧
          ∀ r, (j.perform (.find id)).1 = .found (some r) →
            (∃ newer older, j.records = newer ++ r :: older ∧ next.records = newer ++ older) ∧
              ((next.after later).perform (.find id)).1 = .found none ∧
              ((next.after later).perform (.remove id)).1 = .removed false) ∧
      (∀ id, act = .find id → next = j ∧
        ∀ r, outcome = .found (some r) ↔ r ∈ j.records ∧ r.id = id) ∧
      (act = .newest none → next = j ∧ outcome = .listed j.records) ∧
      (∀ n, act = .newest (some n) → next = j ∧ outcome =
        if n < 0 then .refused limitMessage else .listed (j.records.take (min n.toNat j.size))) ∧
      (∀ r ∈ j.records, r ∉ next.records ↔ Loses j act r) ∧
      ∀ r ∈ entered acts, r ∉ j.records ↔ ∃ before lost rest, acts = before ++ lost :: rest ∧
        r ∈ (start.after before).records ∧ Loses (start.after before) lost r := by
  intro start j outcome next
  have hbefore : ((entered acts).map Record.id).Nodup := nodup_entered hids
  have hnodup : (j.records.map Record.id).Nodup := nodup_ids_after hcapacity hbefore
  have hsize : j.capacity = capacity := capacity_after start acts
  refine ⟨⟨records_sublist_entered hcapacity acts, hnodup, ?_, ?_⟩, ?_, ?_, ?_, ?_, ?_,
    fun r hr => not_mem_perform_iff hcapacity hids hr, ?_⟩
  · rw [← hsize]
    exact j.length_le
  · rw [← hsize]
    exact isFull_iff j
  · rintro r rfl
    exact records_enter_eq j r
  · rintro id rfl
    refine ⟨outcome_remove_iff j id, fun hnone => remove_of_find? (Outcome.found.inj hnone),
      fun r hfound => ?_⟩
    have hfind : j.find? id = some r := Outcome.found.inj hfound
    have hgone : (next.after later).find? id = none :=
      find?_after_remove hcapacity hids rfl hfind
    exact ⟨records_remove_of_find? hfind, outcomes_of_find? hgone⟩
  · rintro id rfl
    refine ⟨rfl, fun r => ⟨fun hfound => mem_of_find? (Outcome.found.inj hfound), ?_⟩⟩
    rintro ⟨hr, rfl⟩
    exact congrArg Outcome.found (find?_of_mem hnodup hr)
  · rintro rfl
    exact ⟨rfl, rfl⟩
  · rintro n rfl
    exact ⟨perform_newest j _, outcome_newest j n⟩
  · intro r hr
    constructor
    · exact (mem_after_or_lost (.inr hr)).resolve_left
    · rintro ⟨before, lost, rest, rfl, hmem, hlost⟩
      exact not_mem_of_lost hcapacity hbefore hmem hlost

/-- Removing a record made room for another one, and the next one drops the oldest that is
left, although it is not the first that was entered. -/
theorem after_retains_of_made_room :
    let roll : Roll :=
      ⟨⟨[⟨1, 6⟩], by decide, 0, "d6"⟩, .normal, [.plain ⟨1, 6⟩ [⟨6, .number 4⟩]]⟩
    let a : Record := ⟨"a", roll, .nothing⟩
    let b : Record := ⟨"b", roll, .nothing⟩
    let c : Record := ⟨"c", roll, .nothing⟩
    let d : Record := ⟨"d", roll, .nothing⟩
    let acts : List Act := [.enter a, .enter b, .remove "a", .enter c]
    let j := (empty 2 (by decide)).after acts
    let next := (j.perform (.enter d)).2
    ((entered (acts ++ [.enter d, .find "b"])).map Record.id).Nodup ∧ j.records = [c, b] ∧
      next.records = [d, c] ∧ Loses j (.enter d) b ∧ a ∉ j.records := by
  intro roll a b c d acts j next
  have hids : ((entered (acts ++ [.enter d, .find "b"])).map Record.id).Nodup := by decide
  have hrecords : j.records = [c, b] := rfl
  obtain ⟨-, henter, -, -, -, -, hlost, hmissing⟩ :=
    after_retains (by decide : 0 < 2) acts (.enter d) [.find "b"] hids
  have hnext : next.records = [d, c] := (henter d rfl).trans rfl
  have hb : b ∈ j.records := by
    rw [hrecords]
    exact List.mem_cons_of_mem c List.mem_cons_self
  have hne : b ∉ next.records := by
    rw [hnext]
    exact fun h => absurd (List.mem_map_of_mem (f := Record.id) h) (by decide)
  have ha : a ∉ j.records := (hmissing a List.mem_cons_self).2
    ⟨[.enter a, .enter b], .remove "a", [.enter c], rfl, List.mem_cons_of_mem b List.mem_cons_self,
      .inl rfl⟩
  exact ⟨hids, hrecords, hnext, (hlost b hb).1 hne, ha⟩

end Tabletop.Journal
