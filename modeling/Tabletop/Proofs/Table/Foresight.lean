import Tabletop.Proofs.Roll.Reach
import Tabletop.Proofs.Table.Admission

/-!
# A check foretells a roll

A notation can be checked before it is rolled. The check reads it and tells
the spread; the roll reads it too, but then goes through the dice and the
report, or through the refusal and its message. The two tell one story
(`Session.check_foretells_roll`). Of a valid notation the canonical form, the
modifier and the groups are found again in the report, and the total lies
within the spread; all that can go wrong is the source. An invalid notation
is refused for the fault that the check found, with the hints that it gave,
before anything is asked of the source.

That the total lies within the spread is no part of the check: it holds since
the totals of the spread are all that can be rolled.
-/

namespace Tabletop

open Rolling

/-- **What a check of a notation foretells** of the report of a plain roll. -/
structure Summary.Foretells (summary : Summary) (report : Report) : Prop where
  /-- The canonical form is the one that was told. -/
  canonical : report.canonical = summary.canonical
  /-- So is the modifier. -/
  modifier : report.modifier = summary.modifier
  /-- There is an entry for every group, in order, with its count and its sides. -/
  groups : report.entries.map Entry.group = summary.groups.map some
  /-- The total is no less than the lowest one. -/
  lowest_le : summary.lowest ≤ report.total
  /-- The total is no more than the highest one. -/
  le_highest : report.total ≤ summary.highest

theorem map_group?_of_isPlain {gs : List Group} {parts : List Part}
    (h : List.Forall₂ Part.IsPlain gs parts) : parts.map Part.group? = gs.map some := by
  induction h with
  | nil => rfl
  | cons hp _ ih =>
    obtain ⟨ds, rfl, -⟩ := hp
    rw [List.map_cons, List.map_cons, ih]
    rfl

variable {σ : Type} [Source σ]

/-- **A plain roll has the report that is foretold of its expression.** -/
theorem Expression.foretells_of_gives {e : Expression} {policy : CriticalPolicy} {r : Roll}
    {t t' : Tape σ} (hcount : ∀ g ∈ e.groups, 0 ≤ g.count) (hsides : ∀ g ∈ e.groups, 1 ≤ g.sides)
    (h : Gives (e.rollAs Mode.normal.value policy) t r t') : e.summary.Foretells r.report := by
  have htotal : e.Reaches .normal policy r.total := ⟨σ, inferInstance, t, t', r, h, rfl⟩
  obtain ⟨hlow, hhigh⟩ := (reaches_iff_of_ne hcount hsides (by decide) policy).1 htotal
  rw [show Mode.normal.leastBonus = 0 from rfl, Int.add_zero] at hlow
  rw [show Mode.normal.greatestBonus = 0 from rfl, Int.add_zero] at hhigh
  obtain ⟨rfl, hmode, hmade⟩ := Roll.madeUnder_of_gives_rollAs hcount h
  rw [Mode.ofValue?_value, Option.some.injEq] at hmode
  have hshape := hmade.shape
  rw [← hmode] at hshape
  refine ⟨rfl, rfl, ?_, hlow, hhigh⟩
  show (r.parts.map Entry.ofPart).map Entry.group = _
  rw [List.map_map]
  exact map_group?_of_isPlain hshape

theorem Fault.exists_message (fault : Fault) :
    ∃ rest, fault.message = "[" ++ fault.code ++ "]" ++ rest := by
  refine ⟨" " ++ fault.explanation, ?_⟩
  show "[" ++ fault.code ++ ("]" ++ " ") ++ fault.explanation = _
  simp only [String.append_assoc]

namespace Session

variable {rules : HouseRules} {s : Session σ} {text : String}

/-- A notation is found valid exactly if it is read as an expression, of which the summary
tells. -/
theorem valid_iff {summary : Summary} :
    (s.call rules (.check text)).1 = .ok (.valid summary) ↔
      ∃ e, Expression.parse rules.limits text = .ok e ∧ summary = e.summary := by
  constructor
  · intro h
    have hcourse := course_of_outcome h
    generalize (s.call rules (.check text)).2 = s' at hcourse
    cases hcourse with
    | valid hparse => exact ⟨_, hparse, rfl⟩
  · rintro ⟨e, hparse, rfl⟩
    rw [(Course.valid hparse).call_eq]

/-- A notation is found at fault exactly if it is read with a fault, of which the diagnosis
tells. -/
theorem invalid_iff {diagnosis : Diagnosis} :
    (s.call rules (.check text)).1 = .ok (.invalid diagnosis) ↔
      ∃ fault, Expression.parse rules.limits text = .error fault ∧
        diagnosis = fault.diagnosis text := by
  constructor
  · intro h
    have hcourse := course_of_outcome h
    generalize (s.call rules (.check text)).2 = s' at hcourse
    cases hcourse with
    | invalid hparse => exact ⟨_, hparse, rfl⟩
  · rintro ⟨fault, hparse, rfl⟩
    rw [(Course.invalid hparse).call_eq]

omit [Source σ] in
theorem forbids_normal (rules : HouseRules) (e : Expression) :
    forbids rules e Mode.normal.value = false := by
  unfold forbids
  rw [Mode.ofValue?_value, show e.allows (some .normal) = true from rfl, Bool.not_true,
    Bool.and_false]

/-- **A plain roll of a valid notation** is answered with what was foretold, if all the
replies to its plan tell faces, and otherwise refused for a reply that tells none. -/
theorem call_roll_normal {e : Expression} (hparse : Expression.parse rules.limits text = .ok e)
    (context : Value) :
    (Source.AllFaces (e.plan .normal rules.criticalPolicy) s.tape.source →
      ∃ roll tape, s.call rules (.roll text Mode.normal.value context) =
          (.ok (.rolled (s.ids (s.entered + 1)) roll.report), s.recorded roll context tape) ∧
        e.summary.Foretells roll.report) ∧
    (¬Source.AllFaces (e.plan .normal rules.criticalPolicy) s.tape.source →
      ∃ (sides : Int) (reply : Reply) (tape : Tape σ), ¬reply.IsFace sides ∧
        s.call rules (.roll text Mode.normal.value context) =
          (.error (.roll (reply.error sides)), s.rolledOn tape)) := by
  obtain ⟨hgroups, -⟩ := Expression.within_of_parse hparse
  have hforbids := forbids_normal rules e
  have hfollows := e.follows_rollAs (σ := σ) .normal rules.criticalPolicy
  constructor
  · intro hfaces
    obtain ⟨roll, tape, hroll⟩ := hfollows.exists_gives_iff.2 hfaces
    exact ⟨roll, tape, (Course.rolled hparse hforbids hroll).call_eq, Expression.foretells_of_gives
      (fun g hg => Int.le_trans (by decide) (hgroups g hg).1.1)
      (fun g hg => Int.le_trans (by decide) (hgroups g hg).2.1) hroll⟩
  · intro hfaces
    obtain ⟨before, sides, -, -, -, hreply, hfails⟩ := hfollows.exists_fails hfaces
    exact ⟨sides, _, _, hreply, (Course.rollFailed hparse hforbids hfails).call_eq⟩

/-- **A check foretells a roll.** A plain roll of a notation that is found valid is refused
neither for the notation nor for the mode: it is answered if all the replies that it needs
tell faces, and then the report has the canonical form, the modifier and the groups that
the check told, and a total within the spread; otherwise it is refused for a reply that
tells no face. A roll of a notation that is found at fault is refused in every mode, for
that fault and with the hints of the check, and leaves the session as it was. The message
is that of the fault, which opens with the code, and the hints. -/
theorem check_foretells_roll (rules : HouseRules) (s : Session σ) (text : String)
    (context : Value) :
    (∀ summary, (s.call rules (.check text)).1 = .ok (.valid summary) →
      ∃ e, Expression.parse rules.limits text = .ok e ∧ summary = e.summary ∧
        let outcome := s.call rules (.roll text Mode.normal.value context)
        let faces := Source.AllFaces (e.plan .normal rules.criticalPolicy) s.tape.source
        (faces → ∃ roll tape, outcome =
            (.ok (.rolled (s.ids (s.entered + 1)) roll.report), s.recorded roll context tape) ∧
          summary.Foretells roll.report) ∧
        (¬faces → ∃ (sides : Int) (reply : Reply) (tape : Tape σ), ¬reply.IsFace sides ∧
          outcome = (.error (.roll (reply.error sides)), s.rolledOn tape))) ∧
    (∀ diagnosis, (s.call rules (.check text)).1 = .ok (.invalid diagnosis) →
      ∃ fault, Expression.parse rules.limits text = .error fault ∧
        diagnosis = fault.diagnosis text ∧
        (∃ rest, fault.message = "[" ++ diagnosis.code ++ "]" ++ rest) ∧
        ∀ mode, s.call rules (.roll text mode context) =
            (.error (.fault fault diagnosis.hints), s) ∧
          (Refusal.fault fault diagnosis.hints).message =
            fault.message ++ " " ++ " ".intercalate diagnosis.hints) := by
  constructor
  · intro summary hsummary
    obtain ⟨e, hparse, rfl⟩ := valid_iff.1 hsummary
    exact ⟨e, hparse, rfl, call_roll_normal hparse context⟩
  · intro diagnosis hdiagnosis
    obtain ⟨fault, hparse, rfl⟩ := invalid_iff.1 hdiagnosis
    exact ⟨fault, hparse, rfl, fault.exists_message,
      fun mode => ⟨(Course.malformed hparse).call_eq, rfl⟩⟩

/-- Two dice are checked and then rolled, where the source has two faces for them; and a
sign that waits for a term is found and refused alike. -/
theorem check_foretells_roll_of_two_dice :
    let rules : HouseRules := {}
    let e : Expression := ⟨[⟨2, 6⟩], by decide, 1, "2d6+1"⟩
    let fault : Fault := .malformed "+"
    let s := start rules idOf (Script.replies [.value (.whole 2), .value (.whole 5)])
    ((s.call rules (.check "2d6+1")).1 = .ok (.valid e.summary) ∧
      Source.AllFaces (e.plan .normal rules.criticalPolicy) s.tape.source ∧
      ∃ roll tape, s.call rules (.roll "2d6+1" Mode.normal.value .nothing) =
          (.ok (.rolled (idOf 1) roll.report), s.recorded roll .nothing tape) ∧
        e.summary.Foretells roll.report) ∧
    (s.call rules (.check "2d6+")).1 = .ok (.invalid (fault.diagnosis "2d6+")) ∧
      s.call rules (.roll "2d6+" Mode.critical.value .nothing) =
        (.error (.fault fault (fault.diagnosis "2d6+").hints), s) := by
  intro rules e fault s
  have hparse : Expression.parse rules.limits "2d6+1" = .ok e := by decide +kernel
  have hfault : Expression.parse rules.limits "2d6+" = .error fault := by decide +kernel
  have hvalid : (s.call rules (.check "2d6+1")).1 = .ok (.valid e.summary) :=
    valid_iff.2 ⟨e, hparse, rfl⟩
  have hinvalid : (s.call rules (.check "2d6+")).1 = .ok (.invalid (fault.diagnosis "2d6+")) :=
    invalid_iff.2 ⟨fault, hfault, rfl⟩
  have hfaces : Source.AllFaces (e.plan .normal rules.criticalPolicy) s.tape.source :=
    .cons ⟨.number 2, rfl, by decide, by decide⟩
      (.cons ⟨.number 5, rfl, by decide, by decide⟩ .nil)
  obtain ⟨e', he', -, hrolled, -⟩ :=
    (check_foretells_roll rules s "2d6+1" .nothing).1 e.summary hvalid
  cases hparse.symm.trans he'
  obtain ⟨fault', hfault', -, -, hrefused⟩ :=
    (check_foretells_roll rules s "2d6+" .nothing).2 _ hinvalid
  cases hfault.symm.trans hfault'
  exact ⟨⟨hvalid, hfaces, hrolled hfaces⟩, hinvalid, (hrefused Mode.critical.value).1⟩

end Session

end Tabletop
