import Tabletop.Proofs.Notation.Acceptance

/-!
# What a reading stops at

A reading that fails has stopped at a token, or has used up all tokens and
cannot conclude. Both kinds of failure are told here in full: a token is at
fault in one of six ways (`Reading.Blames`), a run fails where a first token
is at fault after a run that did not fail (`Reading.run_eq_error_iff`), and a
conclusion fails for a sign that waits, the lack of dice, or the modifier, in
this order (`Reading.conclude_eq_error_iff`).
-/

namespace Tabletop

open Text

variable {numeral : List Char → Nat} {limits : Limits} {text : List Char} {fault : Fault}

/-- What fails in two stages fails in the first one or in the second. -/
theorem bind_eq_error_iff {ε α β : Type} {x : Except ε α} {f : α → Except ε β} {fault : ε} :
    (x >>= f) = .error fault ↔ x = .error fault ∨ ∃ a, x = .ok a ∧ f a = .error fault := by
  cases x with
  | error fault' =>
    constructor
    · intro h
      cases h
      exact .inl rfl
    · rintro (h | ⟨a, ha, -⟩)
      · cases h
        rfl
      · cases ha
  | ok a =>
    constructor
    · intro h
      exact .inr ⟨a, rfl, h⟩
    · rintro (h | ⟨a', ha, h⟩)
      · cases h
      · cases ha
        exact h

/-- **The faults of a die**: its count, or its number of sides if the count is within the
limits. -/
theorem DieText.group_eq_error_iff {d : DieText} :
    d.group numeral limits = .error fault ↔
      (¬(1 ≤ (d.said numeral).count ∧ (d.said numeral).count ≤ limits.maxCount) ∧
        fault = .countOutOfRange (String.ofList d.chars) (d.said numeral).count limits.maxCount) ∨
      ((1 ≤ (d.said numeral).count ∧ (d.said numeral).count ≤ limits.maxCount) ∧
        ¬(2 ≤ (d.said numeral).sides ∧ (d.said numeral).sides ≤ limits.maxSides) ∧
        fault = .sidesOutOfRange (String.ofList d.chars) (d.said numeral).sides
          limits.maxSides) := by
  unfold DieText.group DieText.said
  dsimp only
  split
  · next h =>
    rw [Except.error.injEq, eq_comm (a := fault)]
    exact ⟨fun hf => .inl ⟨by omega, hf⟩, fun hf => hf.elim (·.2) fun hc => by omega⟩
  · next h =>
    split
    · next hs =>
      rw [Except.error.injEq, eq_comm (a := fault), eq_comm (a := fault)]
      exact ⟨fun hf => .inr ⟨by omega, by omega, hf⟩,
        fun hf => hf.elim (fun hc => by omega) (·.2.2)⟩
    · next hs => exact iff_of_false (fun hf => by cases hf) (by omega)

namespace Reading

/-! ## Single tokens -/

/-- **What a token can be at fault for**, after what stands before it. -/
inductive Blames (numeral : List Char → Nat) (limits : Limits) (text : List Char) :
    Preceding → Token → Fault → Prop
  /-- The token means nothing. -/
  | stray {before : Preceding} {t : Token} {word : List Char} (h : t.lexeme = .stray word) :
    Blames numeral limits text before t (.malformed (String.ofList t.chars))
  /-- A sign follows a sign. -/
  | sign {position : Nat} {first s : Sign} {t : Token} (h : t.lexeme = .sign s) :
    Blames numeral limits text (.sign position first) t
      (.malformed (String.ofList (slice text position t.stop)))
  /-- A number follows a term. -/
  | number {t : Token} {digits : List Char} (h : t.lexeme = .number digits) :
    Blames numeral limits text .term t (.malformed (String.ofList t.chars))
  /-- A die follows a term. -/
  | die {t : Token} {d : DieText} (h : t.lexeme = .die d) :
    Blames numeral limits text .term t (.malformed (String.ofList t.chars))
  /-- A die follows a minus. -/
  | subtracted {position : Nat} {t : Token} {d : DieText} (h : t.lexeme = .die d) :
    Blames numeral limits text (.sign position .minus) t
      (.malformed (String.ofList (slice text position t.stop)))
  /-- A die that may stand here is out of the limits. -/
  | range {before : Preceding} {t : Token} {d : DieText} {fault : Fault} (h : t.lexeme = .die d)
    (hfollows : before ≠ .term) (hsign : before.signOf = .plus)
    (hgroup : d.group numeral limits = .error fault) : Blames numeral limits text before t fault

/-- A die that may stand here fails as its group does. -/
theorem step_die {before : Preceding} {t : Token} {d : DieText} (h : t.lexeme = .die d)
    (hfollows : before ≠ .term) (hsign : before.signOf = .plus) :
    step numeral limits text before t = .error fault ↔ d.group numeral limits = .error fault := by
  have hstep : step numeral limits text before t =
      (d.group numeral limits).map fun g => (some (.dice g), .term) := by
    obtain ⟨start, lexeme⟩ := t
    obtain rfl : lexeme = .die d := h
    cases before with
    | nothing => rfl
    | term => exact absurd rfl hfollows
    | sign position s =>
      obtain rfl : s = .plus := hsign
      rfl
  rw [hstep]
  cases d.group numeral limits with
  | error fault' => rw [Except.map, Except.error.injEq, Except.error.injEq]
  | ok g => exact iff_of_false (fun h => by cases h) (fun h => by cases h)

/-- **A step fails** exactly for what its token is at fault for. -/
theorem step_eq_error_iff {before : Preceding} {t : Token} :
    step numeral limits text before t = .error fault ↔
      Blames numeral limits text before t fault := by
  constructor
  · intro h
    obtain ⟨start, lexeme⟩ := t
    cases lexeme with
    | stray word => cases h; exact .stray rfl
    | sign s =>
      cases before with
      | sign position first => cases h; exact .sign rfl
      | nothing => cases h
      | term => cases h
    | number digits =>
      cases before with
      | term => cases h; exact .number rfl
      | nothing => cases h
      | sign position s => cases h
    | die d =>
      cases before with
      | term => cases h; exact .die rfl
      | nothing => exact .range rfl (by simp) rfl ((step_die rfl (by simp) rfl).1 h)
      | sign position s =>
        cases s with
        | plus => exact .range rfl (by simp) rfl ((step_die rfl (by simp) rfl).1 h)
        | minus => cases h; exact .subtracted rfl
  · intro h
    obtain ⟨start, lexeme⟩ := t
    cases h with
    | stray h => cases h; rfl
    | sign h => cases h; rfl
    | number h => cases h; rfl
    | die h => cases h; rfl
    | subtracted h => cases h; rfl
    | range h hfollows hsign hgroup => exact (step_die h hfollows hsign).2 hgroup

/-! ## Runs -/

/-- **A run fails** at its first token, or after it. -/
theorem run_cons_eq_error_iff {before : Preceding} {t : Token} {ts : List Token} :
    run numeral limits text before (t :: ts) = .error fault ↔
      Blames numeral limits text before t fault ∨
        ∃ term next, step numeral limits text before t = .ok (term, next) ∧
          run numeral limits text next ts = .error fault := by
  rw [← step_eq_error_iff, run, bind_eq_error_iff]
  constructor
  · rintro (hstep | ⟨⟨term, next⟩, hstep, hrest⟩)
    · exact .inl hstep
    · rcases bind_eq_error_iff.1 hrest with hrun | ⟨more, -, hpure⟩
      · exact .inr ⟨term, next, hstep, hrun⟩
      · cases hpure
  · rintro (hstep | ⟨term, next, hstep, hrun⟩)
    · exact .inl hstep
    · exact .inr ⟨(term, next), hstep, bind_eq_error_iff.2 (.inl hrun)⟩

/-- **What a run that fails has come to**: a token that is at fault, after a run that did
not fail. -/
theorem run_eq_error_iff {before : Preceding} {ts : List Token} :
    run numeral limits text before ts = .error fault ↔
      ∃ front t back terms next, ts = front ++ t :: back ∧
        run numeral limits text before front = .ok (terms, next) ∧
        Blames numeral limits text next t fault := by
  constructor
  · intro h
    induction ts generalizing before with
    | nil => cases h
    | cons t ts ih =>
      rcases run_cons_eq_error_iff.1 h with hblames | ⟨term, next, hstep, hrun⟩
      · exact ⟨[], t, ts, [], before, rfl, rfl, hblames⟩
      · obtain ⟨front, t', back, terms, last, rfl, hfront, hblames⟩ := ih hrun
        exact ⟨t :: front, t', back, term.toList ++ terms, last, rfl,
          run_cons_eq_ok_iff.2 ⟨term, next, terms, hstep, hfront, rfl⟩, hblames⟩
  · rintro ⟨front, t, back, terms, next, rfl, hfront, hblames⟩
    rw [run_append, hfront, Except.bind, run_cons_eq_error_iff.2 (.inl hblames)]
    rfl

/-! ## The conclusion -/

/-- **A conclusion fails** for a sign that waits, else for the lack of dice, else for the
modifier. -/
theorem conclude_eq_error_iff {terms : List Term} {last : Preceding} :
    conclude limits text terms last = .error fault ↔
      (∃ position s, last = .sign position s ∧ fault = .malformed (String.ofList [s.char])) ∨
      (last.waits = false ∧ terms.filterMap Term.group? = [] ∧ fault = .noDice) ∨
      (last.waits = false ∧ terms.filterMap Term.group? ≠ [] ∧
        limits.maxModifier < (sumOf (terms.map Term.amount)).natAbs ∧
        fault = .modifierOutOfRange (sumOf (terms.map Term.amount)) limits.maxModifier) := by
  have hsettled (hlast : last.waits = false) (hconclude :
      conclude limits text terms last = conclude limits text terms .term) :
      conclude limits text terms last = .error fault ↔
        (terms.filterMap Term.group? = [] ∧ fault = .noDice) ∨
        (terms.filterMap Term.group? ≠ [] ∧
          limits.maxModifier < (sumOf (terms.map Term.amount)).natAbs ∧
          fault = .modifierOutOfRange (sumOf (terms.map Term.amount)) limits.maxModifier) := by
    rw [hconclude]
    unfold conclude
    dsimp only
    split
    · next hgroups =>
      rw [Except.error.injEq]
      exact ⟨fun h => .inl ⟨hgroups, h.symm⟩,
        fun h => (h.resolve_right fun hsome => hsome.1 hgroups).2.symm⟩
    · next hgroups =>
      split
      · next hmax =>
        rw [Except.error.injEq]
        exact ⟨fun h => .inr ⟨hgroups, hmax, h.symm⟩,
          fun h => (h.resolve_left fun hnone => hgroups hnone.1).2.2.symm⟩
      · next hmax =>
        refine iff_of_false (fun h => by cases h) ?_
        rintro (⟨hnone, -⟩ | ⟨-, hout, -⟩)
        · exact hgroups hnone
        · exact hmax hout
  cases last with
  | sign position s =>
    constructor
    · intro h
      cases h
      exact .inl ⟨position, s, rfl, rfl⟩
    · rintro (⟨_, _, hlast, rfl⟩ | ⟨⟨⟩, -⟩ | ⟨⟨⟩, -⟩)
      cases hlast
      rfl
  | nothing =>
    rw [hsettled rfl rfl]
    simp only [Preceding.waits, true_and, reduceCtorEq, false_and, exists_false, false_or]
  | term =>
    rw [hsettled rfl rfl]
    simp only [Preceding.waits, true_and, reduceCtorEq, false_and, exists_false, false_or]

end Reading

namespace Expression

/-- **Reading fails** for an empty text, for a token at fault, or for want of a
conclusion. -/
theorem read_eq_error_iff {text : String} :
    read numeral limits text = .error fault ↔
      let trimmed := strip isBlank text.toList
      (trimmed = [] ∧ fault = .emptyInput) ∨
      (trimmed ≠ [] ∧
        Reading.run numeral limits trimmed .nothing (Token.scan 0 trimmed) = .error fault) ∨
      ∃ terms last, trimmed ≠ [] ∧
        Reading.run numeral limits trimmed .nothing (Token.scan 0 trimmed) = .ok (terms, last) ∧
        Reading.conclude limits trimmed terms last = .error fault := by
  unfold read
  dsimp only
  split
  · next hempty =>
    rw [List.isEmpty_iff] at hempty
    rw [Except.error.injEq]
    constructor
    · intro h
      exact .inl ⟨hempty, h.symm⟩
    · rintro (⟨-, h⟩ | ⟨hne, -⟩ | ⟨_, _, hne, -⟩)
      · exact h.symm
      · exact absurd hempty hne
      · exact absurd hempty hne
  · next hempty =>
    rw [List.isEmpty_iff] at hempty
    rw [bind_eq_error_iff]
    constructor
    · rintro (hrun | ⟨⟨terms, last⟩, hrun, hconclude⟩)
      · exact .inr (.inl ⟨hempty, hrun⟩)
      · exact .inr (.inr ⟨terms, last, hempty, hrun, hconclude⟩)
    · rintro (⟨hnil, -⟩ | ⟨-, hrun⟩ | ⟨terms, last, -, hrun, hconclude⟩)
      · exact absurd hnil hempty
      · exact .inl hrun
      · exact .inr ⟨(terms, last), hrun, hconclude⟩

end Expression

end Tabletop
