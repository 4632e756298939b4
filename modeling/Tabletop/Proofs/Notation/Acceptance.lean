import Tabletop.Proofs.Notation.Scanning

/-!
# Reading accepts the sentences

Reading goes token by token and knows of the tokens before only what stands
directly before; the grammar of sentences goes over the whole text. The
two agree: a text is read as an expression exactly if it is spelled by an
accepted sentence, and the expression then holds the sentence's groups, its
modifier and the text without the blanks at its ends
(`Expression.read_eq_ok_iff`).

One direction runs the reader over a sentence, operand by operand
(`Reading.run_sentence`). The other rebuilds a sentence from a run that
succeeded (`Reading.exists_sentence_of_run`): what is left of the text
after a term is further terms and a gap, and after a sign an operand and
then the same.
-/

namespace Tabletop

open Text

variable {numeral : List Char → Nat} {limits : Limits} {text cs rest : List Char} {start : Nat}

/-- What succeeds in two stages succeeds in each. -/
theorem bind_eq_ok_iff {ε α β : Type} {x : Except ε α} {f : α → Except ε β} {b : β} :
    (x >>= f) = .ok b ↔ ∃ a, x = .ok a ∧ f a = .ok b := by
  cases x with
  | error fault =>
    constructor
    · intro h
      cases h
    · rintro ⟨a, ha, -⟩
      cases ha
  | ok a =>
    constructor
    · intro h
      exact ⟨a, rfl, h⟩
    · rintro ⟨a', ha, h⟩
      cases ha
      exact h

/-- A die stands for the group that it says, if that is within the limits. -/
theorem DieText.group_eq_ok_iff {d : DieText} {g : Group} :
    d.group numeral limits = .ok g ↔ (d.said numeral).Within limits ∧ g = d.said numeral := by
  unfold DieText.group Group.Within DieText.said
  dsimp only
  split
  · next h => simp only [reduceCtorEq, false_iff]; omega
  · split
    · next h => simp only [reduceCtorEq, false_iff]; omega
    · simp only [Except.ok.injEq]
      constructor
      · intro h
        exact ⟨by omega, h.symm⟩
      · intro h
        exact h.2.symm

/-- Whether a sign waits for its term. -/
def Preceding.waits : Preceding → Bool
  | .sign _ _ => true
  | _ => false

namespace Reading

/-! ## Single tokens -/

theorem step_sign {before : Preceding} (h : before.waits = false) (s : Sign) :
    step numeral limits text before ⟨start, .sign s⟩ = .ok (none, .sign start s) := by
  cases before with
  | sign n s' => cases h
  | nothing => rfl
  | term => rfl

/-- **An operand that follows no term** completes one, if it may stand under
the sign before it. -/
theorem step_operand {before : Preceding} (h : before ≠ .term) (o : Operand)
    {t : Option Term} {next : Preceding} :
    step numeral limits text before ⟨start, o.lexeme⟩ = .ok (t, next) ↔
      o.Allowed numeral limits before.signOf ∧ t = some (o.term numeral before.signOf) ∧
        next = .term := by
  cases o with
  | number digits hd =>
    have hstep : step numeral limits text before ⟨start, (Operand.number digits hd).lexeme⟩ =
        .ok (some ((Operand.number digits hd).term numeral before.signOf), .term) := by
      cases before with
      | term => exact absurd rfl h
      | nothing => rfl
      | sign n s => rfl
    rw [hstep]
    simp only [Except.ok.injEq, Prod.mk.injEq, Operand.Allowed, true_and, eq_comm]
  | die d hd =>
    have hgroup : before.signOf = .plus →
        step numeral limits text before ⟨start, (Operand.die d hd).lexeme⟩ =
          (d.group numeral limits).map fun g => (some (.dice g), .term) := by
      intro hs
      cases before with
      | term => exact absurd rfl h
      | nothing => rfl
      | sign n s => cases hs; rfl
    by_cases hs : before.signOf = .plus
    · rw [hgroup hs]
      simp only [Operand.Allowed, hs, true_and, Operand.term]
      constructor
      · intro hok
        cases hg : d.group numeral limits with
        | error fault => rw [hg] at hok; cases hok
        | ok g =>
          rw [hg] at hok
          cases hok
          obtain ⟨hwithin, rfl⟩ := DieText.group_eq_ok_iff.1 hg
          exact ⟨hwithin, rfl, rfl⟩
      · rintro ⟨hwithin, rfl, rfl⟩
        rw [DieText.group_eq_ok_iff.2 ⟨hwithin, rfl⟩]
        rfl
    · constructor
      · intro hok
        cases before with
        | sign n s =>
          cases s with
          | plus => exact absurd rfl hs
          | minus => cases hok
        | nothing => exact absurd rfl hs
        | term => exact absurd rfl h
      · intro hok
        exact absurd hok.1.1 hs

/-- **What a token can do**: it is a sign and waits, or it is an operand and
completes a term; either needs what stands before it to be of the other
kind. -/
theorem step_cases {before next : Preceding} {t : Token} {term : Option Term}
    (h : step numeral limits text before t = .ok (term, next)) (hwf : t.lexeme.WellFormed) :
    (∃ s, t.lexeme = .sign s ∧ before.waits = false ∧ next = .sign t.start s) ∨
      ∃ o : Operand, t.lexeme = o.lexeme ∧ before ≠ .term ∧ next = .term := by
  obtain ⟨n, lexeme⟩ := t
  cases lexeme with
  | stray word => cases h
  | sign s =>
    refine .inl ⟨s, rfl, ?_⟩
    cases before with
    | sign _ _ => cases h
    | nothing => cases h; exact ⟨rfl, rfl⟩
    | term => cases h; exact ⟨rfl, rfl⟩
  | number digits =>
    have hb : before ≠ .term := by
      rintro rfl
      cases h
    exact .inr ⟨.number digits hwf, rfl, hb, ((step_operand hb (.number digits hwf)).1 h).2.2⟩
  | die d =>
    have hb : before ≠ .term := by
      rintro rfl
      cases h
    exact .inr ⟨.die d hwf, rfl, hb, ((step_operand hb (.die d hwf)).1 h).2.2⟩

/-- **A run that succeeds** is a step that does and then a run. -/
theorem run_cons_eq_ok_iff {before last : Preceding} {t : Token} {ts : List Token}
    {terms : List Term} :
    run numeral limits text before (t :: ts) = .ok (terms, last) ↔
      ∃ term next more, step numeral limits text before t = .ok (term, next) ∧
        run numeral limits text next ts = .ok (more, last) ∧ terms = term.toList ++ more := by
  rw [run, bind_eq_ok_iff]
  constructor
  · rintro ⟨⟨term, next⟩, hstep, hrun⟩
    obtain ⟨⟨more, last'⟩, hmore, hpure⟩ := bind_eq_ok_iff.1 hrun
    simp only [pure, Except.pure, Except.ok.injEq, Prod.mk.injEq] at hpure
    obtain ⟨rfl, rfl⟩ := hpure
    exact ⟨term, next, more, hstep, hmore, rfl⟩
  · rintro ⟨term, next, more, hstep, hmore, rfl⟩
    exact ⟨(term, next), hstep, bind_eq_ok_iff.2 ⟨(more, last), hmore, rfl⟩⟩

/-! ## A run over a sentence -/

/-- **A run over an operand** that follows no term, and over a detached text
after it. -/
theorem run_operand {before last : Preceding} (h : before ≠ .term) (o : Operand)
    (hrest : Detached rest) {terms : List Term} :
    run numeral limits text before (Token.scan start (o.chars ++ rest)) = .ok (terms, last) ↔
      o.Allowed numeral limits before.signOf ∧ ∃ more,
        run numeral limits text .term (Token.scan (start + o.chars.length) rest) =
          .ok (more, last) ∧ terms = o.term numeral before.signOf :: more := by
  rw [Token.scan_operand o hrest, run_cons_eq_ok_iff]
  constructor
  · rintro ⟨term, next, more, hstep, hmore, rfl⟩
    obtain ⟨hallowed, rfl, rfl⟩ := (step_operand h o.bare).1 hstep
    rw [Operand.allowed_bare] at hallowed
    exact ⟨hallowed, more, hmore, by rw [Operand.term_bare]; rfl⟩
  · rintro ⟨hallowed, more, hmore, rfl⟩
    refine ⟨some (o.term numeral before.signOf), .term, more, ?_, hmore, rfl⟩
    rw [step_operand h, Operand.allowed_bare, Operand.term_bare]
    exact ⟨hallowed, rfl, rfl⟩

/-- A run over a sign that follows none, and a gap after it, goes on with what
waits. -/
theorem run_sign_gap {before last : Preceding} (h : before.waits = false) (s : Sign) (g : Gap)
    {terms : List Term} :
    run numeral limits text before (Token.scan start (s.char :: (g.chars ++ rest))) =
        .ok (terms, last) ↔
      run numeral limits text (.sign start s)
        (Token.scan (start + 1 + g.chars.length) rest) = .ok (terms, last) := by
  rw [Token.scan_sign, Token.scan_gap, run_cons_eq_ok_iff]
  constructor
  · rintro ⟨term, next, more, hstep, hmore, rfl⟩
    rw [step_sign h] at hstep
    cases hstep
    exact hmore
  · intro hrun
    exact ⟨none, .sign start s, terms, step_sign h s, hrun, rfl⟩

/-- What follows an operand in a sentence is detached. -/
theorem detached_summands (more : List Summand) (trail : Gap) :
    Detached (more.flatMap Summand.chars ++ trail.chars) := by
  cases more with
  | nil =>
    show Detached trail.chars
    rw [← List.append_nil trail.chars]
    exact detached_of_gap rfl
  | cons x more =>
    rw [List.flatMap_cons, Summand.chars, List.append_assoc, List.append_assoc]
    refine detached_of_gap ?_
    rw [List.cons_append, beginsWith_cons, isSign_char]
    rfl

/-- **A run over further terms** succeeds exactly if all of them are allowed,
and then completes them. -/
theorem run_summands (more : List Summand) (trail : Gap) {terms : List Term} {last : Preceding} :
    run numeral limits text .term
        (Token.scan start (more.flatMap Summand.chars ++ trail.chars)) = .ok (terms, last) ↔
      (∀ x ∈ more, x.operand.Allowed numeral limits x.sign) ∧
        terms = more.map (fun x => x.operand.term numeral x.sign) ∧ last = .term := by
  induction more generalizing start terms with
  | nil =>
    have hscan :
        Token.scan start (([] : List Summand).flatMap Summand.chars ++ trail.chars) = [] := by
      rw [List.flatMap_nil, List.nil_append, ← List.append_nil trail.chars, Token.scan_gap,
        Token.scan_nil]
    rw [hscan, run_nil, Except.ok.injEq, Prod.mk.injEq]
    simp only [List.not_mem_nil, false_implies, implies_true, true_and, List.map_nil, eq_comm]
  | cons x more ih =>
    have hchars : (x :: more).flatMap Summand.chars ++ trail.chars =
        x.before.chars ++ (x.sign.char :: (x.after.chars ++ (x.operand.chars ++
          (more.flatMap Summand.chars ++ trail.chars)))) := by
      simp only [List.flatMap_cons, Summand.chars, List.append_assoc, List.cons_append]
    rw [hchars, Token.scan_gap, run_sign_gap rfl, run_operand (by simp)
      x.operand (detached_summands more trail), List.forall_mem_cons, List.map_cons]
    constructor
    · rintro ⟨hx, terms', hrun, rfl⟩
      obtain ⟨hmore, rfl, rfl⟩ := ih.1 hrun
      exact ⟨⟨hx, hmore⟩, rfl, rfl⟩
    · rintro ⟨⟨hx, hmore⟩, rfl, rfl⟩
      exact ⟨hx, _, ih.2 ⟨hmore, rfl, rfl⟩, rfl⟩

/-- **A run over a sentence** succeeds exactly if all its operands are allowed
under their signs, and then completes its terms. -/
theorem run_sentence (s : Sentence) {terms : List Term} {last : Preceding} :
    run numeral limits text .nothing (Token.scan start s.chars) = .ok (terms, last) ↔
      (∀ x ∈ s.signed, x.2.Allowed numeral limits x.1) ∧ terms = s.terms numeral ∧
        last = .term := by
  obtain ⟨lead, opening, first, more, trail⟩ := s
  -- the first operand follows nothing or the opening sign, and the rest is further terms
  have key (before : Preceding) (hb : before ≠ .term) (n : Nat) :
      run numeral limits text before (Token.scan n
          (first.chars ++ (more.flatMap Summand.chars ++ trail.chars))) = .ok (terms, last) ↔
        (first.Allowed numeral limits before.signOf ∧
            ∀ x ∈ more, x.operand.Allowed numeral limits x.sign) ∧
          terms = first.term numeral before.signOf ::
            more.map (fun x => x.operand.term numeral x.sign) ∧ last = .term := by
    rw [run_operand hb first (detached_summands more trail)]
    constructor
    · rintro ⟨hfirst, terms', hrun, rfl⟩
      obtain ⟨hmore, rfl, rfl⟩ := (run_summands more trail).1 hrun
      exact ⟨⟨hfirst, hmore⟩, rfl, rfl⟩
    · rintro ⟨⟨hfirst, hmore⟩, rfl, rfl⟩
      exact ⟨hfirst, _, (run_summands more trail).2 ⟨hmore, rfl, rfl⟩, rfl⟩
  unfold Sentence.chars Sentence.terms Sentence.signed Sentence.openingChars Sentence.openingSign
  rw [Token.scan_gap, List.forall_mem_cons, List.forall_mem_map, List.map_cons, List.map_map]
  cases opening with
  | none => exact key .nothing (by simp) _
  | some op =>
    obtain ⟨sign, gap⟩ := op
    dsimp only
    rw [List.cons_append, run_sign_gap rfl]
    exact key (.sign _ sign) (by simp) _

/-! ## A sentence from a run -/

/-- Whether a text goes on a sentence after a term of it. -/
def FollowsTerm (cs : List Char) : Prop :=
  ∃ (more : List Summand) (trail : Gap), cs = more.flatMap Summand.chars ++ trail.chars

/-- Whether a text goes on a sentence after a sign of it. -/
def FollowsSign (cs : List Char) : Prop :=
  ∃ (g : Gap) (o : Operand) (rest : List Char), cs = g.chars ++ (o.chars ++ rest) ∧
    FollowsTerm rest

/-- **What a run that succeeds has read**: further terms after a term, and an
operand and further terms after a sign. -/
theorem follows_of_run {before last : Preceding} {terms : List Term} {ts : List Token}
    (hscan : Token.scan start cs = ts)
    (hrun : run numeral limits text before ts = .ok (terms, last)) (hlast : last.waits = false) :
    (before = .term → FollowsTerm cs) ∧ (before.waits = true → FollowsSign cs) := by
  -- what is left of the text is told token by token, whatever the first of them follows
  induction ts generalizing start cs before terms with
  | nil =>
    rw [run_nil, Except.ok.injEq, Prod.mk.injEq] at hrun
    obtain ⟨-, rfl⟩ := hrun
    refine ⟨fun _ => ⟨[], ⟨cs, Token.all_blank_of_scan_eq_nil hscan⟩, rfl⟩, fun hwaits => ?_⟩
    rw [hlast] at hwaits
    cases hwaits
  | cons t ts ih =>
    obtain ⟨g, rest, rfl, hwf, hts⟩ := Token.exists_of_scan_eq_cons hscan
    obtain ⟨term, next, more, hstep, hmore, -⟩ := run_cons_eq_ok_iff.1 hrun
    obtain ⟨hterm, hsign⟩ := ih hts.symm hmore
    rcases step_cases hstep hwf with ⟨s, hs, hwaits, rfl⟩ | ⟨o, ho, hne, rfl⟩
    · obtain ⟨g', o, rest', rfl, summands, trail, rfl⟩ := hsign rfl
      have hchars : t.chars = [s.char] := by
        rw [Token.chars, hs]
        rfl
      refine ⟨fun _ => ⟨⟨g, s, g', o⟩ :: summands, trail, ?_⟩, fun h => ?_⟩
      · simp only [hchars, List.flatMap_cons, Summand.chars, List.append_assoc, List.cons_append,
          List.nil_append]
      · rw [hwaits] at h
        cases h
    · have hchars : t.chars = o.chars := by rw [Token.chars, ho, Operand.chars_lexeme]
      exact ⟨fun h => absurd h hne, fun _ => ⟨g, o, rest, by rw [hchars], hterm rfl⟩⟩

/-- **A text whose tokens complete a term** and leave no sign waiting is
spelled by a sentence. -/
theorem exists_sentence_of_run {last : Preceding} {terms : List Term}
    (hrun : run numeral limits text .nothing (Token.scan start cs) = .ok (terms, last))
    (hterms : terms ≠ []) (hlast : last.waits = false) : ∃ s : Sentence, s.chars = cs := by
  cases hscan : Token.scan start cs with
  | nil =>
    rw [hscan, run_nil, Except.ok.injEq, Prod.mk.injEq] at hrun
    exact absurd hrun.1.symm hterms
  | cons t ts =>
    rw [hscan] at hrun
    obtain ⟨g, rest, rfl, hwf, hts⟩ := Token.exists_of_scan_eq_cons hscan
    obtain ⟨term, next, more, hstep, hmore, -⟩ := run_cons_eq_ok_iff.1 hrun
    obtain ⟨hterm, hsign⟩ := follows_of_run hts.symm hmore hlast
    rcases step_cases hstep hwf with ⟨s, hs, -, rfl⟩ | ⟨o, ho, -, rfl⟩
    · obtain ⟨g', o, rest', rfl, summands, trail, rfl⟩ := hsign rfl
      refine ⟨⟨g, some (s, g'), o, summands, trail⟩, ?_⟩
      rw [Token.chars, hs]
      rfl
    · obtain ⟨summands, trail, rfl⟩ := hterm rfl
      refine ⟨⟨g, none, o, summands, trail⟩, ?_⟩
      rw [Token.chars, ho, Operand.chars_lexeme]
      rfl

/-- **Concluding succeeds** if no sign waits, there are dice and the modifier
is within the limits, and then holds what was read. -/
theorem conclude_eq_ok_iff {terms : List Term} {last : Preceding} {e : Expression} :
    conclude limits text terms last = .ok e ↔
      last.waits = false ∧ terms.filterMap Term.group? ≠ [] ∧
        (sumOf (terms.map Term.amount)).natAbs ≤ limits.maxModifier ∧
        e.groups = terms.filterMap Term.group? ∧ e.modifier = sumOf (terms.map Term.amount) ∧
        e.text = String.ofList text := by
  have hsettled : conclude limits text terms .term = .ok e ↔
      terms.filterMap Term.group? ≠ [] ∧
        (sumOf (terms.map Term.amount)).natAbs ≤ limits.maxModifier ∧
        e.groups = terms.filterMap Term.group? ∧ e.modifier = sumOf (terms.map Term.amount) ∧
        e.text = String.ofList text := by
    unfold conclude
    dsimp only
    split
    · next hgroups => simp [hgroups]
    · next hgroups =>
      split
      · next hmax => simp only [reduceCtorEq, false_iff]; omega
      · next hmax =>
        obtain ⟨groups, hne, modifier, original⟩ := e
        simp only [Except.ok.injEq, Expression.mk.injEq, ne_eq, hgroups, not_false_eq_true,
          true_and]
        constructor
        · rintro ⟨rfl, rfl, rfl⟩
          exact ⟨by omega, rfl, rfl, rfl⟩
        · rintro ⟨-, rfl, rfl, rfl⟩
          exact ⟨rfl, rfl, rfl⟩
  cases last with
  | sign n s =>
    constructor
    · intro h
      cases h
    · rintro ⟨h, -⟩
      cases h
  | nothing => exact hsettled.trans (and_iff_right rfl).symm
  | term => exact hsettled.trans (and_iff_right rfl).symm

end Reading

/-! ## The ends of a sentence -/

namespace Operand

/-- An operand ends in no blank, whatever stands before it. -/
theorem beginsWith_reverse (o : Operand) (front : List Char) :
    beginsWith isBlank (front ++ o.chars).reverse = false := by
  have hdigits {ds : List Char} (h : IsNumeral ds) (front : List Char) :
      beginsWith isBlank (front ++ ds).reverse = false := by
    have hne : ds.reverse ≠ [] := fun hnil => h.1 (List.reverse_eq_nil_iff.1 hnil)
    rw [List.reverse_append, beginsWith_append hne]
    exact beginsWith_of_all (fun c => isBlank_of_isDigit) (by rw [List.all_reverse, h.2])
  cases o with
  | number digits h => exact hdigits h front
  | die d h =>
    have hchars : front ++ d.chars =
        front ++ (d.count ++ d.before ++ d.letter :: d.after) ++ d.sides := by
      simp only [DieText.chars, List.append_assoc, List.cons_append]
    show beginsWith isBlank (front ++ d.chars).reverse = false
    rw [hchars]
    exact hdigits h.sides _

end Operand

theorem exists_append_operand (o : Operand) (more : List Summand) :
    ∃ (front : List Char) (last : Operand),
      o.chars ++ more.flatMap Summand.chars = front ++ last.chars := by
  induction more generalizing o with
  | nil => exact ⟨[], o, List.append_nil _⟩
  | cons x more ih =>
    obtain ⟨front, last, h⟩ := ih x.operand
    refine ⟨o.chars ++ (x.before.chars ++ x.sign.char :: x.after.chars) ++ front, last, ?_⟩
    simp only [List.flatMap_cons, Summand.chars, List.append_assoc, List.cons_append, ← h]

namespace Sentence

/-- **A sentence without the blanks at its two ends.** -/
def trim (s : Sentence) : Sentence where
  lead := .empty
  opening := s.opening
  first := if s.opening.isNone then s.first.bare else s.first
  more := s.more
  trail := .empty

@[simp] theorem terms_trim (numeral : List Char → Nat) (s : Sentence) :
    s.trim.terms numeral = s.terms numeral := by
  unfold terms signed openingSign trim
  dsimp only
  split
  · next h => simp [h]
  · next h => simp [h]

theorem allowed_trim (s : Sentence) :
    (∀ x ∈ s.trim.signed, x.2.Allowed numeral limits x.1) ↔
      ∀ x ∈ s.signed, x.2.Allowed numeral limits x.1 := by
  unfold signed openingSign trim
  dsimp only
  rw [List.forall_mem_cons, List.forall_mem_cons]
  split
  · next h => simp [h]
  · next h => simp [h]

/-- **Stripping what a sentence spells** leaves what it spells without the
blanks at its ends. -/
theorem strip_chars (s : Sentence) : strip isBlank s.chars = s.trim.chars := by
  obtain ⟨lead, opening, first, more, trail⟩ := s
  cases opening with
  | none =>
    obtain ⟨c, cs, hbare, hc⟩ := first.exists_cons_bare
    obtain ⟨front, last, hlast⟩ := exists_append_operand first.bare more
    have hchars : (Sentence.mk lead none first more trail).chars =
        (lead.append first.indent).chars ++ (first.bare.chars ++ more.flatMap Summand.chars) ++
          trail.chars := by
      simp only [chars, openingChars, Gap.append, List.nil_append, List.append_assoc,
        ← first.chars_bare]
    have htrim : (Sentence.mk lead none first more trail).trim.chars =
        first.bare.chars ++ more.flatMap Summand.chars := by
      simp [chars, openingChars, trim, Gap.empty]
    rw [hchars, htrim]
    refine strip_append_append (lead.append first.indent).all_blank trail.all_blank ?_ ?_ ?_
    · rw [hbare, List.cons_append, beginsWith_cons, hc]
    · rw [hlast]
      exact last.beginsWith_reverse front
    · rw [hbare]
      exact List.cons_ne_nil _ _
  | some op =>
    obtain ⟨sign, gap⟩ := op
    obtain ⟨front, last, hlast⟩ := exists_append_operand first more
    have htrim : (Sentence.mk lead (some (sign, gap)) first more trail).trim.chars =
        sign.char :: gap.chars ++ (first.chars ++ more.flatMap Summand.chars) := by
      simp [chars, openingChars, trim, Gap.empty]
    have hchars : (Sentence.mk lead (some (sign, gap)) first more trail).chars =
        lead.chars ++ (sign.char :: gap.chars ++ (first.chars ++ more.flatMap Summand.chars)) ++
          trail.chars := by
      simp only [chars, openingChars, List.append_assoc, List.cons_append]
    rw [hchars, htrim]
    refine strip_append_append lead.all_blank trail.all_blank ?_ ?_ (List.cons_ne_nil _ _)
    · exact isBlank_of_isSign (isSign_char sign)
    · rw [hlast, ← List.append_assoc]
      exact last.beginsWith_reverse _

/-- **The sign that a sentence opens with** is the one that its text begins with, once the
blanks at its ends are taken off. -/
theorem ofChar?_head?_trim (s : Sentence) :
    s.trim.chars.head?.bind Sign.ofChar? = s.opening.map Prod.fst := by
  obtain ⟨lead, opening, first, more, trail⟩ := s
  cases opening with
  | none =>
    obtain ⟨c, cs, hbare, -⟩ := first.exists_cons_bare
    have hc : isSign c = false :=
      Operand.isSign_of_mem (show c ∈ first.bare.chars by rw [hbare]; exact List.mem_cons_self)
    have hhead : (Sentence.mk lead none first more trail).trim.chars.head? = some c := by
      simp [chars, openingChars, trim, Gap.empty, hbare]
    rw [hhead]
    show Sign.ofChar? c = none
    rw [← Option.not_isSome_iff_eq_none, isSome_ofChar?, hc]
    exact Bool.false_ne_true
  | some op =>
    obtain ⟨sign, gap⟩ := op
    show Sign.ofChar? sign.char = some sign
    exact Sign.ofChar?_char sign

theorem chars_ne_nil (s : Sentence) : s.chars ≠ [] := by
  obtain ⟨c, cs, hbare, -⟩ := s.first.exists_cons_bare
  simp [chars, ← s.first.chars_bare, hbare]

/-- A sentence with further blanks at its two ends. -/
def widen (lead trail : Gap) (s : Sentence) : Sentence :=
  { s with lead := lead.append s.lead, trail := s.trail.append trail }

/-- A sentence with further blanks spells its own text with them around it. -/
theorem chars_widen (lead trail : Gap) (s : Sentence) :
    (s.widen lead trail).chars = lead.chars ++ s.chars ++ trail.chars := by
  simp only [widen, chars, openingChars, Gap.append, List.append_assoc]

end Sentence

/-! ## Reading a text -/

namespace Expression

/-- **Reading a sentence**: it is read exactly if it is accepted, and the
expression holds what it says. -/
theorem read_sentence {text : String} {s : Sentence} (hs : s.chars = text.toList)
    {e : Expression} :
    read numeral limits text = .ok e ↔
      s.Accepted numeral limits ∧ e.groups = s.groups numeral ∧
        e.modifier = s.modifier numeral ∧ e.text = String.ofList (strip isBlank text.toList) := by
  have hread : read numeral limits text = .ok e ↔ ∃ x : List Term × Preceding,
      Reading.run numeral limits s.trim.chars .nothing (Token.scan 0 s.trim.chars) = .ok x ∧
        Reading.conclude limits s.trim.chars x.1 x.2 = .ok e := by
    rw [read, ← hs, Sentence.strip_chars]
    dsimp only
    rw [if_neg (by rw [List.isEmpty_iff]; exact s.trim.chars_ne_nil), bind_eq_ok_iff]
  rw [hread, ← hs, Sentence.strip_chars]
  constructor
  · rintro ⟨⟨terms, last⟩, hrun, hconclude⟩
    obtain ⟨hallowed, rfl, rfl⟩ := (Reading.run_sentence s.trim).1 hrun
    rw [Sentence.terms_trim] at hconclude
    obtain ⟨-, hgroups, hmodifier, hsays⟩ := Reading.conclude_eq_ok_iff.1 hconclude
    exact ⟨⟨hgroups, s.allowed_trim.1 hallowed, hmodifier⟩, hsays⟩
  · rintro ⟨⟨hgroups, hallowed, hmodifier⟩, hsays⟩
    refine ⟨(s.terms numeral, .term), ?_, ?_⟩
    · exact (Reading.run_sentence s.trim).2
        ⟨s.allowed_trim.2 hallowed, (s.terms_trim numeral).symm, rfl⟩
    · exact Reading.conclude_eq_ok_iff.2 ⟨rfl, hgroups, hmodifier, hsays⟩

/-- **Reading accepts exactly the sentences**, and an expression that was read
holds what its sentence says. -/
theorem read_eq_ok_iff {text : String} {e : Expression} :
    read numeral limits text = .ok e ↔
      ∃ s : Sentence, s.chars = text.toList ∧ s.Accepted numeral limits ∧
        e.groups = s.groups numeral ∧ e.modifier = s.modifier numeral ∧
        e.text = String.ofList (strip isBlank text.toList) := by
  constructor
  · intro h
    -- the run completes a term, so what was stripped off goes around a sentence
    have hrun : ∃ x : List Term × Preceding,
        Reading.run numeral limits (strip isBlank text.toList) .nothing
            (Token.scan 0 (strip isBlank text.toList)) = .ok x ∧
          Reading.conclude limits (strip isBlank text.toList) x.1 x.2 = .ok e := by
      rw [read] at h
      dsimp only at h
      split at h
      · cases h
      · exact bind_eq_ok_iff.1 h
    obtain ⟨⟨terms, last⟩, hrun, hconclude⟩ := hrun
    obtain ⟨hlast, hgroups, -⟩ := Reading.conclude_eq_ok_iff.1 hconclude
    have hterms : terms ≠ [] := by
      rintro rfl
      exact hgroups rfl
    obtain ⟨s, hs⟩ := Reading.exists_sentence_of_run hrun hterms hlast
    obtain ⟨lead, trail, hlead, htrail, htext⟩ := exists_append_strip isBlank text.toList
    have hwide : (s.widen ⟨lead, hlead⟩ ⟨trail, htrail⟩).chars = text.toList := by
      rw [Sentence.chars_widen, hs, ← htext]
    exact ⟨_, hwide, (read_sentence hwide).1 h⟩
  · rintro ⟨s, hs, hsays⟩
    exact (read_sentence hs).2 hsays

/-- **An expression is read exactly from an accepted sentence.** The text is a
sentence character by character, with a die in it, no die under a minus,
every die within the limits and the sum of its numbers too; the expression
has its dice in order, that sum and the text without the blanks around
it. -/
theorem parse_eq_ok_iff (limits : Limits) (text : String) (e : Expression) :
    parse limits text = .ok e ↔
      ∃ s : Sentence, s.chars = text.toList ∧ s.Accepted Numeral.clamped limits ∧
        e.groups = s.groups Numeral.clamped ∧ e.modifier = s.modifier Numeral.clamped ∧
        e.text = String.ofList (strip isBlank text.toList) :=
  read_eq_ok_iff

end Expression

end Tabletop
