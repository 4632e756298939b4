import Tabletop.Proofs.Notation.Placement

/-!
# What can still become a notation

Reading goes from left to right and stops at the first token that is at
fault. It never stops too early and never goes on in vain: the tokens of a
run that did not fail can be continued to those of a text that is accepted
(`Reading.continues_of_run`), whatever the numbers among them have come to by
then. The continuation supplies the operand that a sign still waits for, adds
a die of two sides, and takes as many ones off the sum or adds as many to it
as bring it back to zero.

What is accepted is a matter of the tokens alone (`Expression.exists_read_iff`);
the characters of a text only enter the faults. So the tokens of a text can
be spelled anew before any text that is detached
(`Reading.exists_spelling`).
-/

namespace Tabletop

open Text

variable {numeral : List Char → Nat} {limits : Limits} {text cs : List Char} {start : Nat}

/-- What a token is for the token after it. -/
def Token.after (t : Token) : Preceding :=
  match t.lexeme with
  | .sign s => .sign t.start s
  | _ => .term

namespace Expression

/-- **The characters of a text** without the blanks around it. -/
def trimmed (text : String) : List Char :=
  strip isBlank text.toList

/-- **The tokens of a text**, without the blanks around it. -/
def tokens (text : String) : List Token :=
  Token.scan 0 (trimmed text)

theorem beginsWith_trimmed (text : String) : beginsWith isBlank (trimmed text) = false :=
  beginsWith_strip isBlank text.toList

end Expression

namespace Reading

/-! ## What a run depends on -/

/-- A step that does not fail looks at its token and at what stands before it. -/
theorem step_text {before : Preceding} {t : Token} {stepped : Option Term × Preceding}
    (h : step numeral limits text before t = .ok stepped) (text' : List Char) :
    step numeral limits text' before t = .ok stepped := by
  obtain ⟨start, lexeme⟩ := t
  cases lexeme with
  | stray word => cases h
  | number digits => cases before <;> exact h
  | sign s =>
    cases before with
    | sign position first => cases h
    | nothing => exact h
    | term => exact h
  | die d =>
    cases before with
    | sign position s =>
      cases s with
      | plus => exact h
      | minus => cases h
    | nothing => exact h
    | term => cases h

/-- **A run that does not fail** looks at the tokens only. -/
theorem run_text {before : Preceding} {ts : List Token} {ran : List Term × Preceding}
    (h : run numeral limits text before ts = .ok ran) (text' : List Char) :
    run numeral limits text' before ts = .ok ran := by
  obtain ⟨terms, last⟩ := ran
  induction ts generalizing before terms with
  | nil => exact h
  | cons t ts ih =>
    obtain ⟨term, next, more, hstep, hmore, rfl⟩ := run_cons_eq_ok_iff.1 h
    exact run_cons_eq_ok_iff.2 ⟨term, next, more, step_text hstep text', ih more hmore, rfl⟩

/-- A run that does not fail does not fail at any point. -/
theorem run_of_prefix {before : Preceding} {ts us : List Token} {ran : List Term × Preceding}
    (h : run numeral limits text before us = .ok ran) (hts : ts <+: us) :
    ∃ terms last, run numeral limits text before ts = .ok (terms, last) := by
  obtain ⟨more, rfl⟩ := hts
  rw [run_append] at h
  cases hrun : run numeral limits text before ts with
  | error fault =>
    rw [hrun] at h
    cases h
  | ok first => exact ⟨first.1, first.2, rfl⟩

theorem step_next {before next : Preceding} {t : Token} {term : Option Term}
    (h : step numeral limits text before t = .ok (term, next)) (hwf : t.lexeme.WellFormed) :
    next = t.after := by
  unfold Token.after
  rcases step_cases h hwf with ⟨s, hs, -, rfl⟩ | ⟨o, ho, -, rfl⟩
  · rw [hs]
  · rw [ho]
    cases o <;> rfl

/-- **A run ends with its last token.** -/
theorem last_of_run {before last : Preceding} {t : Token} {ts : List Token} {terms : List Term}
    (h : run numeral limits text before (ts ++ [t]) = .ok (terms, last))
    (hwf : t.lexeme.WellFormed) : last = t.after := by
  induction ts generalizing before terms with
  | nil =>
    obtain ⟨term, next, more, hstep, hmore, -⟩ := run_cons_eq_ok_iff.1 h
    cases hmore
    exact step_next hstep hwf
  | cons t' ts ih =>
    obtain ⟨term, next, more, -, hmore, -⟩ := run_cons_eq_ok_iff.1 h
    exact ih hmore

/-! ## What is accepted -/

/-- **Whether tokens are accepted**: a run over them does not fail, and it can conclude. -/
def Accepts (numeral : List Char → Nat) (limits : Limits) (ts : List Token) : Prop :=
  ∃ text terms last e, run numeral limits text .nothing ts = .ok (terms, last) ∧
    conclude limits text terms last = .ok e

/-- Tokens that begin with some at which a run fails are not accepted. -/
theorem not_accepts_of_prefix {ts us : List Token} {fault : Fault}
    (h : run numeral limits text .nothing ts = .error fault) (hts : ts <+: us) :
    ¬Accepts numeral limits us := by
  rintro ⟨text', terms, last, e, hrun, -⟩
  obtain ⟨terms', last', hprefix⟩ := run_of_prefix hrun hts
  rw [run_text hprefix text] at h
  cases h

end Reading

namespace Expression

/-- **A text is accepted exactly if its tokens are.** -/
theorem exists_read_iff {text : String} :
    (∃ e, read numeral limits text = .ok e) ↔ Reading.Accepts numeral limits (tokens text) := by
  constructor
  · rintro ⟨e, h⟩
    rw [read] at h
    dsimp only at h
    split at h
    · cases h
    · obtain ⟨⟨terms, last⟩, hrun, hconclude⟩ := bind_eq_ok_iff.1 h
      exact ⟨_, terms, last, e, hrun, hconclude⟩
  · rintro ⟨text', terms, last, e, hrun, hconclude⟩
    obtain ⟨hlast, hgroups, hmodifier, -⟩ := Reading.conclude_eq_ok_iff.1 hconclude
    have hne : ¬(trimmed text).isEmpty = true := by
      intro hempty
      rw [tokens, List.isEmpty_iff.1 hempty, Token.scan_nil, Reading.run_nil] at hrun
      cases hrun
      exact hgroups rfl
    refine ⟨⟨_, hgroups, sumOf (terms.map Term.amount), String.ofList (trimmed text)⟩, ?_⟩
    rw [read]
    dsimp only
    rw [← trimmed, if_neg hne]
    exact bind_eq_ok_iff.2 ⟨(terms, last), Reading.run_text hrun _,
      Reading.conclude_eq_ok_iff.2 ⟨hlast, hgroups, hmodifier, rfl, rfl, rfl⟩⟩

/-- **A sentence whose operands are allowed** is read as far as the conclusion. -/
theorem read_eq_conclude {text : String} {s : Sentence} (hs : s.chars = text.toList)
    (hallowed : ∀ x ∈ s.signed, x.2.Allowed numeral limits x.1) :
    read numeral limits text =
      Reading.conclude limits (trimmed text) (s.terms numeral) .term := by
  have htrimmed : trimmed text = s.trim.chars := by rw [trimmed, ← hs, s.strip_chars]
  have hrun : Reading.run numeral limits (trimmed text) .nothing (Token.scan 0 (trimmed text)) =
      .ok (s.terms numeral, .term) := by
    rw [htrimmed]
    exact (Reading.run_sentence s.trim).2
      ⟨s.allowed_trim.2 hallowed, (s.terms_trim numeral).symm, rfl⟩
  have hne : ¬(trimmed text).isEmpty = true := by
    rw [htrimmed, List.isEmpty_iff]
    exact s.trim.chars_ne_nil
  rw [read]
  dsimp only
  rw [← trimmed, if_neg hne, hrun]
  rfl

/-- **Whether tokens can be continued** to those of a text that is read as an expression. -/
def Continues (limits : Limits) (ts : List Token) : Prop :=
  ∃ text e, parse limits text = .ok e ∧ ts <+: tokens text

end Expression

namespace Reading

/-! ## Spelling anew -/

/-- A sign is scanned again behind the same gap, whatever follows it. -/
theorem scan_again_sign {t : Token} {g : Gap} (hstart : t.start = start + g.chars.length)
    {s : Sign} (hs : t.lexeme = .sign s) (tail : List Char) :
    Token.scan start (g.chars ++ (t.chars ++ tail)) = t :: Token.scan t.stop tail := by
  obtain ⟨position, lexeme⟩ := t
  obtain rfl : lexeme = .sign s := hs
  obtain rfl : position = start + g.chars.length := hstart
  rw [Token.scan_gap]
  exact Token.scan_sign s

/-- An operand without blanks at its front is scanned again behind the same gap, where a
detached text follows it. -/
theorem scan_again_operand {t : Token} {g : Gap} (hstart : t.start = start + g.chars.length)
    {o : Operand} (ho : t.lexeme = o.lexeme) {c : Char} {rest : List Char}
    (hchars : t.chars = c :: rest) (hc : isBlank c = false) {tail : List Char}
    (htail : Detached tail) :
    Token.scan start (g.chars ++ (t.chars ++ tail)) = t :: Token.scan t.stop tail := by
  have hop : o.chars = c :: rest := by rw [← hchars, Token.chars, ho, Operand.chars_lexeme]
  have hread := Lexeme.read_operand hop htail
  have ht : t = ⟨start + g.chars.length, o.lexeme⟩ := by rw [← hstart, ← ho]
  rw [Token.scan_gap, hchars, List.cons_append, Token.scan_cons hc, hread]
  rw [ht]
  rfl

/-- **The tokens of a run can be spelled before any detached text.** What spells them is
the front of the text that they were scanned from, which keeps their positions. -/
theorem exists_spelling {before last : Preceding} {ts : List Token} {terms : List Term}
    (hts : ts <+: Token.scan start cs)
    (hrun : run numeral limits text before ts = .ok (terms, last)) :
    ∃ front, front <+: cs ∧ (ts ≠ [] → front ≠ []) ∧ ∀ tail, Detached tail →
      (before = .term → Detached (front ++ tail)) ∧
        Token.scan start (front ++ tail) = ts ++ Token.scan (start + front.length) tail := by
  -- token by token: what follows an operand in a run is a sign, so an operand stays whole
  induction ts generalizing start cs before terms with
  | nil =>
    exact ⟨[], List.nil_prefix, fun h => absurd rfl h, fun tail htail => ⟨fun _ => htail, rfl⟩⟩
  | cons t ts ih =>
    obtain ⟨us, hus⟩ := hts
    obtain ⟨g, c, rest, rfl, hc, ht, hscan⟩ := Token.exists_read_of_scan_eq_cons hus.symm
    obtain ⟨term, next, more, hstep, hmore, -⟩ := run_cons_eq_ok_iff.1 hrun
    obtain ⟨front, hfront, -, hspells⟩ := ih ⟨us, hscan⟩ hmore
    have hstart : t.start = start + g.chars.length := by rw [ht]
    have hchars : t.chars ++ (Lexeme.read c rest).2 = c :: rest := by
      rw [ht]
      exact Lexeme.chars_append_read c rest
    have hlength : start + (g.chars ++ (t.chars ++ front)).length = t.stop + front.length := by
      rw [Token.stop, hstart, List.length_append, List.length_append]
      omega
    obtain ⟨rest', hrest'⟩ : ∃ rest', t.chars = c :: rest' := by
      have hne : t.chars ≠ [] := by
        rw [ht]
        exact Lexeme.chars_read_ne_nil c rest
      obtain ⟨c', rest', h⟩ := List.exists_cons_of_ne_nil hne
      rw [h, List.cons_append, List.cons.injEq] at hchars
      exact ⟨rest', by rw [h, hchars.1]⟩
    refine ⟨g.chars ++ (t.chars ++ front), ?_, fun _ => by simp [hrest'], fun tail htail => ?_⟩
    · rw [← hchars, List.prefix_append_right_inj, List.prefix_append_right_inj]
      exact hfront
    · obtain ⟨hdetached, hagain⟩ := hspells tail htail
      have hassoc : g.chars ++ (t.chars ++ front) ++ tail =
          g.chars ++ (t.chars ++ (front ++ tail)) := by
        simp only [List.append_assoc]
      have hwf : t.lexeme.WellFormed := by
        rw [ht]
        exact Lexeme.wellFormed_read c rest
      rw [hlength, hassoc, List.cons_append, ← hagain]
      rcases step_cases hstep hwf with ⟨s, hs, -, -⟩ | ⟨o, ho, hfollows, rfl⟩
      · refine ⟨fun _ => detached_of_gap ?_, scan_again_sign hstart hs _⟩
        have hsign : t.chars = [s.char] := by
          rw [Token.chars, hs]
          rfl
        rw [hsign, List.singleton_append, beginsWith_cons, isSign_char]
        rfl
      · exact ⟨fun h => absurd h hfollows,
          scan_again_operand hstart ho hrest' hc (hdetached rfl)⟩

/-! ## Continuing -/

/-- A blank on its own. -/
def space : Gap :=
  ⟨[' '], rfl⟩

/-- A one under a sign, with blanks around the sign. -/
def one (s : Sign) : Summand :=
  ⟨space, s, space, .number ['1'] ⟨List.cons_ne_nil _ _, rfl⟩⟩

/-- A die of two sides to be added. -/
def coin : Summand :=
  ⟨space, .plus, space, .die ⟨[], [], 'd', [], ['2']⟩
    ⟨rfl, rfl, rfl, rfl, List.cons_ne_nil _ _, rfl⟩⟩

/-- **What takes a sum back to zero**: a die, and ones under the other sign. -/
def balance (sum : Int) : List Summand :=
  coin :: List.replicate sum.natAbs (one (if 0 ≤ sum then .minus else .plus))

/-- The operand that has to come first, if one has to. -/
def filler : Preceding → List Char
  | .nothing => ['0']
  | .sign _ _ => [' ', '0']
  | .term => []

/-- **A continuation** of terms that come to a sum. -/
def continuation (last : Preceding) (sum : Int) : List Char :=
  filler last ++ (balance sum).flatMap Summand.chars

/-- The terms of a balance come to the opposite sum. -/
theorem sumOf_balance (sum : Int) :
    sumOf (((balance sum).map fun x => x.operand.term Numeral.clamped x.sign).map Term.amount) =
      -sum := by
  have hones (s : Sign) (n : Nat) :
      sumOf (((List.replicate n (one s)).map fun x =>
        x.operand.term Numeral.clamped x.sign).map Term.amount) = s.apply n := by
    induction n with
    | zero => cases s <;> rfl
    | succ n ih =>
      rw [List.replicate_succ, List.map_cons, List.map_cons, sumOf_cons, ih]
      cases s with
      | plus => exact Int.add_comm 1 n
      | minus =>
        show -1 + -(n : Int) = -((n + 1 : Nat) : Int)
        omega
  rw [balance, List.map_cons, List.map_cons, sumOf_cons, hones]
  show 0 + _ = -sum
  split
  · show 0 + -(sum.natAbs : Int) = -sum
    omega
  · show 0 + (sum.natAbs : Int) = -sum
    omega

theorem detached_balance (sum : Int) : Detached ((balance sum).flatMap Summand.chars) := by
  have h := detached_summands (balance sum) .empty
  rwa [Gap.empty, List.append_nil] at h

/-- A continuation is detached from what it follows, unless that is nothing. -/
theorem detached_continuation {last : Preceding} (h : last ≠ .nothing) (sum : Int) :
    Detached (continuation last sum) := by
  cases last with
  | nothing => exact absurd rfl h
  | term => exact detached_balance sum
  | sign position s =>
    refine ⟨rfl, ?_⟩
    show beginsWith isDieLetter
      (([' '] ++ '0' :: (balance sum).flatMap Summand.chars).dropWhile isBlank) = false
    rw [dropWhile_append_rest (by decide) (by rw [beginsWith_cons]; decide)]
    rfl

/-- **A run over a continuation** completes a die and takes the sum back to zero. -/
theorem run_continuation (hcount : 1 ≤ limits.maxCount) (hsides : 2 ≤ limits.maxSides)
    (text : List Char) (start : Nat) (last : Preceding) (sum : Int) :
    ∃ terms, run Numeral.clamped limits text last (Token.scan start (continuation last sum)) =
        .ok (terms, .term) ∧
      terms.filterMap Term.group? ≠ [] ∧ sumOf (terms.map Term.amount) = -sum := by
  let balanced := (balance sum).map fun x => x.operand.term Numeral.clamped x.sign
  have hallowed : ∀ x ∈ balance sum, x.operand.Allowed Numeral.clamped limits x.sign := by
    intro x hx
    rcases List.mem_cons.1 hx with rfl | hone
    · exact ⟨rfl, ⟨Int.le_refl 1, hcount⟩, Int.le_refl 2, hsides⟩
    · rw [List.eq_of_mem_replicate hone]
      trivial
  have hbalance (n : Nat) : run Numeral.clamped limits text .term
      (Token.scan n ((balance sum).flatMap Summand.chars)) = .ok (balanced, .term) := by
    have h : run Numeral.clamped limits text .term (Token.scan n
        ((balance sum).flatMap Summand.chars ++ Gap.empty.chars)) = .ok (balanced, .term) :=
      (run_summands (balance sum) .empty).2 ⟨hallowed, rfl, rfl⟩
    rwa [Gap.empty, List.append_nil] at h
  have hgroups : balanced.filterMap Term.group? ≠ [] := List.cons_ne_nil _ _
  -- a zero under any sign, where an operand has to come first
  have hzero (g : Gap) (hlast : last ≠ .term) : ∃ terms,
      run Numeral.clamped limits text last
        (Token.scan start (g.chars ++ (['0'] ++ (balance sum).flatMap Summand.chars))) =
          .ok (terms, .term) ∧
        terms.filterMap Term.group? ≠ [] ∧ sumOf (terms.map Term.amount) = -sum := by
    refine ⟨(Operand.number ['0'] (by decide)).term Numeral.clamped last.signOf :: balanced,
      ?_, hgroups, ?_⟩
    · rw [Token.scan_gap]
      exact (run_operand hlast (.number ['0'] (by decide)) (detached_balance sum)).2
        ⟨trivial, balanced, hbalance _, rfl⟩
    · have hamount : last.signOf.apply (Numeral.clamped ['0'] : Nat) = 0 := by
        cases last.signOf <;> rfl
      rw [List.map_cons, sumOf_cons, sumOf_balance]
      show last.signOf.apply (Numeral.clamped ['0'] : Nat) + -sum = -sum
      rw [hamount, Int.zero_add]
  cases last with
  | nothing => exact hzero .empty (by simp)
  | sign position s => exact hzero space (by simp)
  | term => exact ⟨balanced, hbalance start, hgroups, sumOf_balance sum⟩

/-- **The tokens of a run that did not fail can be continued**, whatever their numbers come
to, if the limits admit a die of two sides and a sum of zero. -/
theorem continues_of_run (hcount : 1 ≤ limits.maxCount) (hsides : 2 ≤ limits.maxSides)
    (hmodifier : 0 ≤ limits.maxModifier) {ts : List Token} {terms : List Term}
    {last : Preceding} (hcs : beginsWith isBlank cs = false) (hts : ts <+: Token.scan 0 cs)
    (hrun : run Numeral.clamped limits text .nothing ts = .ok (terms, last)) :
    Expression.Continues limits ts := by
  let tail := continuation last (sumOf (terms.map Term.amount))
  -- the tokens spelled before their continuation
  have hspelled : ∃ front, beginsWith isBlank (front ++ tail) = false ∧
      Token.scan 0 (front ++ tail) = ts ++ Token.scan front.length tail := by
    rcases List.eq_nil_or_concat ts with rfl | ⟨ts', t, rfl⟩
    · rw [run_nil, Except.ok.injEq, Prod.mk.injEq] at hrun
      obtain ⟨-, rfl⟩ := hrun
      have hzero : isBlank '0' = false := by decide
      exact ⟨[], hzero, rfl⟩
    · rw [List.concat_eq_append] at hrun hts ⊢
      have hwf : t.lexeme.WellFormed := Token.wellFormed_of_mem_scan (hts.subset (by simp))
      have hlast : last ≠ .nothing := by
        rw [last_of_run hrun hwf, Token.after]
        cases t.lexeme <;> simp
      obtain ⟨front, ⟨rest, hrest⟩, hne, hspells⟩ := exists_spelling hts hrun
      have hfront := hne (by simp)
      rw [← hrest, beginsWith_append hfront] at hcs
      refine ⟨front, by rw [beginsWith_append hfront, hcs], ?_⟩
      have hscan := (hspells tail (detached_continuation hlast _)).2
      rwa [Nat.zero_add] at hscan
  obtain ⟨front, hblank, hscan⟩ := hspelled
  have htokens : Expression.tokens (String.ofList (front ++ tail)) =
      ts ++ Token.scan front.length tail := by
    rw [Expression.tokens, Expression.trimmed, String.toList_ofList, Token.scan_strip hblank,
      hscan]
  obtain ⟨more, hmore, hgroups, hsum⟩ := run_continuation hcount hsides text front.length
    last (sumOf (terms.map Term.amount))
  have haccepts : Accepts Numeral.clamped limits
      (Expression.tokens (String.ofList (front ++ tail))) := by
    have hzero : sumOf ((terms ++ more).map Term.amount) = 0 := by
      rw [List.map_append, sumOf_append, hsum, Int.add_right_neg]
    have hdice : (terms ++ more).filterMap Term.group? ≠ [] := by
      rw [List.filterMap_append]
      exact List.append_ne_nil_of_right_ne_nil _ hgroups
    refine ⟨text, terms ++ more, .term, ⟨_, hdice, _, String.ofList text⟩, ?_,
      conclude_eq_ok_iff.2 ⟨rfl, hdice, ?_, rfl, rfl, rfl⟩⟩
    · rw [htokens, run_append, hrun, Except.bind, hmore]
      rfl
    · rw [hzero]
      exact hmodifier
  obtain ⟨e, he⟩ := Expression.exists_read_iff.2 haccepts
  exact ⟨_, e, he, by rw [htokens]; exact List.prefix_append _ _⟩

end Reading

end Tabletop
