import Mathlib.Data.List.Basic
import Tabletop.Proofs.Notation.Continuation
import Tabletop.Proofs.Notation.Faults

/-!
# Faults are reported at the earliest token

A fault is one of a token or one of the end of a text (`Fault.AtToken`,
`Fault.AtEnd`). If it is one of a token, then that is the first token with
which the text is past saving: no tokens that go on from there are accepted,
and all that come before it could still have been continued. What the fault
says depends on nothing behind that token, and it names a piece of the text
that ends there (`Expression.Settled`). A fault of the end is reported only
where all tokens can be continued. Lacking dice is one of these, and it is
reported whatever the numbers come to (`Expression.faults_earliest`).
-/

namespace Tabletop

open Text

variable {numeral : List Char → Nat} {limits : Limits} {fault : Fault}

namespace Fault

/-- The piece of the text that a fault names, if it names one. -/
def fragment? : Fault → Option String
  | .malformed fragment => some fragment
  | .countOutOfRange group _ _ => some group
  | .sidesOutOfRange group _ _ => some group
  | _ => none

/-- **Whether a fault is one of a token**: a die out of range, or a fragment that is more
than a sign. -/
def AtToken : Fault → Prop
  | .malformed fragment => ∀ s : Sign, fragment ≠ String.ofList [s.char]
  | .countOutOfRange .. => True
  | .sidesOutOfRange .. => True
  | _ => False

/-- **Whether a fault is one of the end**: a sign without its term, the lack of dice, or
the modifier. -/
def AtEnd : Fault → Prop
  | .malformed fragment => ∃ s : Sign, fragment = String.ofList [s.char]
  | .noDice => True
  | .modifierOutOfRange .. => True
  | _ => False

theorem AtToken.not_atEnd (h : fault.AtToken) : ¬fault.AtEnd := by
  cases fault with
  | malformed fragment =>
    rintro ⟨s, hs⟩
    exact h s hs
  | countOutOfRange => exact id
  | sidesOutOfRange => exact id
  | _ => cases h

end Fault

theorem Text.slice_congr {xs ys : List Char} {stop : Nat} (h : xs.take stop = ys.take stop)
    (start : Nat) : slice xs start stop = slice ys start stop := by
  rw [slice, slice, ← List.drop_take, ← List.drop_take, h]

namespace Reading

variable {text text' : List Char}

/-! ## The fault of a token in its place -/

/-- A sign that waits after a run is its last token. -/
theorem exists_last_of_run {ts : List Token} {terms : List Term} {position : Nat} {s : Sign}
    (h : run numeral limits text .nothing ts = .ok (terms, .sign position s))
    (hwf : ∀ t ∈ ts, t.lexeme.WellFormed) :
    ∃ t ∈ ts.getLast?, t.lexeme = .sign s ∧ t.start = position := by
  rcases List.eq_nil_or_concat ts with rfl | ⟨front, t, rfl⟩
  · cases h
  · rw [List.concat_eq_append] at h hwf ⊢
    have hlast := last_of_run h (hwf t (by simp))
    refine ⟨t, List.getLast?_concat, ?_⟩
    unfold Token.after at hlast
    split at hlast
    · next s' hs' =>
      cases hlast
      exact ⟨hs', rfl⟩
    · cases hlast

/-- A sign that waits stands before the token after it. -/
theorem sign_lt_of_run {front back : List Token} {t : Token} {terms : List Term}
    {position : Nat} {s : Sign} (hts : Token.scan 0 text = front ++ t :: back)
    (hrun : run numeral limits text .nothing front = .ok (terms, .sign position s)) :
    position < t.start := by
  have hscanned {u : Token} (hu : u ∈ front) : u ∈ Token.scan 0 text := by
    rw [hts]
    exact List.mem_append_left _ hu
  obtain ⟨t', ht', -, rfl⟩ := exists_last_of_run hrun fun u hu =>
    Token.wellFormed_of_mem_scan (hscanned hu)
  have hmem : t' ∈ front := List.mem_of_getLast? ht'
  have hapart := Token.pairwise_scan 0 text
  rw [hts, List.pairwise_append] at hapart
  have hstop : t'.stop ≤ t.start := hapart.2.2 t' hmem t List.mem_cons_self
  exact Nat.lt_of_lt_of_le (Token.start_lt_stop (hscanned hmem)) hstop

/-- A fault that names a token alone, or from a sign before it on, names a piece of the text
that ends with the token and is no single sign. -/
theorem Blames.fragment {before : Preceding} {t : Token}
    (h : Blames numeral limits text before t fault) (ht : t ∈ Token.scan 0 text)
    (hbefore : ∀ position s, before = .sign position s → position < t.start) :
    fault.AtToken ∧ ∃ start, start < t.stop ∧
      fault.fragment? = some (String.ofList (slice text start t.stop)) := by
  have hstop := Token.start_lt_stop ht
  have hle := Token.stop_le ht
  have hown : (∀ s, t.lexeme ≠ .sign s) →
      (Fault.malformed (String.ofList t.chars)).AtToken ∧ ∃ start, start < t.stop ∧
        (Fault.malformed (String.ofList t.chars)).fragment? =
          some (String.ofList (slice text start t.stop)) := by
    intro hno
    refine ⟨fun s hs => hno s (Token.eq_sign_of_chars ht (String.ofList_inj.1 hs)),
      t.start, hstop, ?_⟩
    rw [Token.slice_of_mem_scan ht]
    rfl
  have hfrom {position : Nat} (hposition : position < t.start) :
      (Fault.malformed (String.ofList (slice text position t.stop))).AtToken ∧
        ∃ start, start < t.stop ∧
          (Fault.malformed (String.ofList (slice text position t.stop))).fragment? =
            some (String.ofList (slice text start t.stop)) := by
    refine ⟨fun s hs => ?_, position, by omega, rfl⟩
    have hlength := length_slice text position t.stop
    rw [String.ofList_inj.1 hs, List.length_singleton] at hlength
    omega
  cases h with
  | stray h => exact hown fun s hs => by rw [h] at hs; cases hs
  | number h => exact hown fun s hs => by rw [h] at hs; cases hs
  | die h => exact hown fun s hs => by rw [h] at hs; cases hs
  | sign h => exact hfrom (hbefore _ _ rfl)
  | subtracted h => exact hfrom (hbefore _ _ rfl)
  | @range _ _ d _ h hfollows hsign hgroup =>
    have hchars : slice text t.start t.stop = d.chars := by
      rw [Token.slice_of_mem_scan ht, Token.chars, h]
      rfl
    rcases DieText.group_eq_error_iff.1 hgroup with ⟨-, rfl⟩ | ⟨-, -, rfl⟩
    · exact ⟨trivial, t.start, hstop, by rw [hchars]; rfl⟩
    · exact ⟨trivial, t.start, hstop, by rw [hchars]; rfl⟩

/-- The fault of a token depends on the text up to its end. -/
theorem Blames.congr {before : Preceding} {t : Token}
    (h : Blames numeral limits text before t fault)
    (htake : text.take t.stop = text'.take t.stop) :
    Blames numeral limits text' before t fault := by
  cases h with
  | stray h => exact .stray h
  | number h => exact .number h
  | die h => exact .die h
  | sign h =>
    rw [slice_congr htake]
    exact .sign h
  | subtracted h =>
    rw [slice_congr htake]
    exact .subtracted h
  | range h hfollows hsign hgroup => exact .range h hfollows hsign hgroup

theorem atEnd_of_conclude {terms : List Term} {last : Preceding}
    (h : conclude limits text terms last = .error fault) : fault.AtEnd := by
  rcases conclude_eq_error_iff.1 h with ⟨_, s, -, rfl⟩ | ⟨-, -, rfl⟩ | ⟨-, -, -, rfl⟩
  · exact ⟨s, rfl⟩
  · trivial
  · trivial

/-! ## What the terms tell of the tokens -/

/-- The terms of a run have dice exactly if its tokens do. -/
theorem groups_eq_nil_iff {before last : Preceding} {ts : List Token} {terms : List Term}
    (h : run numeral limits text before ts = .ok (terms, last))
    (hwf : ∀ t ∈ ts, t.lexeme.WellFormed) :
    terms.filterMap Term.group? = [] ↔ ∀ t ∈ ts, ∀ d, t.lexeme ≠ .die d := by
  induction ts generalizing before terms with
  | nil =>
    cases h
    exact iff_of_true rfl (List.forall_mem_nil _)
  | cons t ts ih =>
    obtain ⟨term, next, more, hstep, hmore, rfl⟩ := run_cons_eq_ok_iff.1 h
    rw [List.forall_mem_cons] at hwf
    rw [List.filterMap_append, List.append_eq_nil_iff, ih hmore hwf.2, List.forall_mem_cons]
    refine and_congr_left fun _ => ?_
    obtain ⟨start, lexeme⟩ := t
    rcases step_cases hstep hwf.1 with ⟨s, hs, hwaits, -⟩ | ⟨o, ho, hfollows, -⟩
    · obtain rfl : lexeme = .sign s := hs
      rw [step_sign hwaits] at hstep
      cases hstep
      exact iff_of_true rfl (by simp)
    · obtain rfl : lexeme = o.lexeme := ho
      obtain ⟨-, rfl, -⟩ := (step_operand hfollows o).1 hstep
      cases o with
      | number digits hd => exact iff_of_true rfl (by simp [Operand.lexeme])
      | die d hd => exact iff_of_false (List.cons_ne_nil _ _) fun hno => hno d rfl

theorem waits_eq_false_iff {last : Preceding} {ts : List Token} {terms : List Term}
    (h : run numeral limits text .nothing ts = .ok (terms, last))
    (hwf : ∀ t ∈ ts, t.lexeme.WellFormed) :
    last.waits = false ↔ ∀ t ∈ ts.getLast?, ∀ s, t.lexeme ≠ .sign s := by
  rcases List.eq_nil_or_concat ts with rfl | ⟨front, t, rfl⟩
  · cases h
    exact iff_of_true rfl nofun
  · rw [List.concat_eq_append] at h hwf ⊢
    rw [last_of_run h (hwf t (by simp)), List.getLast?_concat]
    simp only [Option.mem_def, Option.some.injEq, forall_eq']
    unfold Token.after
    cases t.lexeme <;> simp [Preceding.waits]

end Reading

namespace Expression

open Reading

variable {text : String}

theorem tokens_ne_nil (h : trimmed text ≠ []) : tokens text ≠ [] := by
  intro hnil
  have hblank := Token.all_blank_of_scan_eq_nil hnil
  have hfront := beginsWith_trimmed text
  obtain ⟨c, rest, hc⟩ := List.exists_cons_of_ne_nil h
  rw [hc, beginsWith_cons] at hfront
  rw [hc, List.all_cons, hfront, Bool.false_and] at hblank
  cases hblank

/-- **Why a text is not read**: it is blank, or a token is at fault after a run that did not
fail, or a run over all tokens cannot conclude. -/
theorem parse_error_cases (h : parse limits text = .error fault) :
    fault = .emptyInput ∨
      (fault.AtToken ∧ ∃ front t back terms next, tokens text = front ++ t :: back ∧
        run Numeral.clamped limits (trimmed text) .nothing front = .ok (terms, next) ∧
        Blames Numeral.clamped limits (trimmed text) next t fault ∧
        ∃ start, start < t.stop ∧
          fault.fragment? = some (String.ofList (slice (trimmed text) start t.stop))) ∨
      (fault.AtEnd ∧ trimmed text ≠ [] ∧ ∃ terms last,
        run Numeral.clamped limits (trimmed text) .nothing (tokens text) = .ok (terms, last) ∧
        conclude limits (trimmed text) terms last = .error fault) := by
  rcases read_eq_error_iff.1 h with ⟨-, hempty⟩ | ⟨-, hrun⟩ | ⟨terms, last, hne, hrun, hconclude⟩
  · exact .inl hempty
  · obtain ⟨front, t, back, terms, next, hts, hfront, hblames⟩ := run_eq_error_iff.1 hrun
    have hmem : t ∈ tokens text := by
      rw [tokens, trimmed, hts]
      simp
    obtain ⟨htoken, hfragment⟩ := hblames.fragment hmem fun position s hnext => by
      subst hnext
      exact sign_lt_of_run hts hfront
    exact .inr (.inl ⟨htoken, front, t, back, terms, next, hts, hfront, hblames, hfragment⟩)
  · exact .inr (.inr ⟨atEnd_of_conclude hconclude, hne, terms, last, hrun, hconclude⟩)

/-- **A text is settled by a token** after others: with it, it is past saving. -/
structure Settled (limits : Limits) (text : String) (fault : Fault) (front : List Token)
    (t : Token) : Prop where
  /-- No tokens that begin with these and the token are accepted. -/
  refused : ∀ us, front ++ [t] <+: us → ¬Accepts Numeral.clamped limits us
  /-- Tokens before it can be continued to those of an accepted text. -/
  continues : ∀ us, us <+: front → Continues limits us
  /-- The fault names a piece of the text that ends with the token. -/
  fragment : t.stop ≤ (trimmed text).length ∧ ∃ start, start < t.stop ∧
    fault.fragment? = some (String.ofList (slice (trimmed text) start t.stop))
  /-- A text that begins likewise, behind blanks or not, has the same fault if its first
  tokens are these, whatever follows. -/
  same : ∀ (lead : Gap) (other : String),
    lead.chars ++ (trimmed text).take t.stop <+: other.toList →
    front ++ [t] <+: tokens other → parse limits other = .error fault

/-- A text that begins as a trimmed one does, behind blanks or not, does so when it is
trimmed too, up to a token of both. -/
theorem take_trimmed_eq {other : String} {lead : Gap} {t : Token} (ht : t ∈ tokens text)
    (hother : lead.chars ++ (trimmed text).take t.stop <+: other.toList)
    (ht' : t ∈ tokens other) : (trimmed text).take t.stop = (trimmed other).take t.stop := by
  have hlength : ((trimmed text).take t.stop).length = t.stop := by
    rw [List.length_take, Nat.min_eq_left (Token.stop_le ht)]
  have hne : (trimmed text).take t.stop ≠ [] := by
    rw [← List.length_pos_iff, hlength]
    exact Nat.lt_of_le_of_lt (Nat.zero_le _) (Token.start_lt_stop ht)
  have hfront : beginsWith isBlank ((trimmed text).take t.stop) = false := by
    rw [← beginsWith_append hne, List.take_append_drop]
    exact beginsWith_trimmed text
  have hprefix : (trimmed text).take t.stop <+: trimmed other :=
    prefix_strip lead.all_blank hne hfront hother (by rw [hlength]; exact Token.stop_le ht')
  rw [List.prefix_iff_eq_take.1 hprefix, hlength]

/-- **A fault of a token settles the text.** -/
theorem settled_of_atToken (hcount : 1 ≤ limits.maxCount) (hsides : 2 ≤ limits.maxSides)
    (hmodifier : 0 ≤ limits.maxModifier) (h : parse limits text = .error fault)
    (htoken : fault.AtToken) :
    ∃ front t back, tokens text = front ++ t :: back ∧ Settled limits text fault front t := by
  rcases parse_error_cases h with rfl | ⟨-, front, t, back, terms, next, hts, hrun, hblames,
    hfragment⟩ | ⟨hend, -⟩
  · cases htoken
  · have hmem : t ∈ tokens text := by
      rw [hts]
      simp
    have hfront : front <+: tokens text := ⟨t :: back, hts.symm⟩
    refine ⟨front, t, back, hts, ⟨fun us hus => ?_, fun us hus => ?_,
      ⟨Token.stop_le hmem, hfragment⟩, fun lead other hother htokens => ?_⟩⟩
    · have herror : run Numeral.clamped limits (trimmed text) .nothing
          (front ++ [t]) = .error fault :=
        run_eq_error_iff.2 ⟨front, t, [], terms, next, rfl, hrun, hblames⟩
      exact not_accepts_of_prefix herror hus
    · obtain ⟨terms', last, hprefix⟩ := run_of_prefix hrun hus
      exact continues_of_run hcount hsides hmodifier (beginsWith_trimmed text) (hus.trans hfront)
        hprefix
    · obtain ⟨back', hback⟩ := htokens
      have hother' : tokens other = front ++ t :: back' := by
        rw [← hback, List.append_assoc, List.singleton_append]
      have hmem' : t ∈ tokens other := by
        rw [hother']
        simp
      have htake := take_trimmed_eq hmem hother hmem'
      refine read_eq_error_iff.2 (.inr (.inl ⟨?_, run_eq_error_iff.2
        ⟨front, t, back', terms, next, hother', run_text hrun _, hblames.congr htake⟩⟩))
      intro hnil
      rw [tokens, trimmed, hnil, Token.scan_nil] at hmem'
      cases hmem'
  · exact absurd hend htoken.not_atEnd

/-- **Where the tokens of a text can all be continued**, a run over them did not fail. -/
theorem exists_run_of_continues {ts : List Token} (h : Continues limits ts) (text : List Char) :
    ∃ terms last, run Numeral.clamped limits text .nothing ts = .ok (terms, last) := by
  obtain ⟨other, e, he, hts⟩ := h
  obtain ⟨text', terms, last, -, hrun, -⟩ := exists_read_iff.1 ⟨e, he⟩
  exact run_of_prefix (run_text hrun text) hts

/-- **What it takes to lack dice**: tokens that can be continued, none of them a die and the
last of them no sign. The sum of the numbers plays no part. -/
theorem parse_eq_noDice_iff (hcount : 1 ≤ limits.maxCount) (hsides : 2 ≤ limits.maxSides)
    (hmodifier : 0 ≤ limits.maxModifier) (text : String) :
    parse limits text = .error .noDice ↔ tokens text ≠ [] ∧ Continues limits (tokens text) ∧
      (∀ t ∈ tokens text, ∀ d, t.lexeme ≠ .die d) ∧
        ∀ t ∈ (tokens text).getLast?, ∀ s, t.lexeme ≠ .sign s := by
  have hwf : ∀ t ∈ tokens text, t.lexeme.WellFormed := fun t => Token.wellFormed_of_mem_scan
  constructor
  · intro h
    rcases parse_error_cases h with hempty | ⟨htoken, -⟩ | ⟨-, hne, terms, last, hrun, hconclude⟩
    · cases hempty
    · cases htoken
    · rcases conclude_eq_error_iff.1 hconclude with ⟨_, _, -, hfault⟩ | ⟨hlast, hgroups, -⟩ |
        ⟨-, -, -, hfault⟩
      · cases hfault
      · exact ⟨tokens_ne_nil hne, continues_of_run hcount hsides hmodifier (beginsWith_trimmed text)
          (List.prefix_refl _) hrun, (groups_eq_nil_iff hrun hwf).1 hgroups,
          (waits_eq_false_iff hrun hwf).1 hlast⟩
      · cases hfault
  · rintro ⟨hne, hcontinues, hdice, hsign⟩
    obtain ⟨terms, last, hrun⟩ :=
      exists_run_of_continues hcontinues (trimmed text)
    refine read_eq_error_iff.2 (.inr (.inr ⟨terms, last, ?_, hrun, conclude_eq_error_iff.2
      (.inr (.inl ⟨(waits_eq_false_iff hrun hwf).2 hsign, (groups_eq_nil_iff hrun hwf).2 hdice,
        rfl⟩))⟩))
    intro hnil
    rw [tokens, trimmed, hnil, Token.scan_nil] at hne
    exact hne rfl

/-- A sign is at fault alone only where it is the last token. -/
theorem exists_last_of_parse {s : Sign}
    (h : parse limits text = .error (.malformed (String.ofList [s.char]))) :
    ∃ t ∈ (tokens text).getLast?, t.lexeme = .sign s := by
  have hend : (Fault.malformed (String.ofList [s.char])).AtEnd := ⟨s, rfl⟩
  rcases parse_error_cases h with hempty | ⟨htoken, -⟩ | ⟨-, -, terms, last, hrun, hconclude⟩
  · cases hempty
  · exact absurd hend htoken.not_atEnd
  · rcases conclude_eq_error_iff.1 hconclude with ⟨position, s', rfl, hfault⟩ | ⟨-, -, hfault⟩ |
      ⟨-, -, -, hfault⟩
    · rw [Fault.malformed.injEq, String.ofList_inj, List.cons.injEq] at hfault
      have hs := congrArg Sign.ofChar? hfault.1
      rw [Sign.ofChar?_char, Sign.ofChar?_char, Option.some.injEq] at hs
      subst hs
      obtain ⟨t, ht, hsign, -⟩ := exists_last_of_run hrun fun t => Token.wellFormed_of_mem_scan
      exact ⟨t, ht, hsign⟩
    · cases hfault
    · cases hfault

/-- **Faults are reported at the earliest token.** A fault of a token is reported at the
first token with which the text is past saving, and names a piece of the text that ends
there. A fault of the end is reported only where the tokens can be continued, all of them
and as many as one takes; a single sign is one of these, and is the last token. Lacking
dice comes before the modifier: it is reported whatever the numbers come to, and a
modifier out of range only where there are dice. -/
theorem faults_earliest (hcount : 1 ≤ limits.maxCount) (hsides : 2 ≤ limits.maxSides)
    (hmodifier : 0 ≤ limits.maxModifier) (text : String) :
    (∀ fault, parse limits text = .error fault →
      (fault.AtToken → ∃ front t back, tokens text = front ++ t :: back ∧
        Settled limits text fault front t) ∧
      (fault.AtEnd → ∀ us, us <+: tokens text → Continues limits us)) ∧
    (∀ s : Sign, parse limits text = .error (.malformed (String.ofList [s.char])) →
      ∃ t ∈ (tokens text).getLast?, t.lexeme = .sign s) ∧
    (parse limits text = .error .noDice ↔ tokens text ≠ [] ∧ Continues limits (tokens text) ∧
      (∀ t ∈ tokens text, ∀ d, t.lexeme ≠ .die d) ∧
        ∀ t ∈ (tokens text).getLast?, ∀ s, t.lexeme ≠ .sign s) ∧
    ∀ value maximum, parse limits text = .error (.modifierOutOfRange value maximum) →
      ∃ t ∈ tokens text, ∃ d, t.lexeme = .die d := by
  refine ⟨fun fault h => ⟨settled_of_atToken hcount hsides hmodifier h, fun hend us hus => ?_⟩,
    fun s => exists_last_of_parse, parse_eq_noDice_iff hcount hsides hmodifier text,
    fun value maximum h => ?_⟩
  · rcases parse_error_cases h with rfl | ⟨htoken, -⟩ | ⟨-, -, terms, last, hrun, -⟩
    · cases hend
    · exact absurd hend htoken.not_atEnd
    · obtain ⟨terms', last', hprefix⟩ := run_of_prefix hrun hus
      exact continues_of_run hcount hsides hmodifier (beginsWith_trimmed text) hus hprefix
  · rcases parse_error_cases h with hempty | ⟨htoken, -⟩ | ⟨-, -, terms, last, hrun, hconclude⟩
    · cases hempty
    · cases htoken
    · rcases conclude_eq_error_iff.1 hconclude with ⟨_, _, -, hfault⟩ | ⟨-, -, hfault⟩ |
        ⟨-, hgroups, -⟩
      · cases hfault
      · cases hfault
      · refine Classical.byContradiction fun hno => hgroups ?_
        refine (groups_eq_nil_iff hrun fun t => Token.wellFormed_of_mem_scan).2 ?_
        intro t ht d hd
        exact hno ⟨t, ht, d, hd⟩

/-- A sign follows a sign: what stands behind the second one plays no part, and what stands
before it could have been continued. -/
theorem faults_earliest_at_second_sign :
    let limits : Limits := {}
    let text := " 2d6+ -3x"
    (1 ≤ limits.maxCount ∧ 2 ≤ limits.maxSides ∧ 0 ≤ limits.maxModifier) ∧
      parse limits text = .error (.malformed "+ -") ∧ (Fault.malformed "+ -").AtToken ∧
      ∃ front t back, tokens text = front ++ t :: back ∧
        Settled limits text (.malformed "+ -") front t := by
  intro limits text
  have hparse : parse limits text = .error (.malformed "+ -") := by decide +kernel
  have htoken : (Fault.malformed "+ -").AtToken := by
    intro s
    cases s <;> decide
  have hsettled := ((faults_earliest (by decide) (by decide) (by decide) text).1 _ hparse).1
  exact ⟨by decide, hparse, htoken, hsettled htoken⟩

end Expression

end Tabletop
