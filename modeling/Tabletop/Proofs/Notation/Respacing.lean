import Tabletop.Proofs.Notation.Earliest
import Tabletop.Proofs.Notation.Layout

/-!
# Respacing a notation

What a text says does not depend on its blanks, and neither does what is
wrong with it, but for the blanks in the fragment that is shown: it is told by
the lexemes (`Expression.read_alike`).

The gaps between the lexemes can then be changed at will where they leave the
lexemes as they are. That they do, as long as letters and digits are kept
apart, has one exception (`Respaces.isLayout`). The scanner looks across a gap
for the rest of a die, so a word that opens one, such as the first letter of
`d 6d8`, takes the count of the next die for its sides once a gap is put behind
that count.
-/

namespace Tabletop

open Text

variable {numeral : List Char → Nat} {limits : Limits} {text text' cs : List Char}

/-! ## Deleting blanks -/

theorem Text.withoutBlanks_append (xs ys : List Char) :
    withoutBlanks (xs ++ ys) = withoutBlanks xs ++ withoutBlanks ys :=
  List.filter_append xs ys

@[simp] theorem Gap.withoutBlanks_chars (g : Gap) : withoutBlanks g.chars = [] := by
  refine List.filter_eq_nil_iff.2 fun c hc => ?_
  rw [List.all_eq_true.1 g.all_blank c hc]
  exact Bool.false_ne_true

theorem Text.withoutBlanks_eq_self {cs : List Char} (h : ∀ c ∈ cs, isBlank c = false) :
    withoutBlanks cs = cs := by
  refine List.filter_eq_self.2 fun c hc => ?_
  rw [h c hc]
  rfl

theorem Text.withoutBlanks_cons {c : Char} (h : isBlank c = false) (cs : List Char) :
    withoutBlanks (c :: cs) = c :: withoutBlanks cs :=
  List.filter_cons_of_pos (by rw [h]; rfl)

theorem Text.withoutBlanks_digits {digits : List Char} (h : digits.all Char.isDigit = true) :
    withoutBlanks digits = digits :=
  withoutBlanks_eq_self fun c hc => isBlank_of_isDigit (List.all_eq_true.1 h c hc)

namespace DieText

/-- **A die without its blanks.** -/
def compact (d : DieText) : DieText :=
  { d with before := [], after := [] }

theorem compact_eq_iff {d d' : DieText} :
    d.compact = d'.compact ↔ d.count = d'.count ∧ d.letter = d'.letter ∧ d.sides = d'.sides := by
  simp [compact]

theorem withoutBlanks_chars {d : DieText} (h : d.WellFormed) :
    withoutBlanks d.chars = d.compact.chars := by
  simp only [chars, withoutBlanks_append, withoutBlanks_cons (isBlank_of_isDieLetter h.letter),
    withoutBlanks_digits h.count, withoutBlanks_digits h.sides.2,
    Gap.withoutBlanks_chars ⟨d.before, h.before⟩, Gap.withoutBlanks_chars ⟨d.after, h.after⟩]
  simp [compact]

end DieText

namespace Lexeme

/-- **A lexeme without its blanks.** Only dice hold any. -/
def compact : Lexeme → Lexeme
  | die d => die d.compact
  | l => l

/-- Lexemes that are equal but for blanks are two dice, or one lexeme. -/
theorem cases_of_compact {l l' : Lexeme} (h : l.compact = l'.compact) :
    (∃ d d', l = .die d ∧ l' = .die d' ∧ d.compact = d'.compact) ∨
      l = l' ∧ ∀ d, l ≠ .die d := by
  cases l with
  | die d =>
    cases l' with
    | die d' => exact .inl ⟨d, d', rfl, rfl, Lexeme.die.inj h⟩
    | _ => cases h
  | _ =>
    cases l'
    all_goals cases h
    all_goals exact .inr ⟨rfl, fun d hd => by cases hd⟩

theorem withoutBlanks_chars_congr {l l' : Lexeme} (h : l.compact = l'.compact)
    (hl : l.WellFormed) (hl' : l'.WellFormed) : withoutBlanks l.chars = withoutBlanks l'.chars := by
  rcases cases_of_compact h with ⟨d, d', rfl, rfl, hd⟩ | ⟨rfl, -⟩
  · rw [chars, chars, DieText.withoutBlanks_chars hl, DieText.withoutBlanks_chars hl', hd]
  · rfl

end Lexeme

/-! ## Readings that are alike -/

/-- A fault without the blanks of the fragment that it names. -/
def Fault.compact : Fault → Fault
  | malformed fragment => malformed (String.ofList (withoutBlanks fragment.toList))
  | countOutOfRange group count maximum =>
    countOutOfRange (String.ofList (withoutBlanks group.toList)) count maximum
  | sidesOutOfRange group sides maximum =>
    sidesOutOfRange (String.ofList (withoutBlanks group.toList)) sides maximum
  | fault => fault

/-- **Whether two readings are alike**: they succeed with what is related, or they fail with
the same fault but for the blanks of the fragment. -/
def Alike {α β : Type} (R : α → β → Prop) : Except Fault α → Except Fault β → Prop
  | .ok a, .ok b => R a b
  | .error fault, .error fault' => fault.compact = fault'.compact
  | _, _ => False

/-- What is done with alike results is alike. -/
theorem Alike.bind {α β γ δ : Type} {R : α → β → Prop} {S : γ → δ → Prop} {x : Except Fault α}
    {y : Except Fault β} {f : α → Except Fault γ} {g : β → Except Fault δ} (h : Alike R x y)
    (hfg : ∀ a b, x = .ok a → y = .ok b → R a b → Alike S (f a) (g b)) :
    Alike S (x >>= f) (y >>= g) := by
  cases x with
  | error fault =>
    cases y with
    | error fault' => exact h
    | ok b => exact h.elim
  | ok a =>
    cases y with
    | error fault' => exact h.elim
    | ok b => exact hfg a b rfl rfl h

namespace Preceding

/-- What stands before a token, but for its position. -/
def bare : Preceding → Preceding
  | sign _ s => sign 0 s
  | before => before

/-- The characters that a fragment begins with before the token itself. -/
def signChars : Preceding → List Char
  | sign _ s => [s.char]
  | _ => []

/-- **Whether what stands before a token ends a text**, but for blanks. -/
def Ends (front : List Char) : Preceding → Prop
  | sign position s => ∃ (head : List Char) (g : Gap), front = head ++ s.char :: g.chars ∧
      position = head.length
  | _ => True

end Preceding

/-- **The first token in its place**: it stands behind a gap, and the other tokens are those of
the text after it. -/
theorem Token.exists_placed_of_scan_eq_cons {start : Nat} {t : Token} {ts : List Token}
    (h : scan start cs = t :: ts) :
    ∃ (g : Gap) (rest : List Char), cs = g.chars ++ (t.chars ++ rest) ∧
      t.start = start + g.chars.length ∧ t.lexeme.WellFormed ∧ scan t.stop rest = ts := by
  obtain ⟨g, c, rest, rfl, -, rfl, hts⟩ := exists_read_of_scan_eq_cons h
  exact ⟨g, (Lexeme.read c rest).2, congrArg _ (Lexeme.chars_append_read c rest).symm, rfl,
    Lexeme.wellFormed_read c rest, hts.symm⟩

namespace Reading

/-- **The fragment from a sign to the token that it waits for**, without blanks, is the sign
and the token. -/
theorem withoutBlanks_slice {front rest : List Char} {g : Gap} {before : Preceding} {t : Token}
    (hbefore : before.Ends front) (htext : text = front ++ (g.chars ++ (t.chars ++ rest)))
    (hstart : t.start = front.length + g.chars.length) :
    withoutBlanks (slice text (before.fragmentStart t.start) t.stop) =
      before.signChars ++ withoutBlanks t.chars := by
  have hown : withoutBlanks (slice text t.start t.stop) = withoutBlanks t.chars := by
    have hslice := slice_append_append (front ++ g.chars) t.chars rest
    have hchars : text = front ++ g.chars ++ t.chars ++ rest := by
      rw [htext]
      simp only [List.append_assoc]
    rw [List.length_append, ← hstart] at hslice
    rw [hchars, Token.stop, hslice]
  cases before with
  | nothing => exact hown
  | term => exact hown
  | sign position s =>
    obtain ⟨head, gap, rfl, rfl⟩ := hbefore
    have hslice := slice_append_append head (s.char :: (gap.chars ++ (g.chars ++ t.chars))) rest
    have hstop : t.stop =
        head.length + (s.char :: (gap.chars ++ (g.chars ++ t.chars))).length := by
      simp only [Token.stop, hstart, List.length_append, List.length_cons]
      omega
    have hchars : text = head ++ s.char :: (gap.chars ++ (g.chars ++ t.chars)) ++ rest := by
      rw [htext]
      simp only [List.append_assoc, List.cons_append]
    show withoutBlanks (slice text head.length t.stop) = _
    rw [hstop, hchars, hslice, withoutBlanks_cons (isBlank_of_isSign (isSign_char s))]
    simp only [withoutBlanks_append, Gap.withoutBlanks_chars, List.nil_append]
    rfl

/-- The terms of two steps or runs are the same, and what stands last, but for its position. -/
def SameTerms {α : Type} (x y : α × Preceding) : Prop :=
  x.1 = y.1 ∧ x.2.bare = y.2.bare

/-- The group of a die does not depend on its blanks. -/
theorem group_alike {d d' : DieText} (hd : d.WellFormed) (hd' : d'.WellFormed)
    (h : d.compact = d'.compact) :
    Alike Eq (d.group numeral limits) (d'.group numeral limits) := by
  obtain ⟨hcount, -, hsides⟩ := DieText.compact_eq_iff.1 h
  have hvalue : d.countValue numeral = d'.countValue numeral := by
    rw [DieText.countValue, DieText.countValue, hcount]
  have hchars : String.ofList (withoutBlanks (String.ofList d.chars).toList) =
      String.ofList (withoutBlanks (String.ofList d'.chars).toList) := by
    rw [String.toList_ofList, String.toList_ofList, DieText.withoutBlanks_chars hd,
      DieText.withoutBlanks_chars hd', h]
  unfold DieText.group
  rw [hvalue, hsides]
  dsimp only
  split
  · show Fault.countOutOfRange _ _ _ = Fault.countOutOfRange _ _ _
    rw [hchars]
  · split
    · show Fault.sidesOutOfRange _ _ _ = Fault.sidesOutOfRange _ _ _
      rw [hchars]
    · rfl

/-- **Steps are alike** at tokens that are equal but for blanks, after the same. -/
theorem step_alike {before before' : Preceding} {t t' : Token}
    (hbefore : before.bare = before'.bare) (ht : t.lexeme.compact = t'.lexeme.compact)
    (hwf : t.lexeme.WellFormed) (hwf' : t'.lexeme.WellFormed)
    (hfragment : withoutBlanks (slice text (before.fragmentStart t.start) t.stop) =
      withoutBlanks (slice text' (before'.fragmentStart t'.start) t'.stop)) :
    Alike SameTerms (step numeral limits text before t) (step numeral limits text' before' t') := by
  have hfrom : Alike SameTerms
      (malformedFrom text before t : Except Fault (Option Term × Preceding))
      (malformedFrom text' before' t') := by
    show Fault.malformed _ = Fault.malformed _
    rw [String.toList_ofList, String.toList_ofList, hfragment]
  obtain ⟨start, lexeme⟩ := t
  obtain ⟨start', lexeme'⟩ := t'
  dsimp only at ht hwf hwf'
  rcases Lexeme.cases_of_compact ht with ⟨d, d', rfl, rfl, hd⟩ | ⟨rfl, hno⟩
  · have hgroup : Alike SameTerms
        (do return (some (Term.dice (← d.group numeral limits)), Preceding.term))
        (do return (some (Term.dice (← d'.group numeral limits)), Preceding.term)) :=
      (group_alike hwf hwf' hd).bind fun g g' _ _ hg => ⟨by rw [hg], rfl⟩
    cases before with
    | nothing =>
      cases before' <;> cases hbefore
      exact hgroup
    | term =>
      cases before' <;> cases hbefore
      show Fault.malformed _ = Fault.malformed _
      rw [String.toList_ofList, String.toList_ofList, DieText.withoutBlanks_chars hwf,
        DieText.withoutBlanks_chars hwf', hd]
    | sign position s =>
      cases before' <;> cases hbefore
      cases s with
      | plus => exact hgroup
      | minus => exact hfrom
  · cases lexeme with
    | die d => exact absurd rfl (hno d)
    | stray w => rfl
    | sign s =>
      cases before <;> cases before' <;> cases hbefore
      · exact ⟨rfl, rfl⟩
      · exact hfrom
      · exact ⟨rfl, rfl⟩
    | number digits =>
      cases before <;> cases before' <;> cases hbefore
      · exact ⟨rfl, rfl⟩
      · exact ⟨rfl, rfl⟩
      · rfl

/-! ### Runs in their texts -/

/-- **Whether a run stands in a text**: its tokens are those of what is left of the text, and
what stands before them ends what comes before. -/
def Stands (text : List Char) (before : Preceding) (ts : List Token) : Prop :=
  ∃ front cs, text = front ++ cs ∧ Token.scan front.length cs = ts ∧ before.Ends front

theorem Stands.wellFormed {before : Preceding} {t : Token} {ts : List Token}
    (h : Stands text before (t :: ts)) : t.lexeme.WellFormed := by
  obtain ⟨front, cs, -, hscan, -⟩ := h
  exact Token.wellFormed_of_mem_scan (hscan ▸ List.mem_cons_self)

theorem Stands.withoutBlanks_fragment {before : Preceding} {t : Token} {ts : List Token}
    (h : Stands text before (t :: ts)) :
    withoutBlanks (slice text (before.fragmentStart t.start) t.stop) =
      before.signChars ++ withoutBlanks t.chars := by
  obtain ⟨front, cs, htext, hscan, hends⟩ := h
  obtain ⟨g, rest, rfl, hstart, -, -⟩ := Token.exists_placed_of_scan_eq_cons hscan
  exact withoutBlanks_slice hends htext hstart

/-- **A step leaves a run that stands in the text.** -/
theorem Stands.step {before next : Preceding} {t : Token} {ts : List Token} {term : Option Term}
    (h : Stands text before (t :: ts))
    (hstep : Reading.step numeral limits text before t = .ok (term, next)) :
    Stands text next ts := by
  obtain ⟨front, cs, htext, hscan, -⟩ := h
  obtain ⟨g, rest, rfl, hstart, hwf, hrest⟩ := Token.exists_placed_of_scan_eq_cons hscan
  refine ⟨front ++ g.chars ++ t.chars, rest, by simp only [htext, List.append_assoc], ?_, ?_⟩
  · rw [List.length_append, List.length_append, ← hstart]
    exact hrest
  · rw [step_next hstep hwf, Token.after]
    split
    · next s hs =>
      refine ⟨front ++ g.chars, .empty, ?_, by rw [hstart, List.length_append]⟩
      rw [Token.chars, hs]
      rfl
    · trivial

/-- **A run leaves a run that stands in the text.** -/
theorem Stands.run {before last : Preceding} {ts us : List Token} {terms : List Term}
    (h : Stands text before (ts ++ us))
    (hrun : Reading.run numeral limits text before ts = .ok (terms, last)) :
    Stands text last us := by
  induction ts generalizing before terms with
  | nil =>
    cases hrun
    exact h
  | cons t ts ih =>
    obtain ⟨term, next, more, hstep, hmore, -⟩ := run_cons_eq_ok_iff.1 hrun
    exact ih (h.step hstep) hmore

/-- **Runs are alike** over tokens that are equal but for blanks, after the same. -/
theorem run_alike {before before' : Preceding} {ts ts' : List Token} (hts : Stands text before ts)
    (hts' : Stands text' before' ts') (hbefore : before.bare = before'.bare)
    (h : ts.map (fun t => t.lexeme.compact) = ts'.map fun t => t.lexeme.compact) :
    Alike SameTerms (run numeral limits text before ts) (run numeral limits text' before' ts') := by
  induction ts generalizing ts' before before' with
  | nil =>
    obtain rfl : ts' = [] := List.map_eq_nil_iff.1 h.symm
    exact ⟨rfl, hbefore⟩
  | cons t ts ih =>
    obtain ⟨t', ts', rfl⟩ : ∃ t' us, ts' = t' :: us := by
      cases ts' with
      | nil => cases h
      | cons t' us => exact ⟨t', us, rfl⟩
    rw [List.map_cons, List.map_cons, List.cons.injEq] at h
    have hsigns : before.signChars = before'.signChars := by
      cases before <;> cases before' <;> cases hbefore <;> rfl
    have hfragment : withoutBlanks (slice text (before.fragmentStart t.start) t.stop) =
        withoutBlanks (slice text' (before'.fragmentStart t'.start) t'.stop) := by
      rw [hts.withoutBlanks_fragment, hts'.withoutBlanks_fragment, hsigns, Token.chars, Token.chars,
        Lexeme.withoutBlanks_chars_congr h.1 hts.wellFormed hts'.wellFormed]
    have hstep : Alike SameTerms (Reading.step numeral limits text before t)
        (Reading.step numeral limits text' before' t') :=
      step_alike hbefore h.1 hts.wellFormed hts'.wellFormed hfragment
    refine hstep.bind fun x x' hx hx' hxx' => ?_
    refine (ih (hts.step hx) (hts'.step hx') hxx'.2 h.2).bind fun y y' _ _ hyy' => ⟨?_, hyy'.2⟩
    dsimp only
    rw [hxx'.1, hyy'.1]

/-- **Conclusions are alike** from the same terms, with the same last. -/
theorem conclude_alike {terms : List Term} {last last' : Preceding} (h : last.bare = last'.bare) :
    Alike (fun e e' : Expression => e.groups = e'.groups ∧ e.modifier = e'.modifier)
      (conclude limits text terms last) (conclude limits text' terms last') := by
  have hsettled : Alike (fun e e' : Expression => e.groups = e'.groups ∧ e.modifier = e'.modifier)
      (conclude limits text terms .term) (conclude limits text' terms .term) := by
    unfold conclude
    dsimp only
    split
    · rfl
    · split
      · rfl
      · exact ⟨rfl, rfl⟩
  cases last <;> cases last' <;> cases h
  · exact hsettled
  · rfl
  · exact hsettled

end Reading

namespace Expression

/-- **Whether two readings say the same**: two expressions with the same groups and modifier,
or two faults of the same kind, with the same numbers and the same fragment but for blanks. -/
def SameReading : Except Fault Expression → Except Fault Expression → Prop :=
  Alike fun e e' => e.groups = e'.groups ∧ e.modifier = e'.modifier

theorem map_lexeme_tokens (text : String) :
    (tokens text).map Token.lexeme = Token.lexemes text.toList := by
  obtain ⟨lead, trail, hlead, htrail, htext⟩ := exists_append_strip isBlank text.toList
  have h := Token.lexemes_append_gap ⟨trail, htrail⟩ (lead ++ strip isBlank text.toList)
  rw [← htext, Token.lexemes_gap ⟨lead, hlead⟩] at h
  exact h.symm

theorem stands_tokens (text : String) :
    Reading.Stands (trimmed text) .nothing (tokens text) :=
  ⟨[], trimmed text, rfl, rfl, trivial⟩

/-- **Texts with the same lexemes, but for blanks, say the same.** -/
theorem read_alike {text text' : String} (h : (Token.lexemes text.toList).map Lexeme.compact =
      (Token.lexemes text'.toList).map Lexeme.compact) :
    SameReading (read numeral limits text) (read numeral limits text') := by
  rw [← map_lexeme_tokens, ← map_lexeme_tokens, List.map_map, List.map_map] at h
  have hempty (text : String) : (trimmed text).isEmpty = true ↔ tokens text = [] := by
    rw [List.isEmpty_iff]
    refine ⟨fun hnil => ?_, fun hnil => Classical.byContradiction fun hne => tokens_ne_nil hne hnil⟩
    rw [tokens, hnil, Token.scan_nil]
  unfold read
  dsimp only
  rw [← trimmed, ← trimmed]
  by_cases hnil : tokens text = []
  · have hnil' : tokens text' = [] := by
      rw [hnil, List.map_nil, eq_comm, List.map_eq_nil_iff] at h
      exact h
    rw [if_pos ((hempty text).2 hnil), if_pos ((hempty text').2 hnil')]
    rfl
  · have hnil' : tokens text' ≠ [] := fun hnil' => by
      rw [hnil', List.map_nil, List.map_eq_nil_iff] at h
      exact hnil h
    rw [if_neg (mt (hempty text).1 hnil), if_neg (mt (hempty text').1 hnil')]
    refine (Reading.run_alike (stands_tokens text) (stands_tokens text') rfl h).bind
      fun x x' _ _ hxx' => ?_
    obtain ⟨terms, last⟩ := x
    obtain ⟨terms', last'⟩ := x'
    obtain ⟨rfl, hlast⟩ := hxx'
    exact Reading.conclude_alike hlast

end Expression

/-! ## Respacing -/

/-- **Whether pieces respace a text**: they are its lexemes, with gaps of any size before
them and on either side of the letter of a die, but none where two letters or digits would
run into each other. -/
structure Respaces (text : String) (ps : List Piece) : Prop where
  /-- The lexemes are those of the text, but for blanks. -/
  lexemes : ps.map (fun p => p.lexeme.compact) = (Token.lexemes text.toList).map Lexeme.compact
  /-- Only blanks are put into dice. Before the letter of a die without a count they are in
  the gap before the die. -/
  dice : ∀ p ∈ ps, ∀ d, p.lexeme = .die d →
    d.before.all isBlank = true ∧ d.after.all isBlank = true ∧ (d.count = [] → d.before = [])
  /-- Letters and digits are kept apart. -/
  apart : ps.IsChain fun p q => p.lexeme.Touches q.lexeme → q.gap.chars ≠ []

/-- Whether a lexeme is a word that opens a die and does not go on with one. -/
def Lexeme.Dangles : Lexeme → Prop
  | stray w => DieText.IsOpening w
  | _ => False

/-- **Whether counts stay with their dice**: no gap is between the count and the letter of a
die that follows a word which opens one. -/
def KeepsCounts (ps : List Piece) : Prop :=
  ps.IsChain fun p q => p.lexeme.Dangles → ∀ d, q.lexeme = .die d → d.count ≠ [] → d.before = []

namespace Respaces

variable {p q : Piece} {ps qs : List Piece}

/-- A lexeme that can be read can be read with other blanks. -/
theorem whole_of_compact {l l' : Lexeme} (h : l.compact = l'.compact) (hwhole : l'.Whole)
    (hdice : ∀ d, l = .die d →
      d.before.all isBlank = true ∧ d.after.all isBlank = true ∧ (d.count = [] → d.before = [])) :
    l.Whole := by
  rcases Lexeme.cases_of_compact h with ⟨d, d', rfl, rfl, hd⟩ | ⟨rfl, -⟩
  · obtain ⟨hcount, hletter, hsides⟩ := DieText.compact_eq_iff.1 hd
    obtain ⟨hbefore, hafter, hindent⟩ := hdice d rfl
    cases hwhole with
    | die hd' =>
      refine .die ⟨?_, hbefore, ?_, hafter, ?_⟩ hindent
      · rw [hcount]
        exact hd'.count
      · rw [hletter]
        exact hd'.letter
      · rw [hsides]
        exact hd'.sides
  · exact hwhole

/-- Lexemes that are not joined are not joined with other blanks, unless those are put
between the count and the letter of a die, behind a word that opens one. -/
theorem not_joins_of_compact {l₁ l₂ l₁' l₂' : Lexeme} (h₁ : l₁.compact = l₁'.compact)
    (h₂ : l₂.compact = l₂'.compact) (hjoins : ¬l₁'.Joins l₂')
    (hkeeps : l₁.Dangles → ∀ d, l₂ = .die d → d.count ≠ [] → d.before = []) : ¬l₁.Joins l₂ := by
  intro h
  rcases Lexeme.cases_of_compact h₁ with ⟨d, d', rfl, rfl, -⟩ | ⟨rfl, -⟩
  · exact h
  · refine hjoins ?_
    rcases Lexeme.cases_of_compact h₂ with ⟨d, d', rfl, rfl, hd⟩ | ⟨rfl, -⟩
    · obtain ⟨hcount, -, -⟩ := DieText.compact_eq_iff.1 hd
      cases l₁ with
      | number digits =>
        have hnone : d.count = [] := h
        exact hcount.symm.trans hnone
      | stray w => exact absurd (hkeeps h.1 d rfl h.2.1) h.2.2
      | die => exact h
      | sign => exact h
    · exact h

/-- **Other blanks make a layout of a layout.** -/
theorem isLayout (h : ps.map (fun p => p.lexeme.compact) = qs.map fun q => q.lexeme.compact)
    (hqs : IsLayout qs)
    (hdice : ∀ p ∈ ps, ∀ d, p.lexeme = .die d →
      d.before.all isBlank = true ∧ d.after.all isBlank = true ∧ (d.count = [] → d.before = []))
    (hapart : ps.IsChain fun p q => p.lexeme.Touches q.lexeme → q.gap.chars ≠ [])
    (hkeeps : KeepsCounts ps) : IsLayout ps := by
  induction ps generalizing qs with
  | nil => exact ⟨List.forall_mem_nil _, .nil⟩
  | cons p ps ih =>
    cases qs with
    | nil => cases h
    | cons q qs =>
      rw [List.map_cons, List.map_cons, List.cons.injEq] at h
      rw [List.forall_mem_cons] at hdice
      obtain ⟨hwhole, hmeets, hlayout⟩ := IsLayout.cons_iff.1 hqs
      have hapart' := List.isChain_cons.1 hapart
      have hkeeps' := List.isChain_cons.1 hkeeps
      refine IsLayout.cons_iff.2 ⟨whole_of_compact h.1 hwhole hdice.1, fun p' hp' => ?_,
        ih h.2 hlayout hdice.2 hapart'.2 hkeeps'.2⟩
      refine ⟨hapart'.1 p' hp', ?_⟩
      have hq' : ∃ q' ∈ qs.head?, p'.lexeme.compact = q'.lexeme.compact := by
        have hhead := congrArg List.head? h.2
        rw [List.head?_map, List.head?_map, Option.mem_def.1 hp', Option.map_some, eq_comm,
          Option.map_eq_some_iff] at hhead
        obtain ⟨q', hq', hcompact⟩ := hhead
        exact ⟨q', hq', hcompact.symm⟩
      obtain ⟨q', hq', hcompact⟩ := hq'
      exact not_joins_of_compact h.1 hcompact (hmeets q' hq').unjoined (hkeeps'.1 p' hp')

/-- A text is a respacing of itself, in which counts stay with their dice. -/
theorem exists_self (text : String) :
    ∃ ps trail, Respaces text ps ∧ KeepsCounts ps ∧ text.toList = spelled ps trail := by
  obtain ⟨ps, trail, hps, htext, hlexemes⟩ := Token.exists_layout text.toList
  refine ⟨ps, trail, ⟨?_, fun p hp d hd => ?_, ?_⟩, ?_, htext⟩
  · rw [← hlexemes, List.map_map]
    rfl
  · have hwhole := hps.whole p hp
    rw [hd] at hwhole
    cases hwhole with
    | die hd hindent => exact ⟨hd.before, hd.after, hindent⟩
  · exact hps.chain.imp fun p q hmeets => hmeets.apart
  · refine hps.chain.imp fun p q hmeets hdangles d hd hcount => ?_
    refine Classical.byContradiction fun hbefore => hmeets.unjoined ?_
    rw [hd]
    cases hp : p.lexeme with
    | stray w =>
      rw [hp] at hdangles
      exact ⟨hdangles, hcount, hbefore⟩
    | _ =>
      rw [hp] at hdangles
      exact hdangles.elim

end Respaces

namespace Expression

/-- **Layout goes unseen.** A text says the same with other gaps before, between and behind
its lexemes and within its dice, as long as letters and digits are kept apart and no gap is
opened between the count and the letter of a die that follows a word which opens one. -/
theorem layout_unseen (limits : Limits) {text : String} {ps : List Piece} (h : Respaces text ps)
    (hkeeps : KeepsCounts ps) (trail : Gap) :
    SameReading (parse limits text) (parse limits (String.ofList (spelled ps trail))) := by
  obtain ⟨qs, -, hqs, -, hlexemes⟩ := Token.exists_layout text.toList
  have hcompact : ps.map (fun p => p.lexeme.compact) = qs.map fun q => q.lexeme.compact := by
    rw [h.lexemes, ← hlexemes, List.map_map]
    rfl
  have hps := Respaces.isLayout hcompact hqs h.dice h.apart hkeeps
  refine read_alike ?_
  rw [String.toList_ofList, hps.lexemes_spelled, ← h.lexemes, List.map_map]
  rfl

/-- A sum with spaces everywhere, also around the letter of its die. -/
theorem layout_unseen_with_spaces :
    let text := "2d6+3"
    let ps : List Piece := [⟨Reading.space, .die ⟨['2'], [' '], 'd', [' '], ['6']⟩⟩,
      ⟨Reading.space, .sign .plus⟩, ⟨Reading.space, .number ['3']⟩]
    Respaces text ps ∧ KeepsCounts ps ∧
      SameReading (parse {} text) (parse {} (String.ofList (spelled ps Reading.space))) := by
  intro text ps
  have hblank : isBlank ' ' = true := by decide
  have hrespaces : Respaces text ps :=
    ⟨by decide +kernel, by simp [ps, hblank], by simp [ps, Reading.space]⟩
  have hkeeps : KeepsCounts ps := by simp [ps, KeepsCounts, Lexeme.Dangles]
  exact ⟨hrespaces, hkeeps, layout_unseen {} hrespaces hkeeps Reading.space⟩

/-- **Layout shows behind a word that opens a die.** The word and the die behind it are at
fault for the word; with a gap between the count of that die and its letter, the count is
taken for the sides of the word, and what is left of the die is at fault. -/
theorem layout_seen :
    let text := "d 6d8"
    let ps : List Piece := [⟨.empty, .stray ['d']⟩,
      ⟨Reading.space, .die ⟨['6'], [' '], 'd', [], ['8']⟩⟩]
    Respaces text ps ∧ String.ofList (spelled ps .empty) = "d 6 d8" ∧
      parse {} text = .error (.malformed "d") ∧ parse {} "d 6 d8" = .error (.malformed "d8") ∧
      ¬SameReading (parse {} text) (parse {} "d 6 d8") := by
  intro text ps
  have hblank : isBlank ' ' = true := by decide
  have hread : parse {} text = .error (.malformed "d") := by decide +kernel
  have hread' : parse {} "d 6 d8" = .error (.malformed "d8") := by decide +kernel
  refine ⟨⟨by decide +kernel, by simp [ps, hblank], by simp [ps, Reading.space]⟩,
    by decide +kernel, hread, hread', ?_⟩
  rw [hread, hread']
  show ¬Fault.malformed _ = Fault.malformed _
  decide +kernel

end Expression

end Tabletop
