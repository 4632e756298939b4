import Tabletop.Proofs.Prose.Phrase

/-!
# The spans of a text are its maximal free phrases

A phrase **occurs** at two positions of a text if it is what stands between
them and no letter or number touches it on either side. The spans of a text
are occurrences, apart from each other and from left to right, and every
occurrence lies inside exactly one of them (`Prose.exists_span_iff`),
so nothing is missed, and no span can be made longer.

Spans are searched for from left to right, and what has been passed counts
only by its last character. So everything is said of a text in two parts,
what has been passed and what is left: `Prose.mem_spansFrom` says where the
spans of the second part stand, and `Prose.exists_span_of_stands` that none
of its phrases is missed.
-/

namespace Tabletop.Prose

open Text

/-! ## Occurrences -/

/-- **A phrase occurs at two positions** of a text: it is the piece between
them, and no letter or number stands directly before or after it. -/
structure Occurs (text : List Char) (start stop : Nat) : Prop where
  /-- The positions are ones of the text. -/
  stop_le : stop ≤ text.length
  /-- The piece between them is a phrase. -/
  phrase : IsPhrase (slice text start stop)
  /-- No letter or number stands before it. -/
  before : ∀ i c, i + 1 = start → text[i]? = some c → isAlphanumeric c = false
  /-- No letter or number stands after it. -/
  after : ∀ c, text[stop]? = some c → isAlphanumeric c = false

/-- **A phrase stands free** between what precedes and what follows it. -/
structure Stands (before piece after : List Char) : Prop where
  /-- The piece is a phrase. -/
  phrase : IsPhrase piece
  /-- What precedes ends in no letter or number. -/
  before : Free before.reverse
  /-- What follows begins with no letter or number. -/
  after : Free after

/-- A text is free if its first character is no letter or number. -/
theorem free_iff {cs : List Char} :
    Free cs ↔ ∀ c, cs[0]? = some c → isAlphanumeric c = false := by
  cases cs with
  | nil => exact ⟨fun _ c h => (by cases h), fun _ => rfl⟩
  | cons c cs =>
    constructor
    · rintro h c' ⟨⟩
      exact h
    · intro h
      exact h c rfl

theorem Free.of_append {xs ys : List Char} (h : Free (xs ++ ys)) : Free xs := by
  cases xs with
  | nil => rfl
  | cons x xs => exact h

/-- The front of a text ends in no letter or number if the character before the
cut is none. -/
theorem free_reverse_take {text : List Char} {start : Nat} (h : start ≤ text.length) :
    Free (text.take start).reverse ↔
      ∀ i c, i + 1 = start → text[i]? = some c → isAlphanumeric c = false := by
  cases start with
  | zero => exact ⟨fun _ i c hi => (by cases hi), fun _ => rfl⟩
  | succ n =>
    have hn : text[n]? = some text[n] := List.getElem?_eq_getElem h
    have hreverse : (text.take (n + 1)).reverse = text[n] :: (text.take n).reverse := by
      rw [List.take_succ_eq_append_getElem h, List.reverse_append]
      rfl
    rw [hreverse]
    constructor
    · rintro hfree i c ⟨⟩ hc
      rw [hn, Option.some.injEq] at hc
      rw [← hc]
      exact hfree
    · intro hc
      exact hc n text[n] rfl hn

/-- A phrase occurs where it stands free. -/
theorem occurs_append_iff {before piece after : List Char} :
    Occurs (before ++ (piece ++ after)) before.length (before.length + piece.length) ↔
      Stands before piece after := by
  have hslice : slice (before ++ (piece ++ after)) before.length (before.length + piece.length) =
      piece := by
    rw [← List.append_assoc, slice_append_append]
  have hle : before.length ≤ (before ++ (piece ++ after)).length := by
    rw [List.length_append]
    omega
  have hfront := free_reverse_take hle
  have hdrop : (before ++ (piece ++ after)).drop (before.length + piece.length) = after := by
    rw [← List.append_assoc, ← List.length_append, List.drop_left]
  have hback : Free after ↔ ∀ c, ((before ++ (piece ++ after)).drop
      (before.length + piece.length))[0]? = some c → isAlphanumeric c = false := by
    rw [hdrop, free_iff]
  rw [List.take_left] at hfront
  rw [List.getElem?_drop, Nat.add_zero] at hback
  constructor
  · rintro ⟨-, hphrase, hbefore, hafter⟩
    exact ⟨hslice ▸ hphrase, hfront.2 hbefore, hback.2 hafter⟩
  · rintro ⟨hphrase, hbefore, hafter⟩
    refine ⟨?_, hslice.symm ▸ hphrase, hfront.1 hbefore, hback.1 hafter⟩
    simp only [List.length_append]
    omega

/-- **An occurrence cuts its text in three**: what precedes a phrase, the phrase
standing free, and what follows it. -/
theorem occurs_iff {text : List Char} {start stop : Nat} :
    Occurs text start stop ↔ ∃ before piece after, Stands before piece after ∧
      text = before ++ (piece ++ after) ∧ start = before.length ∧
      stop = before.length + piece.length := by
  constructor
  · intro h
    have hne : slice text start stop ≠ [] := by
      obtain ⟨c, rest, hc, -⟩ := h.phrase.exists_cons
      rw [hc]
      exact List.cons_ne_nil c rest
    obtain ⟨before, after, htext, hstart, hstop⟩ := exists_append_of_slice rfl hne h.stop_le
    refine ⟨before, _, after, occurs_append_iff.1 ?_, htext, hstart, hstop⟩
    rwa [← htext, ← hstop, ← hstart]
  · rintro ⟨before, piece, after, hstands, rfl, rfl, rfl⟩
    exact occurs_append_iff.2 hstands

/-! ## Where the spans stand -/

variable {start : Nat} {free : Bool} {cs before : List Char}

/-- What has been passed, as the search keeps it: how long it is, and whether it
ends in no letter or number. -/
structure Passed (before : List Char) (start : Nat) (free : Bool) : Prop where
  /-- The position of what is left. -/
  start : start = before.length
  /-- What is left may begin a span, if what has been passed leaves it free. -/
  free : free = true ↔ Free before.reverse

theorem Passed.phrase (hp : Passed before start free) {piece : List Char} (h : IsPhrase piece) :
    Passed (before ++ piece) (start + piece.length) false := by
  refine ⟨?_, ?_⟩
  · rw [List.length_append, hp.start]
  · rw [Free, h.beginsWith_reverse before]
    exact ⟨fun h => h.symm, fun h => h.symm⟩

theorem Passed.char (hp : Passed before start free) (c : Char) :
    Passed (before ++ [c]) (start + 1) (!isAlphanumeric c) := by
  refine ⟨?_, ?_⟩
  · rw [List.length_append, hp.start]
    rfl
  · rw [Free, List.reverse_append, Bool.not_eq_true']
    rfl

theorem freePhrase?_eq_some_iff {found : List Char × List Char} :
    freePhrase? free cs = some found ↔ free = true ∧ phrase? cs = some found := by
  unfold freePhrase?
  cases free with
  | false => simp
  | true => simp

theorem stands_of_freePhrase? {piece rest : List Char}
    (h : freePhrase? free cs = some (piece, rest)) (hp : Passed before start free) :
    Stands before piece rest ∧ cs = piece ++ rest := by
  obtain ⟨rfl, hread⟩ := freePhrase?_eq_some_iff.1 h
  obtain ⟨hphrase, happend, hrest⟩ := isPhrase_of_phrase? hread
  exact ⟨⟨hphrase, hp.free.1 rfl, hrest⟩, happend⟩

/-- **Where the spans stand**: at their positions, free, behind what has been
passed. -/
theorem mem_spansFrom (hp : Passed before start free) {x : Span}
    (hx : x ∈ spansFrom start free cs) :
    ∃ pre after, Stands pre x.chars after ∧ before ++ cs = pre ++ (x.chars ++ after) ∧
      x.start = pre.length ∧ start ≤ x.start := by
  fun_induction spansFrom start free cs generalizing before with
  | case1 => cases hx
  -- the search goes on behind the phrase that it found, or behind one character
  | case2 start free c cs piece rest h ih =>
    obtain ⟨hstands, happend⟩ := stands_of_freePhrase? h hp
    rw [happend]
    rcases List.mem_cons.1 hx with rfl | hx
    · exact ⟨before, rest, hstands, rfl, hp.start, Nat.le_refl _⟩
    · obtain ⟨pre, after, hpre, htext, hxstart, hle⟩ := ih (hp.phrase hstands.phrase) hx
      exact ⟨pre, after, hpre, by rw [← htext, List.append_assoc], hxstart, by omega⟩
  | case3 start free c cs h ih =>
    obtain ⟨pre, after, hpre, htext, hxstart, hle⟩ := ih (hp.char c) hx
    exact ⟨pre, after, hpre, by rw [← htext, List.append_assoc]; rfl, hxstart, by omega⟩

/-- **The spans lie apart**, from left to right. -/
theorem pairwise_spansFrom (hp : Passed before start free) :
    (spansFrom start free cs).Pairwise fun x y => x.start < y.start ∧ x.stop ≤ y.start := by
  fun_induction spansFrom start free cs generalizing before with
  | case1 => exact List.Pairwise.nil
  | case2 start free c cs piece rest h ih =>
    have hphrase := (stands_of_freePhrase? h hp).1.phrase
    have hpos : 0 < piece.length := by
      obtain ⟨c, rest, rfl, -⟩ := hphrase.exists_cons
      exact Nat.succ_pos _
    refine List.pairwise_cons.2 ⟨fun y hy => ?_, ih (hp.phrase hphrase)⟩
    obtain ⟨pre, after, -, -, -, hle⟩ := mem_spansFrom (hp.phrase hphrase) hy
    show start < y.start ∧ start + piece.length ≤ y.start
    omega
  | case3 start free c cs h ih => exact ih (hp.char c)

/-! ## No phrase is missed -/

/-- **Every phrase that stands free lies inside a span**, if it begins in what
is left. -/
theorem exists_span_of_stands (hp : Passed before start free) {pre piece after : List Char}
    (hstands : Stands (before ++ pre) piece after) (hcs : cs = pre ++ (piece ++ after)) :
    ∃ x ∈ spansFrom start free cs, x.start ≤ start + pre.length ∧
      start + pre.length + piece.length ≤ x.stop := by
  fun_induction spansFrom start free cs generalizing before pre with
  | case1 start free =>
    obtain ⟨c, rest, rfl, -⟩ := hstands.phrase.exists_cons
    simp at hcs
  | case2 start free c cs found rest h ih =>
    obtain ⟨hfound, happend⟩ := stands_of_freePhrase? h hp
    rw [happend] at hcs
    rcases List.append_eq_append_iff.1 hcs with ⟨pre', rfl, hrest⟩ | ⟨inner, rfl, hinner⟩
    · -- the phrase begins behind the span
      rw [← List.append_assoc] at hstands
      obtain ⟨x, hx, hstart, hstop⟩ := ih (hp.phrase hfound.phrase) hstands hrest
      refine ⟨x, List.mem_cons_of_mem _ hx, ?_⟩
      rw [List.length_append]
      omega
    · -- the phrase begins inside the span, so the span goes as far as it does
      have hne : inner ≠ [] := by
        rintro rfl
        have hlast := hfound.phrase.beginsWith_reverse before
        rw [List.append_nil, hstands.before] at hlast
        cases hlast
      have hbegin : beginsWith isAlphanumeric inner = true := by
        obtain ⟨d, tail, rfl, hd⟩ := hstands.phrase.exists_cons
        rw [← beginsWith_append hne, ← hinner]
        exact hd
      have hpre : Free pre.reverse := Free.of_append (by
        rw [← List.reverse_append]
        exact hstands.before)
      obtain ⟨longest, rest', hread, hprefix⟩ :=
        exists_phrase? (hfound.phrase.graft hpre hbegin hstands.phrase) hstands.after
      rw [happend, List.append_assoc, ← hinner, ← List.append_assoc,
        freePhrase?_eq_some_iff] at h
      rw [h.2, Option.some.injEq, Prod.mk.injEq] at hread
      refine ⟨⟨start, pre ++ inner⟩, List.mem_cons_self, Nat.le_add_right _ _, ?_⟩
      have hlength := hprefix.length_le
      rw [← hread.1, List.length_append] at hlength
      show start + pre.length + piece.length ≤ start + (pre ++ inner).length
      omega
  | case3 start free c cs h ih =>
    cases pre with
    | nil =>
      -- nothing hinders the phrase from being read here
      rw [List.append_nil] at hstands
      obtain ⟨longest, rest, hread, -⟩ := exists_phrase? hstands.phrase hstands.after
      rw [List.nil_append] at hcs
      rw [hcs, freePhrase?_eq_some_iff.2 ⟨hp.free.2 hstands.before, hread⟩] at h
      cases h
    | cons c' pre =>
      rw [List.cons_append, List.cons.injEq] at hcs
      obtain ⟨rfl, hcs⟩ := hcs
      rw [List.append_cons] at hstands
      obtain ⟨x, hx, hstart, hstop⟩ := ih (hp.char c) hstands hcs
      refine ⟨x, hx, ?_⟩
      rw [List.length_cons]
      omega

/-! ## The spans of a whole text -/

theorem passed_nil : Passed [] 0 true :=
  ⟨rfl, fun _ => rfl, fun _ => rfl⟩

/-- **A span is an occurrence**, with the text between its positions. -/
theorem occurs_of_mem_spans {text : String} {x : Span} (hx : x ∈ spans text) :
    Occurs text.toList x.start x.stop ∧ x.chars = slice text.toList x.start x.stop := by
  obtain ⟨pre, after, hstands, htext, hstart, -⟩ := mem_spansFrom passed_nil hx
  rw [List.nil_append] at htext
  have hstop : x.stop = pre.length + x.chars.length := by rw [Span.stop, hstart]
  refine ⟨occurs_iff.2 ⟨pre, x.chars, after, hstands, htext, hstart, hstop⟩, ?_⟩
  rw [htext, hstop, hstart, ← List.append_assoc, slice_append_append]

/-- Every occurrence lies inside a span. -/
theorem exists_span_of_occurs {text : String} {start stop : Nat}
    (h : Occurs text.toList start stop) :
    ∃ x ∈ spans text, x.start ≤ start ∧ stop ≤ x.stop := by
  obtain ⟨before, piece, after, hstands, htext, rfl, rfl⟩ := occurs_iff.1 h
  obtain ⟨x, hx, hle, hstop⟩ := exists_span_of_stands passed_nil hstands htext
  exact ⟨x, hx, by omega, by omega⟩

theorem Occurs.lt {text : List Char} {start stop : Nat} (h : Occurs text start stop) :
    start < stop := by
  obtain ⟨before, piece, after, hstands, -, rfl, rfl⟩ := occurs_iff.1 h
  obtain ⟨c, rest, rfl, -⟩ := hstands.phrase.exists_cons
  rw [List.length_cons]
  omega

/-- Two spans that a piece of the text lies inside are one. -/
theorem eq_of_mem_spans {text : String} {x y : Span} (hx : x ∈ spans text) (hy : y ∈ spans text)
    {start stop : Nat} (hlt : start < stop) (hxs : x.start ≤ start ∧ stop ≤ x.stop)
    (hys : y.start ≤ start ∧ stop ≤ y.stop) : x = y := by
  have hpair : (spans text).Pairwise fun x y => x.start < y.start ∧ x.stop ≤ y.start :=
    pairwise_spansFrom passed_nil
  exact eq_of_apart (hpair.imp And.right) hx hy ⟨hxs.1, Nat.lt_of_lt_of_le hlt hxs.2⟩
    ⟨hys.1, Nat.lt_of_lt_of_le hlt hys.2⟩

/-- An occurrence is a span exactly if it lies inside no other one. -/
theorem exists_span_iff {text : String} {start stop : Nat} :
    (∃ x ∈ spans text, x.start = start ∧ x.stop = stop) ↔
      Occurs text.toList start stop ∧ ∀ start' stop', Occurs text.toList start' stop' →
        start' ≤ start → stop ≤ stop' → start' = start ∧ stop' = stop := by
  constructor
  · rintro ⟨x, hx, rfl, rfl⟩
    have hoccurs := (occurs_of_mem_spans hx).1
    refine ⟨hoccurs, fun start' stop' h' hstart hstop => ?_⟩
    obtain ⟨y, hy, hle, hge⟩ := exists_span_of_occurs h'
    have hxy : x = y :=
      eq_of_mem_spans hx hy hoccurs.lt ⟨Nat.le_refl _, Nat.le_refl _⟩ ⟨by omega, by omega⟩
    rw [hxy] at hstart hstop ⊢
    exact ⟨by omega, by omega⟩
  · rintro ⟨hoccurs, hmax⟩
    obtain ⟨x, hx, hle, hge⟩ := exists_span_of_occurs hoccurs
    exact ⟨x, hx, hmax x.start x.stop (occurs_of_mem_spans hx).1 hle hge⟩

/-- **The spans of a text are its maximal occurrences.** They lie apart from
left to right, each is an occurrence and holds the text between its
positions, every occurrence lies inside exactly one of them, and an
occurrence is one of them exactly if it lies inside no other occurrence. -/
theorem spans_maximal (text : String) :
    (spans text).Pairwise (fun x y => x.start < y.start ∧ x.stop ≤ y.start) ∧
      (∀ x ∈ spans text, Occurs text.toList x.start x.stop ∧
        x.text = String.ofList (slice text.toList x.start x.stop)) ∧
      (∀ start stop, Occurs text.toList start stop →
        ∃ x ∈ spans text, (x.start ≤ start ∧ stop ≤ x.stop) ∧
          ∀ y ∈ spans text, y.start ≤ start ∧ stop ≤ y.stop → y = x) ∧
      ∀ start stop, (∃ x ∈ spans text, x.start = start ∧ x.stop = stop) ↔
        Occurs text.toList start stop ∧ ∀ start' stop', Occurs text.toList start' stop' →
          start' ≤ start → stop ≤ stop' → start' = start ∧ stop' = stop := by
  refine ⟨pairwise_spansFrom passed_nil, fun x hx => ?_, fun start stop h => ?_,
    fun start stop => exists_span_iff⟩
  · obtain ⟨hoccurs, hchars⟩ := occurs_of_mem_spans hx
    exact ⟨hoccurs, congrArg String.ofList hchars⟩
  · obtain ⟨x, hx, hinside⟩ := exists_span_of_occurs h
    exact ⟨x, hx, hinside, fun y hy hys => eq_of_mem_spans hy hx h.lt hys hinside⟩

/-- The spans of a text in which a term touches a word: the first one stops
before the sign of that term. -/
theorem spans_maximal_before_word :
    ⟨0, ['1', 'd', '2', '0']⟩ ∈ spans "1d20+5x, d6 - 2" ∧
      Occurs "1d20+5x, d6 - 2".toList 0 4 ∧ Occurs "1d20+5x, d6 - 2".toList 9 11 ∧
      ∃ x ∈ spans "1d20+5x, d6 - 2", (x.start ≤ 9 ∧ 11 ≤ x.stop) ∧
        ∀ y ∈ spans "1d20+5x, d6 - 2", y.start ≤ 9 ∧ 11 ≤ y.stop → y = x := by
  have hspans : spans "1d20+5x, d6 - 2" =
      [⟨0, ['1', 'd', '2', '0']⟩, ⟨9, ['d', '6', ' ', '-', ' ', '2']⟩] := by decide +kernel
  have hmem : ⟨0, ['1', 'd', '2', '0']⟩ ∈ spans "1d20+5x, d6 - 2" := by
    rw [hspans]
    exact List.mem_cons_self
  have hinner : Occurs "1d20+5x, d6 - 2".toList 9 11 := by
    refine ⟨by decide, ⟨['d', '6'], [], by decide, ?_, fun t ht => by cases ht⟩, ?_, ?_⟩
    · exact ⟨[], 'd', ['6'], rfl, rfl, rfl, by decide⟩
    · rintro i c ⟨⟩ ⟨⟩
      decide
    · rintro c ⟨⟩
      decide
  exact ⟨hmem, ((spans_maximal _).2.1 _ hmem).1, hinner, (spans_maximal _).2.2.1 9 11 hinner⟩

end Tabletop.Prose
