import Tabletop.Proofs.Notation.Occurrence

/-!
# The tokens partition their text

Whether a word is part of a die is decided by looking ahead over blanks, and yet
no token begins or ends inside a run (`Token.not_splits_start`,
`Token.not_splits_stop`). So a run that no die holds is a token of its own.

Not every die that occurs is a token, since the scanner takes them from the left
(`Token.taken_dieRanges`). Still no run of one that occurs is left out
(`Token.exists_die_holds_of_occurs`): a die before it can only take its count
away, and without a count it is a die as well. The laws of a partition are put
together in `Token.scan_partitions`.
-/

namespace Tabletop

open Text

variable {text : List Char} {start stop i : Nat}

namespace Token

variable {t u : Token} {c : Char} {cs : List Char}

/-- Whether a token holds a position. -/
def Holds (t : Token) (i : Nat) : Prop :=
  t.start ≤ i ∧ i < t.stop

/-- Whether a token is a die. -/
def IsDie (t : Token) : Prop :=
  ∃ d, t.lexeme = .die d

/-- **A token cuts its text in three**: what precedes it, what it holds, and the text that
it is read before. -/
theorem exists_reads_of_mem_scan (h : t ∈ scan 0 text) :
    ∃ before after, text = before ++ (t.chars ++ after) ∧ t.start = before.length ∧
      t.lexeme.Reads after := by
  obtain ⟨before, c, rest, rfl, hblank, rfl⟩ := exists_read_of_mem_scan h
  exact ⟨before, (Lexeme.read c rest).2, congrArg _ (Lexeme.chars_append_read c rest).symm,
    Nat.zero_add _, Lexeme.reads_read hblank rest⟩

/-- There are no more tokens than characters. -/
theorem length_scan_le (start : Nat) (cs : List Char) : (scan start cs).length ≤ cs.length := by
  fun_induction scan start cs with
  | case1 => exact Nat.le_refl 0
  | case2 start c cs hc ih => exact Nat.le_succ_of_le ih
  | case3 start c cs hc piece ih =>
    have hlt := Lexeme.length_read_lt c cs
    rw [List.length_cons]
    exact Nat.lt_of_le_of_lt ih hlt

/-! ### Every character is held once -/

/-- **No character is dropped**: a token holds every one that is no blank. -/
theorem exists_holds_of_isBlank (start : Nat) (cs : List Char) (hblank : isBlank c = false) :
    ∀ i, cs[i]? = some c → ∃ t ∈ scan start cs, t.Holds (start + i) := by
  fun_induction scan start cs with
  | case1 =>
    intro i hc
    cases hc
  | case2 start b cs hb ih =>
    intro i hc
    cases i with
    | zero =>
      rw [List.getElem?_cons_zero, Option.some.injEq] at hc
      rw [hc, hblank] at hb
      cases hb
    | succ i =>
      obtain ⟨t, ht, hholds⟩ := ih i hc
      rw [Nat.add_assoc, Nat.add_comm 1] at hholds
      exact ⟨t, ht, hholds⟩
  | case3 start b cs hb piece ih =>
    intro i hc
    by_cases hi : i < piece.1.chars.length
    · exact ⟨_, List.mem_cons_self, Nat.le_add_right _ _, Nat.add_lt_add_left hi start⟩
    · rw [Nat.not_lt] at hi
      rw [← Lexeme.chars_append_read b cs, List.getElem?_append_right hi] at hc
      obtain ⟨t, ht, hholds⟩ := ih _ hc
      rw [Nat.add_assoc, Nat.add_sub_cancel' hi] at hholds
      exact ⟨t, List.mem_cons_of_mem _ ht, hholds⟩

theorem exists_mem_scan_holds (hc : text[i]? = some c) (hblank : isBlank c = false) :
    ∃ t ∈ scan 0 text, t.Holds i := by
  have h := exists_holds_of_isBlank 0 text hblank i hc
  rwa [Nat.zero_add] at h

/-- **Two tokens that hold one position** are the same. -/
theorem eq_of_holds (ht : t ∈ scan 0 text) (hu : u ∈ scan 0 text) (hti : t.Holds i)
    (hui : u.Holds i) : t = u :=
  eq_of_apart (pairwise_scan 0 text) ht hu hti hui

theorem exists_mem_chars_of_holds (ht : t ∈ scan 0 text) (hi : t.Holds i) :
    ∃ c ∈ t.chars, text[i]? = some c := by
  obtain ⟨before, after, rfl, hstart, -⟩ := exists_reads_of_mem_scan ht
  rw [Holds, stop, hstart] at hi
  exact exists_mem_getElem? hi.1 hi.2

/-! ### No run is split -/

/-- **No token ends inside a run.** -/
theorem not_splits_stop (ht : t ∈ scan 0 text) : ¬Splits text t.stop := by
  obtain ⟨before, after, rfl, hstart, hreads⟩ := exists_reads_of_mem_scan ht
  rw [stop, hstart, chars, ← List.length_append, ← List.append_assoc, splits_append,
    List.reverse_append, beginsWith_append (List.reverse_ne_nil_iff.2 hreads.ne_nil)]
  rintro ⟨hend, hafter⟩
  rw [hreads.apart hend] at hafter
  cases hafter

theorem holds_of_alnum {k : Nat} (ht : t ∈ scan 0 text) (hi : t.Holds i) (hik : i ≤ k)
    (halnum : ∀ j, i ≤ j → j < k + 1 → AlnumAt text j) : t.Holds k :=
  ⟨Nat.le_trans hi.1 hik, Nat.lt_of_not_le fun hstop =>
    not_splits_stop ht (splits_of_alnum halnum hi.2 (Nat.lt_succ_of_le hstop))⟩

/-- Inside a token that is no die every position splits a run. -/
theorem splits_of_holds (ht : t ∈ scan 0 text) (hdie : ¬t.IsDie) (hi : t.Holds i)
    (hne : t.start ≠ i) : Splits text i := by
  obtain ⟨_, _, -, -, hreads⟩ := exists_reads_of_mem_scan ht
  obtain ⟨hstart, hstop⟩ := hi
  rcases hreads.cases with ⟨d, hd, -⟩ | ⟨s, hs⟩ | ⟨c, hc, -⟩ | ⟨hall, -⟩
  · exact absurd ⟨d, hd⟩ hdie
  · rw [stop, chars, hs, Lexeme.chars, List.length_singleton] at hstop
    omega
  · rw [stop, chars, hc, Lexeme.chars, List.length_singleton] at hstop
    omega
  · have halnum (j : Nat) (hj : t.start ≤ j) (hj' : j < t.stop) : AlnumAt text j := by
      obtain ⟨c, hc, htext⟩ := exists_mem_chars_of_holds ht ⟨hj, hj'⟩
      exact ⟨c, htext, List.all_eq_true.1 hall c hc⟩
    exact splits_of_alnum halnum (Nat.lt_of_le_of_ne hstart hne) hstop

/-- **Where no run is split** a token begins, unless a die holds the position. -/
theorem start_eq_of_holds (ht : t ∈ scan 0 text) (hdie : ¬t.IsDie) (hi : t.Holds i)
    (hwhole : ¬Splits text i) : t.start = i :=
  Classical.not_not.1 fun hne => hwhole (splits_of_holds ht hdie hi hne)

theorem exists_holds_of_alnumAt (h : AlnumAt text i) : ∃ t ∈ scan 0 text, t.Holds i := by
  obtain ⟨c, hc, halnum⟩ := h
  exact exists_mem_scan_holds hc (DieText.isBlank_of_isAlphanum halnum)

/-- The token that holds the first character of a run holds all of it. -/
theorem stop_le_of_isRun (hrun : IsRun text start stop) (ht : t ∈ scan 0 text)
    (hi : t.Holds start) : stop ≤ t.stop := by
  obtain ⟨last, rfl⟩ : ∃ last, stop = last + 1 := ⟨stop - 1, by have := hrun.lt; omega⟩
  exact (holds_of_alnum ht hi (Nat.le_of_lt_succ hrun.lt) hrun.alnum).2

/-! ### Runs and marks of their own -/

/-- **A token that holds a letter or digit** is a word if it is no die: a number if it is
digits, and meaningless if not. -/
theorem lexeme_eq_of_alnumAt (ht : t ∈ scan 0 text) (hdie : ¬t.IsDie) (hi : t.Holds i)
    (halnum : AlnumAt text i) :
    t.lexeme = if t.chars.all Char.isDigit then .number t.chars else .stray t.chars := by
  obtain ⟨c, hmem, hc⟩ := exists_mem_chars_of_holds ht hi
  obtain ⟨c', hc', halnum⟩ := halnum
  obtain rfl := Option.some.inj (hc.symm.trans hc')
  obtain ⟨_, _, -, -, hreads⟩ := exists_reads_of_mem_scan ht
  rcases hreads.cases with ⟨d, hd, -⟩ | ⟨s, hs⟩ | ⟨m, hm, -, hmark, -⟩ | ⟨-, hword, -⟩
  · exact absurd ⟨d, hd⟩ hdie
  · rw [chars, hs, Lexeme.chars, List.mem_singleton] at hmem
    rw [hmem, isAlphanum_of_isSign (isSign_char s)] at halnum
    cases halnum
  · rw [chars, hm, Lexeme.chars, List.mem_singleton] at hmem
    rw [hmem, hmark] at halnum
    cases halnum
  · exact hword

/-- **A token that holds any other character** is that character, if it is no die: a sign if
it is one, and meaningless if not. -/
theorem lexeme_eq_of_mark (ht : t ∈ scan 0 text) (hdie : ¬t.IsDie) (hi : t.Holds i)
    (hc : text[i]? = some c) (halnum : c.isAlphanum = false) :
    t.lexeme = if c = '+' then .sign .plus else if c = '-' then .sign .minus else .stray [c] := by
  obtain ⟨c', hmem, hc'⟩ := exists_mem_chars_of_holds ht hi
  obtain rfl := Option.some.inj (hc.symm.trans hc')
  obtain ⟨_, _, -, -, hreads⟩ := exists_reads_of_mem_scan ht
  rcases hreads.cases with ⟨d, hd, -⟩ | ⟨s, hs⟩ | ⟨m, hm, -, -, hsign⟩ | ⟨hall, -⟩
  · exact absurd ⟨d, hd⟩ hdie
  · rw [chars, hs, Lexeme.chars, List.mem_singleton] at hmem
    rw [hs, hmem]
    cases s <;> rfl
  · rw [chars, hm, Lexeme.chars, List.mem_singleton] at hmem
    rw [← hmem, isSign, Bool.or_eq_false_iff, beq_eq_false_iff_ne, beq_eq_false_iff_ne] at hsign
    rw [hm, ← hmem, if_neg hsign.1, if_neg hsign.2]
  · rw [List.all_eq_true.1 hall c hmem] at halnum
    cases halnum

/-- A die holds letters, digits and blanks only. -/
theorem not_isDie_of_mark (ht : t ∈ scan 0 text) (hi : t.Holds i) (hc : text[i]? = some c)
    (hblank : isBlank c = false) (halnum : c.isAlphanum = false) : ¬t.IsDie := by
  rintro ⟨d, hd⟩
  obtain ⟨c', hmem, hc'⟩ := exists_mem_chars_of_holds ht hi
  obtain rfl := Option.some.inj (hc.symm.trans hc')
  have hwf := wellFormed_of_mem_scan ht
  rw [hd] at hwf
  rw [chars, hd] at hmem
  rcases DieText.cases_of_mem hwf hmem with h | h | h
  · rw [isAlphanum_of_isDigit h] at halnum
    cases halnum
  · rw [hblank] at h
    cases h
  · rw [isAlphanum_of_isDieLetter h] at halnum
    cases halnum

/-- **A run that no die holds is a token.** -/
theorem mem_scan_of_isRun (hrun : IsRun text start stop)
    (hdice : ∀ t ∈ scan 0 text, t.IsDie → ¬(t.start ≤ start ∧ stop ≤ t.stop)) :
    ⟨start, if (slice text start stop).all Char.isDigit then .number (slice text start stop)
      else .stray (slice text start stop)⟩ ∈ scan 0 text := by
  have halnum := hrun.alnum start (Nat.le_refl _) hrun.lt
  obtain ⟨t, ht, hi⟩ := exists_holds_of_alnumAt halnum
  have hle := stop_le_of_isRun hrun ht hi
  have hdie : ¬t.IsDie := fun h => hdice t ht h ⟨hi.1, hle⟩
  have hlexeme := lexeme_eq_of_alnumAt ht hdie hi halnum
  obtain rfl : t.start = start := start_eq_of_holds ht hdie hi hrun.start_whole
  obtain rfl : t.stop = stop := by
    refine Nat.le_antisymm (Nat.le_of_not_lt fun hlong => ?_) hle
    exact hrun.stop_whole
      (splits_of_holds ht hdie ⟨Nat.le_of_lt hrun.lt, hlong⟩ (Nat.ne_of_lt hrun.lt))
  rw [slice_of_mem_scan ht, ← hlexeme]
  exact ht

/-- **Any other character is a token**, if it is no blank. -/
theorem mem_scan_of_mark (hc : text[i]? = some c) (hblank : isBlank c = false)
    (halnum : c.isAlphanum = false) :
    ⟨i, if c = '+' then .sign .plus else if c = '-' then .sign .minus else .stray [c]⟩ ∈
      scan 0 text := by
  obtain ⟨t, ht, hi⟩ := exists_mem_scan_holds hc hblank
  have hdie := not_isDie_of_mark ht hi hc hblank halnum
  have hwhole : ¬Splits text i := by
    rintro ⟨-, -, -, c', hc', halnum'⟩
    rw [← Option.some.inj (hc.symm.trans hc'), halnum] at halnum'
    cases halnum'
  have hlexeme := lexeme_eq_of_mark ht hdie hi hc halnum
  obtain rfl : t.start = i := start_eq_of_holds ht hdie hi hwhole
  rw [← hlexeme]
  exact ht

/-! ### Dice -/

/-- **No token begins inside a run.** -/
theorem not_splits_start (ht : t ∈ scan 0 text) : ¬Splits text t.start := by
  rintro ⟨j, hj, hlast, hfirst⟩
  obtain ⟨u, hu, hholds⟩ := exists_holds_of_alnumAt hlast
  have hnext : u.Holds t.start := by
    refine holds_of_alnum hu hholds (by omega) fun k hk hk' => ?_
    rcases Nat.eq_or_lt_of_le hk with rfl | hlt
    · exact hlast
    · rwa [show k = t.start by omega]
  obtain rfl := eq_of_holds hu ht hnext ⟨Nat.le_refl _, start_lt_stop ht⟩
  have := hholds.1
  omega

/-- **A die that is a token occurs.** -/
theorem occurs_of_isDie (ht : t ∈ scan 0 text) (hdie : t.IsDie) :
    DieText.Occurs text t.start t.stop := by
  obtain ⟨d, hd⟩ := hdie
  have hwhole := not_splits_start ht
  obtain ⟨before, after, rfl, hstart, hreads⟩ := exists_reads_of_mem_scan ht
  have hchars : t.chars = d.chars := by rw [chars, hd, Lexeme.chars]
  rw [hstart, hchars] at hwhole
  rw [hd] at hreads
  obtain ⟨hd', hrest⟩ := hreads.whole_die
  exact DieText.occurs_iff.2 ⟨before, d, after, ⟨hd', hwhole, hrest⟩, by rw [hchars], hstart,
    by rw [stop, hstart, hchars]⟩

/-- **Where a die occurs a die is read**, unless one before it holds the place. -/
theorem exists_die_holds_start (h : DieText.Occurs text start stop) :
    ∃ t ∈ scan 0 text, t.IsDie ∧ t.Holds start := by
  obtain ⟨before, d, after, hs, rfl, rfl, rfl⟩ := DieText.occurs_iff.1 h
  obtain ⟨c, cs, hchars, hblank⟩ := hs.whole.exists_cons
  have hc : (before ++ (d.chars ++ after))[before.length]? = some c := by
    have hchars' : d.chars = c :: cs := hchars
    simp [hchars']
  obtain ⟨t, ht, hholds⟩ := exists_mem_scan_holds hc hblank
  refine ⟨t, ht, Classical.not_not.1 fun hdie => hdie ?_, hholds⟩
  have hstart := start_eq_of_holds ht hdie hholds hs.before
  obtain ⟨front, rest, htext, hfront, hreads⟩ := exists_reads_of_mem_scan ht
  obtain ⟨-, hback⟩ := List.append_inj htext (hstart.symm.trans hfront)
  exact ⟨d, ((Lexeme.reads_die hs.whole hs.after).unique hreads hback).1.symm⟩

/-- A die is read at the letter of one that stands whole. -/
theorem exists_die_holds_letter {before after : List Char} {d : DieText}
    (hs : DieText.Stands before d after) : ∃ t ∈ scan 0 (before ++ (d.chars ++ after)),
      t.IsDie ∧ t.Holds (before ++ d.count ++ d.before).length := by
  by_cases hbefore : d.before = []
  · -- the letter ends the run that the count begins
    have hd := hs.wellFormed
    have hrun : (d.count ++ [d.letter]).all Char.isAlphanum = true := by
      rw [List.all_append, all_isAlphanum_of_isDigit hd.count, List.all_cons,
        isAlphanum_of_isDieLetter hd.letter]
      rfl
    have hchars : d.chars ++ after =
        (d.count ++ [d.letter]) ++ (d.after ++ (d.sides ++ after)) := by
      rw [DieText.chars_append, hbefore, List.nil_append, List.append_assoc, List.singleton_append]
    obtain ⟨t, ht, hdie, hholds⟩ :=
      exists_die_holds_start (DieText.occurs_iff.2 ⟨before, d, after, hs, rfl, rfl, rfl⟩)
    rw [hbefore, List.append_nil, List.length_append]
    refine ⟨t, ht, hdie, holds_of_alnum ht hholds (Nat.le_add_right _ _) fun j hj hj' => ?_⟩
    rw [hchars]
    exact alnumAt_of_all hrun hj (by rwa [List.length_append, List.length_singleton])
  · rw [← DieText.append_fromLetter_append]
    exact exists_die_holds_start
      (DieText.occurs_iff.2 ⟨_, _, _, hs.fromLetter hbefore, rfl, rfl, rfl⟩)

/-- **No run of a die that occurs is left out**: a die that is read holds each of its letters
and digits. -/
theorem exists_die_holds_of_occurs (h : DieText.Occurs text start stop) (hstart : start ≤ i)
    (hstop : i < stop) (halnum : AlnumAt text i) :
    ∃ t ∈ scan 0 text, t.IsDie ∧ t.Holds i := by
  obtain ⟨t, ht, htdie, hcount⟩ := exists_die_holds_start h
  obtain ⟨before, d, after, hs, rfl, rfl, rfl⟩ := DieText.occurs_iff.1 h
  have hd := hs.wellFormed
  rcases Nat.lt_or_ge i (before.length + d.count.length) with hi | hi
  · -- the die that holds the first digit of the count holds all of it
    refine ⟨t, ht, htdie, holds_of_alnum ht hcount hstart fun j hj hj' => ?_⟩
    rw [DieText.chars_append]
    exact alnumAt_of_all (all_isAlphanum_of_isDigit hd.count) hj (by omega)
  rcases Nat.lt_or_ge i (before ++ d.count ++ d.before).length with hi' | hi'
  · -- behind the count stand blanks
    rw [List.length_append] at hi'
    obtain ⟨c, hc, htext⟩ := exists_mem_getElem? (by rwa [List.length_append]) hi'
    obtain ⟨c', htext', hc'⟩ := halnum
    rw [DieText.chars_append, ← List.append_assoc, htext, Option.some.injEq] at htext'
    rw [← htext', isAlphanum_of_isBlank (List.all_eq_true.1 hd.before c hc)] at hc'
    cases hc'
  · -- the die that holds the letter ends where this one does
    obtain ⟨u, hu, hudie, hletter⟩ := exists_die_holds_letter hs
    obtain ⟨front, d', rest, hs', htext, hustart, hustop⟩ :=
      DieText.occurs_iff.1 (occurs_of_isDie hu hudie)
    have hend := hs.stop_eq hs' htext (hustart ▸ hletter.1) (hustop ▸ hletter.2)
    exact ⟨u, hu, hudie, Nat.le_trans hletter.1 hi', by rwa [hustop, ← hend]⟩

/-! ## The laws of a partition -/

/-- The positions of a token that is a die. -/
def dieRange? (t : Token) : Option (Nat × Nat) :=
  match t.lexeme with
  | .die _ => some (t.start, t.stop)
  | _ => none

/-- A die has its own positions. -/
theorem dieRange?_eq_some_iff {r : Nat × Nat} :
    t.dieRange? = some r ↔ t.IsDie ∧ (t.start, t.stop) = r := by
  unfold dieRange? IsDie
  split
  · next d hd => simp [hd]
  · next hnone =>
    refine iff_of_false (fun h => by cases h) ?_
    rintro ⟨⟨d, hd⟩, -⟩
    exact hnone d hd

/-- **The dice that are read** are those taken from the left. -/
theorem taken_dieRanges (text : List Char) :
    DieText.Taken text 0 ((scan 0 text).filterMap dieRange?) := by
  refine DieText.taken_of_pairwise (fun r hr => ?_) ?_ fun start stop _ h => ?_
  · obtain ⟨t, ht, hrange⟩ := List.mem_filterMap.1 hr
    obtain ⟨hdie, rfl⟩ := dieRange?_eq_some_iff.1 hrange
    exact ⟨Nat.zero_le _, occurs_of_isDie ht hdie⟩
  · rw [List.pairwise_filterMap]
    refine (pairwise_scan 0 text).imp fun {t u} hapart r hr r' hr' => ?_
    obtain ⟨-, rfl⟩ := dieRange?_eq_some_iff.1 hr
    obtain ⟨-, rfl⟩ := dieRange?_eq_some_iff.1 hr'
    exact hapart
  · obtain ⟨t, ht, hdie, hholds⟩ := exists_die_holds_start h
    exact ⟨_, List.mem_filterMap.2 ⟨t, ht, dieRange?_eq_some_iff.2 ⟨hdie, rfl⟩⟩, hholds⟩

/-- Of two dice that share a run the first one takes it. -/
example : (scan 0 ['d', ' ', '6', ' ', 'd', '8']).filterMap dieRange? = [(0, 3), (4, 6)] := by
  decide +kernel

/-- A run lies inside a die that is read exactly if it lies inside one taken from the left. -/
theorem exists_die_iff_taken :
    (∃ t ∈ scan 0 text, t.IsDie ∧ t.start ≤ start ∧ stop ≤ t.stop) ↔
      ∃ ranges, DieText.Taken text 0 ranges ∧ ∃ r ∈ ranges, r.1 ≤ start ∧ stop ≤ r.2 := by
  constructor
  · rintro ⟨t, ht, hdie, hinside⟩
    exact ⟨_, taken_dieRanges text, (t.start, t.stop),
      List.mem_filterMap.2 ⟨t, ht, dieRange?_eq_some_iff.2 ⟨hdie, rfl⟩⟩, hinside⟩
  · rintro ⟨ranges, htaken, r, hr, hinside⟩
    rw [htaken.unique (taken_dieRanges text)] at hr
    obtain ⟨t, ht, hrange⟩ := List.mem_filterMap.1 hr
    obtain ⟨hdie, rfl⟩ := dieRange?_eq_some_iff.1 hrange
    exact ⟨t, ht, hdie, hinside⟩

/-- **A run lies inside a die that is read** exactly if it lies inside any that occurs. -/
theorem exists_die_iff_occurs (hrun : IsRun text start stop) :
    (∃ t ∈ scan 0 text, t.IsDie ∧ t.start ≤ start ∧ stop ≤ t.stop) ↔
      ∃ start' stop', DieText.Occurs text start' stop' ∧ start' ≤ start ∧ stop ≤ stop' := by
  constructor
  · rintro ⟨t, ht, hdie, hinside⟩
    exact ⟨t.start, t.stop, occurs_of_isDie ht hdie, hinside⟩
  · rintro ⟨start', stop', h, hstart, hstop⟩
    obtain ⟨t, ht, hdie, hholds⟩ := exists_die_holds_of_occurs h hstart
      (Nat.lt_of_lt_of_le hrun.lt hstop) (hrun.alnum start (Nat.le_refl _) hrun.lt)
    exact ⟨t, ht, hdie, hholds.1, stop_le_of_isRun hrun ht hholds⟩

theorem existsUnique_holds (hc : text[i]? = some c) (hblank : isBlank c = false) :
    ∃! t, t ∈ scan 0 text ∧ t.Holds i := by
  obtain ⟨t, ht, hholds⟩ := exists_mem_scan_holds hc hblank
  exact ⟨t, ⟨ht, hholds⟩, fun u hu => eq_of_holds hu.1 ht hu.2 hholds⟩

/-- A run lies inside exactly one token. -/
theorem existsUnique_of_isRun (hrun : IsRun text start stop) :
    ∃! t, t ∈ scan 0 text ∧ t.start ≤ start ∧ stop ≤ t.stop := by
  have hlt := hrun.lt
  obtain ⟨t, ht, hholds⟩ := exists_holds_of_alnumAt (hrun.alnum start (Nat.le_refl _) hlt)
  refine ⟨t, ⟨ht, hholds.1, stop_le_of_isRun hrun ht hholds⟩, ?_⟩
  rintro u ⟨hu, hstart, hstop⟩
  exact eq_of_holds hu ht ⟨hstart, Nat.lt_of_lt_of_le hlt hstop⟩ hholds

/-- **Tokens that partition a text**: they stand apart, hold every character but blanks and
no run in part; dice are taken from the left, and every run and every character that no die
holds is a token of its own. -/
structure Partitions (text : List Char) (ts : List Token) : Prop where
  /-- There are no more of them than characters, so that reading them comes to an end. -/
  length_le : ts.length ≤ text.length
  /-- They stand one behind the other. -/
  apart : ts.Pairwise fun t u => t.start < u.start ∧ t.stop ≤ u.start
  /-- Each holds the piece of the text that stands in its place. -/
  piece : ∀ t ∈ ts, t.start < t.stop ∧ t.stop ≤ text.length ∧
    t.chars = slice text t.start (t.start + t.chars.length)
  /-- None begins with a blank. -/
  begins : ∀ t ∈ ts, ∃ c, text[t.start]? = some c ∧ isBlank c = false
  /-- Every character that is no blank is held by exactly one of them. -/
  held : ∀ i c, text[i]? = some c → isBlank c = false → ∃! t, t ∈ ts ∧ t.Holds i
  /-- What none of them holds is blank. -/
  blank : ∀ i c, text[i]? = some c → (∀ t ∈ ts, ¬t.Holds i) → isBlank c = true
  /-- Every run lies inside exactly one of them. -/
  run : ∀ start stop, IsRun text start stop → ∃! t, t ∈ ts ∧ t.start ≤ start ∧ stop ≤ t.stop
  /-- The dice are those taken from the left. -/
  dice : ∀ ranges, DieText.Taken text 0 ranges ↔ ranges = ts.filterMap dieRange?
  /-- A run lies inside a die exactly if it lies inside one taken from the left. -/
  taken : ∀ start stop, IsRun text start stop →
    ((∃ t ∈ ts, t.IsDie ∧ t.start ≤ start ∧ stop ≤ t.stop) ↔
      ∃ ranges, DieText.Taken text 0 ranges ∧ ∃ r ∈ ranges, r.1 ≤ start ∧ stop ≤ r.2)
  /-- That is so exactly if it lies inside any die that occurs. -/
  occurs : ∀ start stop, IsRun text start stop →
    ((∃ t ∈ ts, t.IsDie ∧ t.start ≤ start ∧ stop ≤ t.stop) ↔
      ∃ start' stop', DieText.Occurs text start' stop' ∧ start' ≤ start ∧ stop ≤ stop')
  /-- Any other run is a token of its own, a number if it is digits. -/
  word : ∀ start stop, IsRun text start stop →
    (∀ t ∈ ts, t.IsDie → ¬(t.start ≤ start ∧ stop ≤ t.stop)) →
      ⟨start, if (slice text start stop).all Char.isDigit then .number (slice text start stop)
        else .stray (slice text start stop)⟩ ∈ ts
  /-- So is any character that is neither a blank nor a letter or digit, a sign if it is one. -/
  mark : ∀ i c, text[i]? = some c → isBlank c = false → c.isAlphanum = false →
    ⟨i, if c = '+' then .sign .plus else if c = '-' then .sign .minus else .stray [c]⟩ ∈ ts

/-- **The tokens of a text partition it.** -/
theorem scan_partitions (text : List Char) : Partitions text (scan 0 text) where
  length_le := length_scan_le 0 text
  apart := by
    refine (pairwise_scan 0 text).imp_of_mem fun {t u} ht _ hapart => ⟨?_, hapart⟩
    exact Nat.lt_of_lt_of_le (start_lt_stop ht) hapart
  piece _ ht := ⟨start_lt_stop ht, stop_le ht, (slice_of_mem_scan ht).symm⟩
  begins t ht := by
    obtain ⟨before, c, rest, rfl, hblank, rfl⟩ := exists_read_of_mem_scan ht
    exact ⟨c, by simp, hblank⟩
  held _ _ := existsUnique_holds
  blank i c hc hnone := by
    by_contra hblank
    rw [Bool.not_eq_true] at hblank
    obtain ⟨t, ht, hholds⟩ := exists_mem_scan_holds hc hblank
    exact hnone t ht hholds
  run _ _ := existsUnique_of_isRun
  dice ranges := ⟨fun h => h.unique (taken_dieRanges text), fun h => h ▸ taken_dieRanges text⟩
  taken _ _ _ := exists_die_iff_taken
  occurs _ _ := exists_die_iff_occurs
  word _ _ := mem_scan_of_isRun
  mark _ _ := mem_scan_of_mark

end Token

end Tabletop
