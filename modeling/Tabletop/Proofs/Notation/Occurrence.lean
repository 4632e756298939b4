import Tabletop.Proofs.Notation.Layout

/-!
# Runs, and where dice occur

A **run** is letters and digits side by side, as many as there are. A die may
hold blanks and so reach over three of them. It **occurs** between two positions
of a text if it is what stands there and neither of them splits a run.

Two dice that occur may share a run: in `d 6 d8` the `6` is the sides of one and
the count of another. Where a die begins decides where it ends
(`DieText.Occurs.stop_unique`), and so does its letter alone
(`DieText.Stands.stop_eq`): what a die loses to another one is its count at most.
So the dice that are **taken from the left** are determined by the text
(`DieText.Taken.unique`).
-/

namespace Tabletop

open Text

variable {text : List Char} {start stop i : Nat}

/-! ## Runs -/

/-- Whether a letter or digit stands at a position. -/
def AlnumAt (text : List Char) (i : Nat) : Prop :=
  ∃ c, text[i]? = some c ∧ c.isAlphanum = true

/-- **Whether a position splits a run**: letters or digits stand on both sides of it. -/
def Splits (text : List Char) (i : Nat) : Prop :=
  ∃ j, j + 1 = i ∧ AlnumAt text j ∧ AlnumAt text i

/-- **A run**: letters and digits between two positions, and none next to them. -/
structure IsRun (text : List Char) (start stop : Nat) : Prop where
  /-- It is not empty. -/
  lt : start < stop
  /-- It is letters and digits. -/
  alnum : ∀ i, start ≤ i → i < stop → AlnumAt text i
  /-- It does not begin inside a longer one. -/
  start_whole : ¬Splits text start
  /-- It does not end inside a longer one. -/
  stop_whole : ¬Splits text stop

theorem splits_of_alnum (h : ∀ i, start ≤ i → i < stop → AlnumAt text i) (hstart : start < i)
    (hstop : i < stop) : Splits text i :=
  ⟨i - 1, by omega, h (i - 1) (by omega) (by omega), h i (Nat.le_of_lt hstart) hstop⟩

theorem alnumAt_of_all {before piece after : List Char} (h : piece.all Char.isAlphanum = true)
    (hle : before.length ≤ i) (hlt : i < before.length + piece.length) :
    AlnumAt (before ++ (piece ++ after)) i := by
  obtain ⟨c, hc, htext⟩ := exists_mem_getElem? hle hlt
  exact ⟨c, htext, List.all_eq_true.1 h c hc⟩

theorem alnumAt_append {before after : List Char} :
    AlnumAt (before ++ after) before.length ↔ beginsWith Char.isAlphanum after = true := by
  cases after <;> simp [AlnumAt]

/-- The cut of a text splits a run if its front ends in it and its back begins with it. -/
theorem splits_append {before after : List Char} :
    Splits (before ++ after) before.length ↔
      beginsWith Char.isAlphanum before.reverse = true ∧
        beginsWith Char.isAlphanum after = true := by
  rcases List.eq_nil_or_concat before with rfl | ⟨front, c, rfl⟩
  · simp [Splits]
  · have hlast : AlnumAt (front ++ [c] ++ after) front.length ↔ c.isAlphanum = true := by
      rw [List.append_assoc, alnumAt_append, List.singleton_append, beginsWith_cons]
    have hnext : AlnumAt (front ++ [c] ++ after) (front ++ [c]).length ↔ _ := alnumAt_append
    rw [List.length_append, List.length_singleton] at hnext
    rw [List.concat_eq_append, List.reverse_append, List.reverse_singleton, List.singleton_append,
      beginsWith_cons, ← hlast, ← hnext]
    simp [Splits]

/-! ## Dice that occur -/

namespace DieText

/-- **A die occurs at two positions** of a text: it is the piece between them, from its
count or its letter on, and neither of them splits a run. -/
structure Occurs (text : List Char) (start stop : Nat) : Prop where
  /-- The positions are ones of the text. -/
  stop_le : stop ≤ text.length
  /-- The piece between them is a die. -/
  die : ∃ d : DieText, d.WellFormed ∧ slice text start stop = d.chars
  /-- It begins with its count or its letter: blanks before a letter without a count are no
  part of it. -/
  begins : ∀ c, text[start]? = some c → isBlank c = false
  /-- It does not begin inside a run. -/
  start_whole : ¬Splits text start
  /-- It does not end inside a run. -/
  stop_whole : ¬Splits text stop

/-- **A die stands whole** between what precedes and what follows it. -/
structure Stands (before : List Char) (d : DieText) (after : List Char) : Prop where
  /-- It is a die that begins with no blank. -/
  whole : (Lexeme.die d).Whole
  /-- It does not begin inside a run. -/
  before : ¬Splits (before ++ (d.chars ++ after)) before.length
  /-- What follows begins with no letter or digit. -/
  after : beginsWith Char.isAlphanum after = false

variable {before after : List Char} {d : DieText} {ranges ranges' : List (Nat × Nat)}

theorem Stands.wellFormed (h : Stands before d after) : d.WellFormed := by
  cases h.whole with
  | die hd => exact hd

/-- **An occurrence cuts its text in three**: what precedes a die, the die standing whole,
and what follows it. -/
theorem occurs_iff : Occurs text start stop ↔ ∃ before d after, Stands before d after ∧
    text = before ++ (d.chars ++ after) ∧ start = before.length ∧
    stop = before.length + d.chars.length := by
  constructor
  · rintro ⟨hle, ⟨d, hd, hslice⟩, hbegins, hstart, hstop⟩
    have hne : d.chars ≠ [] := by simp [chars]
    obtain ⟨before, after, rfl, rfl, rfl⟩ := exists_append_of_slice hslice hne hle
    refine ⟨before, d, after, ⟨?_, hstart, ?_⟩, rfl, rfl, rfl⟩
    · obtain ⟨c, cs, hchars⟩ := List.exists_cons_of_ne_nil hne
      exact .die hd (hd.before_eq_nil hchars (hbegins c (by simp [hchars])))
    · rw [← List.append_assoc, ← List.length_append, splits_append, List.reverse_append,
        beginsWith_append (by simpa using hne)] at hstop
      exact Bool.eq_false_iff.2 fun hafter => hstop ⟨Lexeme.ends_die hd, hafter⟩
  · rintro ⟨before, d, after, h, rfl, rfl, rfl⟩
    refine ⟨?_, ⟨d, h.wellFormed, ?_⟩, ?_, h.before, ?_⟩
    · simp only [List.length_append]
      omega
    · rw [← List.append_assoc, slice_append_append]
    · obtain ⟨c, cs, hchars, hblank⟩ := h.whole.exists_cons
      have hchars' : d.chars = c :: cs := hchars
      simpa [hchars'] using hblank
    · rw [← List.append_assoc, ← List.length_append, splits_append, h.after]
      exact fun hsplits => Bool.false_ne_true hsplits.2

/-- A die holds one letter. -/
theorem WellFormed.eq_length_of_letter {c : Char} {k : Nat} (h : d.WellFormed)
    (hk : d.chars[k]? = some c) (hc : isDieLetter c = true) :
    k = (d.count ++ d.before).length := by
  have hdigits {cs : List Char} (hcs : cs.all Char.isDigit = true) : c ∉ cs := fun hmem => by
    have hdigit := List.all_eq_true.1 hcs c hmem
    rw [isDigit_of_isDieLetter hc] at hdigit
    cases hdigit
  have hblanks {cs : List Char} (hcs : cs.all isBlank = true) : c ∉ cs := fun hmem => by
    have hblank := List.all_eq_true.1 hcs c hmem
    rw [isBlank_of_isDieLetter hc] at hblank
    cases hblank
  rw [chars] at hk
  rcases Nat.lt_trichotomy k (d.count ++ d.before).length with hlt | heq | hgt
  · rw [List.getElem?_append_left hlt] at hk
    rcases List.mem_append.1 (List.mem_of_getElem? hk) with hmem | hmem
    · exact absurd hmem (hdigits h.count)
    · exact absurd hmem (hblanks h.before)
  · exact heq
  · obtain ⟨m, hm⟩ : ∃ m, k - (d.count ++ d.before).length = m + 1 :=
      ⟨k - (d.count ++ d.before).length - 1, by omega⟩
    rw [List.getElem?_append_right (Nat.le_of_lt hgt), hm, List.getElem?_cons_succ] at hk
    rcases List.mem_append.1 (List.mem_of_getElem? hk) with hmem | hmem
    · exact absurd hmem (hblanks h.after)
    · exact absurd hmem (hdigits h.sides.2)

theorem WellFormed.dropWhile_after (h : d.WellFormed)
    (hafter : beginsWith Char.isAlphanum after = false) :
    ((d.after ++ (d.sides ++ after)).dropWhile isBlank).dropWhile Char.isDigit = after := by
  have hsides : beginsWith isBlank (d.sides ++ after) = false := by
    rw [beginsWith_append h.sides.1]
    exact beginsWith_of_all (fun c => isBlank_of_isDigit) h.sides.2
  rw [dropWhile_append_rest h.after hsides,
    dropWhile_append_rest h.sides.2 (beginsWith_isDigit hafter)]

theorem append_chars_append (before : List Char) (d : DieText) (after : List Char) :
    before ++ (d.chars ++ after) =
      (before ++ d.count ++ d.before) ++ d.letter :: (d.after ++ (d.sides ++ after)) := by
  simp only [chars_append, List.append_assoc]

/-- The die from the letter on. -/
def fromLetter (d : DieText) : DieText :=
  ⟨[], [], d.letter, d.after, d.sides⟩

theorem append_fromLetter_append (before : List Char) (d : DieText) (after : List Char) :
    (before ++ d.count ++ d.before) ++ (d.fromLetter.chars ++ after) =
      before ++ (d.chars ++ after) := by
  simp only [fromLetter, chars_append, List.append_assoc, List.nil_append]

/-- **A count that stands apart can be left out**: from the letter on the die stands whole. -/
theorem Stands.fromLetter (h : Stands before d after) (hbefore : d.before ≠ []) :
    Stands (before ++ d.count ++ d.before) d.fromLetter after := by
  have hd := h.wellFormed
  have hblank : d.before.reverse.all isBlank = true := by
    rw [List.all_reverse, hd.before]
  refine ⟨.die ⟨rfl, rfl, hd.letter, hd.after, hd.sides⟩ fun _ => rfl, ?_, h.after⟩
  rw [splits_append, List.reverse_append, beginsWith_append (List.reverse_ne_nil_iff.2 hbefore),
    beginsWith_of_all (fun c => isAlphanum_of_isBlank) hblank]
  exact fun hsplits => Bool.false_ne_true hsplits.1

/-- **The letter decides where a die ends**: two dice of a text that hold one letter stop
together. -/
theorem Stands.stop_eq {before' after' : List Char} {d' : DieText} (h : Stands before d after)
    (h' : Stands before' d' after')
    (htext : before ++ (d.chars ++ after) = before' ++ (d'.chars ++ after'))
    (hle : before'.length ≤ (before ++ d.count ++ d.before).length)
    (hlt : (before ++ d.count ++ d.before).length < before'.length + d'.chars.length) :
    before.length + d.chars.length = before'.length + d'.chars.length := by
  have hletter : (before' ++ (d'.chars ++ after'))[(before ++ d.count ++ d.before).length]? =
      some d.letter := by
    rw [← htext, append_chars_append, List.getElem?_append_right (Nat.le_refl _), Nat.sub_self,
      List.getElem?_cons_zero]
  rw [List.getElem?_append_right hle, List.getElem?_append_left (by omega)] at hletter
  have hlength : (before ++ d.count ++ d.before).length =
      (before' ++ d'.count ++ d'.before).length := by
    have hsame := h'.wellFormed.eq_length_of_letter hletter h.wellFormed.letter
    simp only [List.length_append] at hsame hle ⊢
    omega
  have hbehind := htext
  rw [append_chars_append, append_chars_append] at hbehind
  have hback := (List.cons.inj (List.append_inj hbehind hlength).2).2
  have hafter : after = after' := by
    rw [← h.wellFormed.dropWhile_after h.after, hback, h'.wellFormed.dropWhile_after h'.after]
  rw [hafter, ← List.append_assoc, ← List.append_assoc] at htext
  have hfront := congrArg List.length (List.append_cancel_right htext)
  rwa [List.length_append, List.length_append] at hfront

theorem Occurs.lt (h : Occurs text start stop) : start < stop := by
  obtain ⟨before, d, after, -, -, rfl, rfl⟩ := occurs_iff.1 h
  simp only [chars, List.length_append, List.length_cons]
  omega

/-- Where a die begins decides where it ends. -/
theorem Occurs.stop_unique {stop' : Nat} (h : Occurs text start stop)
    (h' : Occurs text start stop') : stop = stop' := by
  obtain ⟨before, d, after, hs, rfl, rfl, rfl⟩ := occurs_iff.1 h
  obtain ⟨before', d', after', hs', htext, hstart, rfl⟩ := occurs_iff.1 h'
  obtain ⟨-, hback⟩ := List.append_inj htext hstart
  have hread := read?_append hs'.wellFormed hs'.after
  rw [← hback, read?_append hs.wellFormed hs.after, Option.some.injEq, Prod.mk.injEq] at hread
  rw [hstart, hread.1]

/-! ### Dice taken from the left -/

/-- **The dice taken from the left**, from a position on: the one that occurs first, and
then those taken from where it ends. -/
inductive Taken (text : List Char) : Nat → List (Nat × Nat) → Prop
  /-- None occurs any more. -/
  | done {i : Nat} (hnone : ∀ start stop, i ≤ start → ¬Occurs text start stop) : Taken text i []
  /-- No other one begins before the first. -/
  | next {i start stop : Nat} {ranges : List (Nat × Nat)} (hle : i ≤ start)
      (hoccurs : Occurs text start stop)
      (hfirst : ∀ start' stop', i ≤ start' → Occurs text start' stop' → start ≤ start')
      (hrest : Taken text stop ranges) : Taken text i ((start, stop) :: ranges)

/-- What is taken from the left is determined by the text. -/
theorem Taken.unique (h : Taken text i ranges) (h' : Taken text i ranges') :
    ranges = ranges' := by
  induction h generalizing ranges' with
  | done hnone =>
    cases h' with
    | done => rfl
    | next hle hoccurs => exact absurd hoccurs (hnone _ _ hle)
  | next hle hoccurs hfirst _ ih =>
    cases h' with
    | done hnone => exact absurd hoccurs (hnone _ _ hle)
    | next hle' hoccurs' hfirst' hrest' =>
      obtain rfl := Nat.le_antisymm (hfirst _ _ hle' hoccurs') (hfirst' _ _ hle hoccurs)
      obtain rfl := hoccurs.stop_unique hoccurs'
      rw [ih hrest']

/-- **Dice that lie apart are those taken from the left** if every other occurrence begins
inside one of them. -/
theorem taken_of_pairwise (hoccurs : ∀ r ∈ ranges, i ≤ r.1 ∧ Occurs text r.1 r.2)
    (hpair : ranges.Pairwise fun r r' => r.2 ≤ r'.1)
    (hevery : ∀ start stop, i ≤ start → Occurs text start stop →
      ∃ r ∈ ranges, r.1 ≤ start ∧ start < r.2) : Taken text i ranges := by
  induction ranges generalizing i with
  | nil =>
    refine .done fun start stop hle h => ?_
    obtain ⟨r, hr, -⟩ := hevery start stop hle h
    cases hr
  | cons r ranges ih =>
    obtain ⟨⟨hle, hr⟩, hranges⟩ := List.forall_mem_cons.1 hoccurs
    obtain ⟨hbehind, hpair⟩ := List.pairwise_cons.1 hpair
    have hlt := hr.lt
    refine .next hle hr (fun start stop hi h => ?_)
      (ih (fun r' hr' => ⟨hbehind r' hr', (hranges r' hr').2⟩) hpair fun start stop hi h => ?_)
    · obtain ⟨r', hr', hstart, -⟩ := hevery start stop hi h
      rcases List.mem_cons.1 hr' with rfl | hr'
      · exact hstart
      · have := hbehind r' hr'
        omega
    · obtain ⟨r', hr', hstart, hstop⟩ := hevery start stop (by omega) h
      rcases List.mem_cons.1 hr' with rfl | hr'
      · omega
      · exact ⟨r', hr', hstart, hstop⟩

end DieText

end Tabletop
