import Tabletop.Advice.Hint
import Tabletop.Proofs.Advice.TidyNotation

/-!
# Hints on a notation

Hints are looked for in the text without its blanks and with its letters
lowered, where a notation is easily mistaken: the gaps that part two numbers
or two signs are gone. No notation is mistaken, all the same. Without its
blanks and lowered it is its tidied sentence behind the opening sign, so it
holds digits, signs and the letter of a die and nothing else, no two signs
stand side by side in it, and one of its characters is the letter of a die,
which no plain number and no range has.

So a text that is read as an expression gets no hint but the general formats,
and a text with any other hint is read under no limits
(`Hint.hintsOn_of_parse`).
-/

namespace Tabletop

open Text

namespace Hint

open Tidy

variable {c : Char} {cs : List Char}

/-! ## Where no mistake is recognised -/

/-- Where a multiplication sign stands between digits one stands in the text. -/
theorem exists_isCross (h : hasCross cs = true) : ∃ c ∈ cs, isCross c = true := by
  fun_induction hasCross cs with
  | case1 a b c cs ih =>
    rw [Bool.or_eq_true, Bool.and_eq_true, Bool.and_eq_true] at h
    rcases h with ⟨⟨-, hb⟩, -⟩ | hrest
    · exact ⟨b, by simp, hb⟩
    · obtain ⟨x, hx, hcross⟩ := ih hrest
      exact ⟨x, List.mem_cons_of_mem a hx, hcross⟩
  | case2 => cases h

theorem hasDoubledSign_eq_false (h : cs.IsChain Apart) : hasDoubledSign cs = false := by
  induction cs with
  | nil => rfl
  | cons a cs ih =>
    cases cs with
    | nil => rfl
    | cons b cs =>
      obtain ⟨hapart, hcs⟩ := List.isChain_cons_cons.1 h
      rw [hasDoubledSign, ih hcs, Bool.or_false, ← Bool.not_eq_true, Bool.and_eq_true]
      exact hapart

/-- A range has digits and the dash, and no letter. -/
theorem not_mem_of_isRange (h : isRange cs = true) : 'd' ∉ cs := by
  have hdigits {digits : List Char} (hall : digits.all isDecimalDigit = true) : 'd' ∉ digits := by
    intro hd
    have hdigit : isDecimalDigit 'd' = true := List.all_eq_true.1 hall _ hd
    revert hdigit
    decide
  unfold isRange at h
  split at h
  · next first rest last hfirst hrest =>
    rw [Bool.and_eq_true] at h
    rw [← List.takeWhile_append_dropWhile (p := isDecimalDigit) (l := cs), hrest, List.mem_append,
      List.mem_cons]
    rintro (hd | hd | hd)
    · exact hdigits List.all_takeWhile hd
    · cases hd
    · exact hdigits h.2 hd
  · cases h

theorem not_mem_of_isSides (h : isSides cs = true) : 'd' ∉ cs := by
  intro hd
  rw [isSides, Bool.and_eq_true, Bool.and_eq_true] at h
  cases List.all_eq_true.1 h.1.2 _ hd

/-- **No mistake is recognised** in digits, signs that stand apart, and letters of dice, of
which there is one. -/
theorem recognised_eq_nil (huseful : cs.all isUseful = true) (hapart : cs.IsChain Apart)
    (hletter : 'd' ∈ cs) : recognised cs = [] := by
  have huseless {c : Char} (hc : isUseful c = false) : c ∉ cs := by
    intro hmem
    rw [List.all_eq_true.1 huseful c hmem] at hc
    cases hc
  have hword {word : List Char} (hi : 'i' ∈ word) : holds word cs = false := by
    rw [← Bool.not_eq_true, holds_iff]
    exact fun hinside => huseless (by decide) (hinside.subset hi)
  have hcross : hasCross cs = false := by
    rw [← Bool.not_eq_true]
    intro h
    obtain ⟨c, hc, hcross⟩ := exists_isCross h
    refine huseless ?_ hc
    simp only [isCross, Bool.or_eq_true, beq_iff_eq] at hcross
    rcases hcross with (rfl | rfl) | rfl <;> decide
  have hrange : isRange cs = false :=
    Bool.eq_false_iff.2 fun h => not_mem_of_isRange h hletter
  have hpoint : cs.contains '.' = false ∧ cs.contains ',' = false := by
    simp only [List.contains_eq_mem, decide_eq_false_iff_not]
    exact ⟨huseless (by decide), huseless (by decide)⟩
  have hsides : isSides cs = false :=
    Bool.eq_false_iff.2 fun h => not_mem_of_isSides h hletter
  rw [recognised, hword (by decide), hword (by decide), hcross, hrange, hpoint.1, hpoint.2,
    hasDoubledSign_eq_false hapart, hsides]
  rfl

/-! ## A sentence as it is searched -/

/-- A digit, a sign and the letter of a die are lowered as any other character. -/
theorem toLower_eq_lowered (h : c.isDigit = true ∨ isSign c = true ∨ isDieLetter c = true) :
    c.toLower = lowered c := by
  rcases h with hdigit | hsign | hletter
  · have hupper : ¬(c.val ≥ 'A'.val ∧ c.val ≤ 'Z'.val) := by
      rw [Char.isDigit, Bool.and_eq_true, decide_eq_true_eq, decide_eq_true_eq] at hdigit
      rw [ge_iff_le, UInt32.le_iff_toNat_le]
      have hle : c.val.toNat ≤ 57 := UInt32.le_iff_toNat_le.1 hdigit.2
      have hA : 'A'.val.toNat = 65 := rfl
      omega
    have hne : c ≠ 'D' := by
      rintro rfl
      exact hupper (by decide)
    rw [lowered, if_neg hne]
    exact dif_neg hupper
  · rcases eq_of_isSign hsign with rfl | rfl <;> rfl
  · rcases eq_of_isDieLetter hletter with rfl | rfl <;> rfl

/-- **What is searched of a sentence** is its opening sign and the tidied sentence. -/
theorem map_toLower_sentence (s : Sentence) :
    (withoutBlanks s.chars).map Char.toLower = s.openingSignChars ++ s.tidied.chars := by
  rw [← map_lowered_withoutBlanks]
  exact List.map_congr_left fun c hc => toLower_eq_lowered (cases_of_mem_withoutBlanks hc)

/-- The letter of a die stands in a tidied sentence that has a die. -/
theorem mem_chars_tidied {s : Sentence} (h : s.dice ≠ []) : 'd' ∈ s.tidied.chars := by
  obtain ⟨d, hd⟩ := List.exists_mem_of_ne_nil _ h
  obtain ⟨⟨sign, o⟩, hx, hdie⟩ := List.mem_filterMap.1 hd
  have ho : 'd' ∈ o.tidied.chars := by
    cases o with
    | number digits hdigits => cases hdie
    | die d' hd' =>
      show 'd' ∈ d'.tidied.chars
      simp [DieText.chars_tidied]
  rw [s.chars_tidied, List.mem_append, List.mem_flatMap]
  rw [Sentence.signed, List.mem_cons, List.mem_map] at hx
  rcases hx with hx | ⟨x, hx, heq⟩
  · cases hx
    exact .inl ho
  · cases heq
    exact .inr ⟨x, hx, List.mem_cons_of_mem _ ho⟩

/-- **There are no false alarms.** A text that is read as an expression, under whatever limits,
gets the general formats for its only hint. So where a mistake is recognised the text is read
under no limits. -/
theorem hintsOn_of_parse (text : String) :
    (∀ limits e, Expression.parse limits text = .ok e →
      hintsOn text = [formats] ∧ hintTexts text = [formats.message]) ∧
      ∀ hint ∈ hintsOn text, hint ≠ formats →
        ∀ limits, ∃ fault, Expression.parse limits text = .error fault := by
  have hnone (limits : Limits) (e : Expression) (h : Expression.parse limits text = .ok e) :
      hintsOn text = [formats] := by
    obtain ⟨s, hs, haccepted, -⟩ := (Expression.parse_eq_ok_iff limits text e).1 h
    have hdice : s.dice ≠ [] := ((Sentence.accepted_iff s).1 haccepted).1
    rw [hintsOn, ← hs, map_toLower_sentence, recognised_eq_nil (all_isUseful_opened s)
      (isChain_opened s) (List.mem_append_right _ (mem_chars_tidied hdice))]
  refine ⟨fun limits e h => ⟨hnone limits e h, ?_⟩, fun hint hmem hne limits => ?_⟩
  · rw [hintTexts, hnone limits e h]
    rfl
  · cases hparse : Expression.parse limits text with
    | error fault => exact ⟨fault, rfl⟩
    | ok e =>
      rw [hnone limits e hparse, List.mem_singleton] at hmem
      exact absurd hmem hne

/-- Without its blanks the first text has a dash between digits and is no range all the same;
the second one is a range, and is not read. -/
theorem hintsOn_of_parse_spaced :
    let text := "- 10 - 2 + 3 D\u200320 "
    let dash := "1 - 6"
    (∃ e, Expression.parse {} text = .ok e) ∧ hintsOn text = [formats] ∧
      hintTexts text =
        ["Try formats like \"2d6+3\" (dice plus modifier) or \"d20\" (single die)."] ∧
      range ∈ hintsOn dash ∧ ∀ limits, ∃ fault, Expression.parse limits dash = .error fault := by
  intro text dash
  have hparse : Expression.parse {} text =
      .ok ⟨[⟨3, 20⟩], by decide, -12, "- 10 - 2 + 3 D\u200320"⟩ := by decide +kernel
  have hdash : range ∈ hintsOn dash := by decide +kernel
  obtain ⟨hhints, htexts⟩ := (hintsOn_of_parse text).1 {} _ hparse
  exact ⟨⟨_, hparse⟩, hhints, htexts, hdash, (hintsOn_of_parse dash).2 range hdash (by decide)⟩

end Hint

end Tabletop
