import Tabletop.Advice.Caution
import Tabletop.Proofs.Notation.Clamping
import Tabletop.Proofs.Notation.Layout

/-!
# Cautions on a notation

Cautions come from three searches over the text as it stands, which know
nothing of terms: for runs of digits, for digits with the letter of a die behind
them, and for letters and signs. Of a text that is read as an expression they
tell what the reader reads all the same, line by line
(`Caution.cautionsOn_of_parse`). A run of digits is a numeral of the sentence, since numerals are parted by letters, signs
or gaps. Digits are a count just if they stand before a letter, since a sign
stands between the sides of a die and the next letter. And every letter is that
of a group.

All three searches pass over the gaps and the signs of a sentence, and what they
find in an operand does not depend on what follows it, so that they gather what
they find operand by operand (`Sentence.gather`).
-/

namespace Tabletop

open Text

variable {α : Type} {p : Char → Bool} {xs ys rest : List Char}

/-! ## Searching a text -/

/-- **A search that passes over the characters of a class** passes over a stretch of them. -/
theorem Text.pass_append {F : List Char → List α} (hpass : ∀ c cs, p c = true → F (c :: cs) = F cs)
    (hxs : xs.all p = true) (ys : List Char) : F (xs ++ ys) = F ys := by
  induction xs with
  | nil => rfl
  | cons x xs ih =>
    rw [List.all_cons, Bool.and_eq_true] at hxs
    rw [List.cons_append, hpass x _ hxs.1, ih hxs.2]

/-- **A search of a sentence** gathers what it finds in the operands, if it passes over blanks
and signs and finds the same in an operand whatever detached text follows. -/
theorem Sentence.gather {F : List Char → List α} {found : Operand → List α} (hnil : F [] = [])
    (hpass : ∀ c cs, (isBlank c || isSign c) = true → F (c :: cs) = F cs)
    (hoperand : ∀ (o : Operand) rest, Detached rest → F (o.chars ++ rest) = found o ++ F rest)
    (s : Sentence) : F s.chars = s.signed.flatMap fun x => found x.2 := by
  have hgap (g : Gap) (rest : List Char) : F (g.chars ++ rest) = F rest :=
    pass_append (fun c cs hc => hpass c cs (by rw [hc, Bool.true_or])) g.all_blank rest
  have hsign (sign : Sign) (rest : List Char) : F (sign.char :: rest) = F rest :=
    hpass _ rest (by rw [isSign_char, Bool.or_true])
  have hmore (more : List Summand) (trail : Gap) : F (more.flatMap Summand.chars ++ trail.chars) =
      more.flatMap fun x => found x.operand := by
    induction more with
    | nil =>
      show F trail.chars = []
      rw [← List.append_nil trail.chars, hgap, hnil]
    | cons x more ih =>
      simp only [List.flatMap_cons, Summand.chars, List.append_assoc, List.cons_append]
      rw [hgap, hsign, hgap, hoperand _ _ (Reading.detached_summands more trail), ih]
  obtain ⟨lead, opening, first, more, trail⟩ := s
  have hfirst : F (first.chars ++ (more.flatMap Summand.chars ++ trail.chars)) =
      found first ++ more.flatMap fun x => found x.operand := by
    rw [hoperand _ _ (Reading.detached_summands more trail), hmore]
  rw [chars, hgap, signed, List.flatMap_cons, List.flatMap_map]
  cases opening with
  | none => exact hfirst
  | some op =>
    show F (op.1.char :: (op.2.chars ++ _)) = _
    rw [hsign, hgap, hfirst]

/-! ## Numerals -/

theorem isDigit_of_blank_or_sign {c : Char} (h : (isBlank c || isSign c) = true) :
    c.isDigit = false := by
  rw [Bool.or_eq_true] at h
  rcases h with hblank | hsign
  · exact isDigit_of_isBlank hblank
  · exact Bool.eq_false_iff.2 fun hdigit => by
      rw [isSign_of_isAlphanum (isAlphanum_of_isDigit hdigit)] at hsign
      cases hsign

namespace Text

theorem runs_cons_of_not {c : Char} (h : p c = false) (cs : List Char) :
    runs p (c :: cs) = runs p cs := by
  rw [runs, if_neg (by rw [h]; exact Bool.false_ne_true)]

/-- **The run at the front** is the stretch that the text begins with. -/
theorem runs_append (hne : xs ≠ []) (hxs : xs.all p = true) (hys : beginsWith p ys = false) :
    runs p (xs ++ ys) = xs :: runs p ys := by
  obtain ⟨x, xs, rfl⟩ := List.exists_cons_of_ne_nil hne
  rw [List.all_cons, Bool.and_eq_true] at hxs
  rw [List.cons_append, runs, if_pos hxs.1, takeWhile_append_rest hxs.2 hys,
    dropWhile_append_rest hxs.2 hys]

end Text

namespace DieText

/-- The count of a die, if it is written. -/
def written? (d : DieText) : Option (List Char) :=
  if d.count.isEmpty then none else some d.count

/-- The numerals of a die: its count, if it is written, and its sides. -/
def numerals (d : DieText) : List (List Char) :=
  d.written?.toList ++ [d.sides]

variable {d : DieText}

theorem beginsWith_behind_count (h : d.WellFormed) (rest : List Char) :
    beginsWith Char.isDigit (d.before ++ d.letter :: (d.after ++ (d.sides ++ rest))) = false :=
  beginsWith_stretch (fun _ => isDigit_of_isBlank) h.before (isDigit_of_isDieLetter h.letter)

/-- **A search that passes over all but digits** finds in a die what it finds in its sides,
behind what it finds in its count. -/
theorem pass_letter {F : List Char → List α} (h : d.WellFormed)
    (hpass : ∀ c cs, c.isDigit = false → F (c :: cs) = F cs) (rest : List Char) :
    F (d.before ++ d.letter :: (d.after ++ (d.sides ++ rest))) = F (d.sides ++ rest) := by
  have hblank (c : Char) (cs : List Char) (hc : isBlank c = true) : F (c :: cs) = F cs :=
    hpass c cs (isDigit_of_isBlank hc)
  rw [pass_append hblank h.before, hpass _ _ (isDigit_of_isDieLetter h.letter),
    pass_append hblank h.after]

end DieText

/-- The numerals of an operand. -/
def Operand.numerals : Operand → List (List Char)
  | number digits _ => [digits]
  | die d _ => d.numerals

/-- **The runs of digits in an operand** are its numerals. -/
theorem Operand.runs_append (o : Operand) (hrest : Detached rest) :
    runs Char.isDigit (o.chars ++ rest) = o.numerals ++ runs Char.isDigit rest := by
  have hdigit := DieText.beginsWith_isDigit hrest.1
  cases o with
  | number digits h => exact Text.runs_append h.1 h.2 hdigit
  | die d h =>
    have hsides : runs Char.isDigit (d.before ++ d.letter :: (d.after ++ (d.sides ++ rest))) =
        d.sides :: runs Char.isDigit rest := by
      rw [DieText.pass_letter h (fun _ cs hc => runs_cons_of_not hc cs),
        Text.runs_append h.sides.1 h.sides.2 hdigit]
    show runs Char.isDigit (d.chars ++ rest) = d.numerals ++ runs Char.isDigit rest
    rw [DieText.chars_append, DieText.numerals, DieText.written?]
    split
    · next hcount => rw [List.isEmpty_iff.1 hcount, List.nil_append, hsides]; rfl
    · next hcount =>
      rw [Text.runs_append (by simpa using hcount) h.count (DieText.beginsWith_behind_count h rest),
        hsides]
      rfl

namespace Sentence

/-- **The numerals of a sentence**, in order: the plain numbers, and the counts that are written
and the sides of its dice. -/
def numerals (s : Sentence) : List (List Char) :=
  s.signed.flatMap fun x => x.2.numerals

/-- **The runs of digits in a sentence** are its numerals. -/
theorem runs_chars (s : Sentence) : runs Char.isDigit s.chars = s.numerals :=
  s.gather (by rw [runs]) (fun _ cs hc => runs_cons_of_not (isDigit_of_blank_or_sign hc) cs)
    fun o _ => o.runs_append

end Sentence

/-! ## Counts and letters -/

namespace Caution

theorem counts_cons_of_not {c : Char} (h : c.isDigit = false) (cs : List Char) :
    counts (c :: cs) = counts cs := by
  rw [counts, if_neg (by rw [h]; exact Bool.false_ne_true)]

/-- **A numeral is a count** if the letter of a die stands behind it. -/
theorem counts_append (hxs : IsNumeral xs) (hys : beginsWith Char.isDigit ys = false) :
    counts (xs ++ ys) =
      if beginsWith isDieLetter (ys.dropWhile isBlank) then xs :: counts ys else counts ys := by
  obtain ⟨x, xs, rfl⟩ := List.exists_cons_of_ne_nil hxs.1
  have hall := hxs.2
  rw [List.all_cons, Bool.and_eq_true] at hall
  rw [List.cons_append, counts, if_pos hall.1, takeWhile_append_rest hall.2 hys,
    dropWhile_append_rest hall.2 hys]

end Caution

theorem filter_isDieLetter_cons {c : Char} (h : c.isDigit = true ∨ (isBlank c || isSign c) = true)
    (cs : List Char) : (c :: cs).filter isDieLetter = cs.filter isDieLetter := by
  refine List.filter_cons_of_neg fun hletter => ?_
  rw [isDigit_of_isDieLetter hletter, isBlank_of_isDieLetter hletter,
    isSign_of_isAlphanum (isAlphanum_of_isDieLetter hletter)] at h
  simp at h

namespace Operand

/-- **The counts in an operand** are that of its die, if it is written. -/
theorem counts_append (o : Operand) (hrest : Detached rest) :
    Caution.counts (o.chars ++ rest) =
      (o.die?.bind DieText.written?).toList ++ Caution.counts rest := by
  have hdigit := DieText.beginsWith_isDigit hrest.1
  -- behind a number and behind the sides of a die no letter follows
  have hlast {digits : List Char} (h : IsNumeral digits) :
      Caution.counts (digits ++ rest) = Caution.counts rest := by
    rw [Caution.counts_append h hdigit, hrest.2, if_neg Bool.false_ne_true]
  cases o with
  | number digits h => exact hlast h
  | die d h =>
    have hsides : Caution.counts (d.before ++ d.letter :: (d.after ++ (d.sides ++ rest))) =
        Caution.counts rest := by
      rw [DieText.pass_letter h fun _ cs hc => Caution.counts_cons_of_not hc cs, hlast h.sides]
    have hletter : beginsWith isBlank (d.letter :: (d.after ++ (d.sides ++ rest))) = false :=
      isBlank_of_isDieLetter h.letter
    show Caution.counts (d.chars ++ rest) = d.written?.toList ++ Caution.counts rest
    rw [DieText.chars_append, DieText.written?]
    split
    · next hcount => rw [List.isEmpty_iff.1 hcount, List.nil_append, hsides]; rfl
    · next hcount =>
      rw [Caution.counts_append ⟨by simpa using hcount, h.count⟩
        (DieText.beginsWith_behind_count h rest), dropWhile_append_rest h.before hletter,
        beginsWith_cons, h.letter, if_pos rfl, hsides]
      rfl

/-- **The letters of dice in an operand** are that of its die. -/
theorem filter_isDieLetter (o : Operand) (rest : List Char) :
    (o.chars ++ rest).filter isDieLetter =
      (o.die?.map DieText.letter).toList ++ rest.filter isDieLetter := by
  have hdigits (c : Char) (cs : List Char) (hc : c.isDigit = true) :
      (c :: cs).filter isDieLetter = cs.filter isDieLetter :=
    filter_isDieLetter_cons (.inl hc) cs
  have hblanks (c : Char) (cs : List Char) (hc : isBlank c = true) :
      (c :: cs).filter isDieLetter = cs.filter isDieLetter :=
    filter_isDieLetter_cons (.inr (by rw [hc, Bool.true_or])) cs
  cases o with
  | number digits h => exact pass_append hdigits h.2 rest
  | die d h =>
    show (d.chars ++ rest).filter isDieLetter = d.letter :: rest.filter isDieLetter
    rw [DieText.chars_append, pass_append hdigits h.count, pass_append hblanks h.before,
      List.filter_cons_of_pos h.letter, pass_append hblanks h.after,
      pass_append hdigits h.sides.2]

end Operand

namespace Sentence

/-- **The counts in a sentence** are those of its dice that are written. -/
theorem counts_chars (s : Sentence) :
    Caution.counts s.chars = s.dice.filterMap DieText.written? := by
  rw [s.gather (by rw [Caution.counts])
    (fun _ cs hc => Caution.counts_cons_of_not (isDigit_of_blank_or_sign hc) cs)
    fun o _ => o.counts_append, dice, List.filterMap_filterMap, List.filterMap_eq_flatMap_toList]

/-- **The letters of dice in a sentence** are as many as its dice. -/
theorem countP_isDieLetter (s : Sentence) : s.chars.countP isDieLetter = s.dice.length := by
  have hletters : s.chars.filter isDieLetter = s.dice.map DieText.letter := by
    rw [s.gather rfl (fun _ cs hc => filter_isDieLetter_cons (.inr hc) cs)
      fun o rest _ => o.filter_isDieLetter rest, dice, List.map_filterMap,
      List.filterMap_eq_flatMap_toList]
  rw [List.countP_eq_length_filter, hletters, List.length_map]

end Sentence

/-! ## The cautions on a notation -/

namespace Caution

/-- **What is called for by numerals, groups and signs**: one caution on all numerals of four
digits or more, if there are any, one on every group of more than fifty dice, and one on the
number of groups and signs, if they are more than ten. -/
def calledFor (numerals : List (List Char)) (groups : List Group) (signs : Nat) : List Caution :=
  let long := numerals.filter fun digits => 4 ≤ digits.length
  (if long = [] then [] else [largeNumbers (long.map String.ofList)]) ++
  (groups.filter fun g => 50 < g.count).map (fun g => manyDice g.count.toNat) ++
  (if 10 < groups.length + signs then [manyParts] else [])

/-- **No caution is called for** where all numerals are short, all groups small, and groups and
signs few. -/
theorem calledFor_eq_nil_iff {numerals : List (List Char)} {groups : List Group} {signs : Nat} :
    calledFor numerals groups signs = [] ↔ (∀ digits ∈ numerals, digits.length < 4) ∧
      (∀ g ∈ groups, g.count ≤ 50) ∧ groups.length + signs ≤ 10 := by
  have hlong : (∀ digits ∈ numerals, digits.length < 4) ↔
      (numerals.filter fun digits => 4 ≤ digits.length) = [] := by
    simp only [List.filter_eq_nil_iff, decide_eq_true_eq, Nat.not_le]
  have hmany : (∀ g ∈ groups, g.count ≤ 50) ↔ (groups.filter fun g => 50 < g.count) = [] := by
    simp only [List.filter_eq_nil_iff, decide_eq_true_eq, Int.not_lt]
  rw [hlong, hmany, calledFor, List.append_eq_nil_iff, List.append_eq_nil_iff, List.map_eq_nil_iff,
    and_assoc]
  refine and_congr ?_ (and_congr_right fun _ => ?_)
  · split
    · next h => exact iff_of_true rfl h
    · next h => exact iff_of_false (List.cons_ne_nil _ _) h
  · split
    · next h => exact iff_of_false (List.cons_ne_nil _ _) (Nat.not_le.2 h)
    · next h => exact iff_of_true rfl (Nat.not_lt.1 h)

/-- **The lines that are called for** by numerals, groups and signs. -/
def linesFor (numerals : List (List Char)) (groups : List Group) (signs : Nat) : List String :=
  let long := numerals.filter fun digits => 4 ≤ digits.length
  (if long = [] then []
    else ["Very large numbers detected: " ++ ", ".intercalate (long.map String.ofList)]) ++
  (groups.filter fun g => 50 < g.count).map (fun g =>
    "High dice count: " ++ toString g.count ++ "d (this may be slow to calculate)") ++
  (if 10 < groups.length + signs then ["Very complex expression (may be slow to process)"] else [])

/-- The lines that are called for are the texts of the cautions. -/
theorem map_message_calledFor (numerals : List (List Char)) (groups : List Group) (signs : Nat) :
    (calledFor numerals groups signs).map message = linesFor numerals groups signs := by
  have hmany : ((groups.filter fun g => 50 < g.count).map fun g => manyDice g.count.toNat).map
      message = (groups.filter fun g => 50 < g.count).map fun g =>
        "High dice count: " ++ toString g.count ++ "d (this may be slow to calculate)" := by
    rw [List.map_map]
    refine List.map_congr_left fun g hg => ?_
    have hcount : 0 ≤ g.count := by
      have := of_decide_eq_true (List.mem_filter.1 hg).2
      omega
    obtain ⟨n, hn⟩ := Int.eq_ofNat_of_zero_le hcount
    show message (manyDice g.count.toNat) = _
    rw [hn]
    rfl
  rw [calledFor, linesFor, List.map_append, List.map_append, hmany, apply_ite (List.map message),
    apply_ite (List.map message)]
  rfl

/-- The written counts above fifty are those of the groups above fifty, since a count that is
left out is one. -/
theorem manyDice_eq (ds : List DieText) :
    (((ds.filterMap DieText.written?).map Numeral.clamped).filter (50 < ·)).map manyDice =
      ((ds.map (DieText.said Numeral.clamped)).filter fun g => 50 < g.count).map
        fun g => manyDice g.count.toNat := by
  induction ds with
  | nil => rfl
  | cons d ds ih =>
    rw [List.map_cons]
    by_cases hcount : d.count.isEmpty = true
    · have hwritten : d.written? = none := if_pos hcount
      have hsaid : (d.said Numeral.clamped).count = 1 :=
        congrArg Nat.cast (if_pos hcount : d.countValue Numeral.clamped = 1)
      rw [List.filterMap_cons_none hwritten, ih, List.filter_cons_of_neg (by rw [hsaid]; decide)]
    · have hwritten : d.written? = some d.count := if_neg hcount
      have hsaid : (d.said Numeral.clamped).count = Numeral.clamped d.count :=
        congrArg Nat.cast (if_neg hcount : d.countValue Numeral.clamped = Numeral.clamped d.count)
      have hsame : decide (50 < (d.said Numeral.clamped).count) =
          decide (50 < Numeral.clamped d.count) := by
        rw [hsaid, decide_eq_decide]
        omega
      rw [List.filterMap_cons_some hwritten, List.map_cons, List.filter_cons, List.filter_cons,
        hsame]
      split
      · rw [List.map_cons, List.map_cons, ih, hsaid, Int.toNat_natCast]
      · exact ih

/-- **The cautions on a notation tell what is read.** Of a text that is read as an expression they
are those that its numerals, its groups and its signs call for, in this order: the numerals as
they are written and in the order of the text, the groups with the counts that were read; and
each is a line of its own. So the text is safe just if all its numerals have three digits at most,
all its groups fifty dice, and groups and signs together are no more than ten. -/
theorem cautionsOn_of_parse {limits : Limits} {text : String} {e : Expression}
    (h : Expression.parse limits text = .ok e) :
    ∃ s : Sentence, s.chars = text.toList ∧
      e.groups = s.groups Numeral.clamped ∧ e.modifier = s.modifier Numeral.clamped ∧
      cautionsOn text = calledFor s.numerals e.groups (text.toList.countP isSign) ∧
      cautionTexts text = linesFor s.numerals e.groups (text.toList.countP isSign) ∧
      (isSafe text = true ↔ (∀ digits ∈ s.numerals, digits.length < 4) ∧
        (∀ g ∈ e.groups, g.count ≤ 50) ∧ e.groups.length + text.toList.countP isSign ≤ 10) := by
  obtain ⟨s, hs, -, hgroups, hmodifier, -⟩ := (Expression.parse_eq_ok_iff limits text e).1 h
  have hcautions : cautionsOn text =
      calledFor s.numerals e.groups (text.toList.countP isSign) := by
    rw [hgroups, s.groups_eq_map, cautionsOn, calledFor, ← hs, longNumbers, s.runs_chars,
      s.counts_chars, manyDice_eq, parts, s.countP_isDieLetter, List.length_map]
    simp only [List.isEmpty_iff, List.map_eq_nil_iff]
  refine ⟨s, hs, hgroups, hmodifier, hcautions, ?_, ?_⟩
  · rw [cautionTexts, hcautions, map_message_calledFor]
  · rw [isSafe, cautionTexts, List.isEmpty_iff, List.map_eq_nil_iff, hcautions,
      calledFor_eq_nil_iff]

/-- Blanks before the letter part no count from it, and the numeral behind a sign is no count of
the die before it. -/
theorem cautionsOn_of_parse_of_long_numbers :
    let limits : Limits := ⟨100, 9999, 9999⟩
    let text := "60 d 6 - 0051 + D1000 + 051d4"
    let e : Expression := ⟨[⟨60, 6⟩, ⟨1, 1000⟩, ⟨51, 4⟩], by decide, -51, text⟩
    Expression.parse limits text = .ok e ∧
      cautionTexts text = ["Very large numbers detected: 0051, 1000",
        "High dice count: 60d (this may be slow to calculate)",
        "High dice count: 51d (this may be slow to calculate)"] ∧
      ∃ s : Sentence, s.chars = text.toList ∧
        cautionsOn text = calledFor s.numerals e.groups (text.toList.countP isSign) ∧
        cautionTexts text = linesFor s.numerals e.groups (text.toList.countP isSign) := by
  intro limits text e
  have hparse : Expression.parse limits text = .ok e := by decide +kernel
  obtain ⟨s, hs, -, -, hcautions, hlines, -⟩ := cautionsOn_of_parse hparse
  exact ⟨hparse, by decide +kernel, s, hs, hcautions, hlines⟩

end Caution

end Tabletop
