import Mathlib.Data.List.Chain
import Tabletop.Proofs.Notation.Placement

/-!
# Layouts

A text is its lexemes with gaps before them and one at the end. Not all
lexemes can be laid out with all gaps, since the scanner looks across gaps
for a die: a letter or digit must not run into another one, and a number may
not stand before a die that has no count of its own, or it is that count. A
word such as `2d`, which opens a die, may not stand before the sides of one.

A **layout** is lexemes and gaps that keep to this. Which pieces may stand
side by side is a matter of two neighbours (`Piece.Meets`), although the
scanner looks farther than that. Every text is spelled by a layout of its
lexemes (`Token.exists_layout`), and what a layout spells has the lexemes of
the layout, whatever its gaps (`IsLayout.lexemes_spelled`).
-/

namespace Tabletop

open Text

variable {c : Char} {w cs rest : List Char}

/-! ## Looking ahead for a die -/

namespace DieText

theorem chars_append (d : DieText) (rest : List Char) : d.chars ++ rest =
    d.count ++ (d.before ++ d.letter :: (d.after ++ (d.sides ++ rest))) := by
  simp only [chars, List.append_assoc, List.cons_append]

/-- Whether a text begins with the sides of a die. -/
def sidesAhead (cs : List Char) : Bool :=
  beginsWith Char.isDigit cs && !beginsWith Char.isAlphanum (cs.dropWhile Char.isDigit)

/-- Whether a text begins with the letter of a die and its sides. -/
def letterAhead : List Char → Bool
  | [] => false
  | c :: cs => isDieLetter c && sidesAhead (cs.dropWhile isBlank)

theorem isEmpty_takeWhile (p : Char → Bool) (cs : List Char) :
    (cs.takeWhile p).isEmpty = !beginsWith p cs := by
  cases cs with
  | nil => rfl
  | cons c cs =>
    rw [List.takeWhile_cons, beginsWith_cons]
    cases p c <;> rfl

/-- **A die is read** where a letter and sides lie behind the digits and the blanks. -/
theorem isSome_read? (cs : List Char) :
    (read? cs).isSome = letterAhead ((cs.dropWhile Char.isDigit).dropWhile isBlank) := by
  unfold read?
  dsimp only
  split
  · next h => rw [h]; rfl
  · next letter afterLetter h =>
    rw [h, letterAhead, sidesAhead, isEmpty_takeWhile, Bool.not_not, ← Bool.and_assoc]
    split
    · next hread => rw [hread]; rfl
    · next hread =>
      rw [Bool.not_eq_true] at hread
      rw [hread]
      rfl

/-- **Whether a word opens a die**: digits or none, and the letter. -/
def IsOpening (w : List Char) : Prop :=
  ∃ (count : List Char) (letter : Char), w = count ++ [letter] ∧
    count.all Char.isDigit = true ∧ isDieLetter letter = true

theorem isSome_read?_numeral {digits : List Char} (h : IsNumeral digits)
    (hrest : beginsWith Char.isAlphanum rest = false) :
    (read? (digits ++ rest)).isSome = letterAhead (rest.dropWhile isBlank) := by
  rw [isSome_read?, dropWhile_append_rest h.2 (beginsWith_isDigit hrest)]

/-- A word that is not all digits is digits or none, and then another character. -/
theorem exists_eq_append_cons (h : w.all Char.isDigit = false) :
    ∃ (digits : List Char) (c : Char) (more : List Char), w = digits ++ c :: more ∧
      digits.all Char.isDigit = true ∧ c.isDigit = false := by
  have hsplit := List.takeWhile_append_dropWhile (p := Char.isDigit) (l := w)
  cases hmore : w.dropWhile Char.isDigit with
  | nil =>
    rw [hmore, List.append_nil] at hsplit
    rw [← hsplit, List.all_takeWhile] at h
    cases h
  | cons c more =>
    have hc := List.head?_dropWhile_not Char.isDigit w
    rw [hmore] at hc hsplit
    exact ⟨_, c, more, hsplit.symm, List.all_takeWhile, by simpa using hc⟩

theorem isBlank_of_isAlphanum (h : c.isAlphanum = true) : isBlank c = false :=
  Bool.eq_false_iff.2 fun hblank => by simp [isAlphanum_of_isBlank hblank] at h

theorem sidesAhead_numeral {digits : List Char} (h : IsNumeral digits)
    (hrest : beginsWith Char.isDigit rest = false) :
    sidesAhead (digits ++ rest) = !beginsWith Char.isAlphanum rest := by
  obtain ⟨c, more, rfl⟩ := List.exists_cons_of_ne_nil h.1
  have hall := h.2
  rw [List.all_cons, Bool.and_eq_true] at hall
  rw [sidesAhead, dropWhile_append_rest h.2 hrest, List.cons_append, beginsWith_cons, hall.1,
    Bool.true_and]

/-- Letters and digits before another text are sides if they are digits. -/
theorem sidesAhead_word (hne : w ≠ []) (hw : w.all Char.isAlphanum = true)
    (hrest : beginsWith Char.isAlphanum rest = false) :
    sidesAhead (w ++ rest) = w.all Char.isDigit := by
  cases hall : w.all Char.isDigit with
  | true => rw [sidesAhead_numeral ⟨hne, hall⟩ (beginsWith_isDigit hrest), hrest, Bool.not_false]
  | false =>
    obtain ⟨digits, c, more, rfl, hdigits, hc⟩ := exists_eq_append_cons hall
    have hc' : beginsWith Char.isDigit (c :: (more ++ rest)) = false := hc
    rw [List.all_append, List.all_cons, Bool.and_eq_true, Bool.and_eq_true] at hw
    rw [sidesAhead, List.append_assoc, List.cons_append, dropWhile_append_rest hdigits hc',
      beginsWith_cons, hw.2.1, Bool.not_true, Bool.and_false]

theorem dropWhile_isBlank_word (hne : w ≠ []) (hw : w.all Char.isAlphanum = true) :
    (w ++ rest).dropWhile isBlank = w ++ rest := by
  obtain ⟨c, more, rfl⟩ := List.exists_cons_of_ne_nil hne
  rw [List.all_cons, Bool.and_eq_true] at hw
  exact dropWhile_of_beginsWith (isBlank_of_isAlphanum hw.1)

theorem isSome_read?_of_letterAhead (h : letterAhead cs = true) : (read? cs).isSome = true := by
  cases cs with
  | nil => cases h
  | cons c cs =>
    have hletter : isDieLetter c = true := (Bool.and_eq_true _ _ ▸ h).1
    have hdigit : beginsWith Char.isDigit (c :: cs) = false := isDigit_of_isDieLetter hletter
    have hblank : beginsWith isBlank (c :: cs) = false := isBlank_of_isDieLetter hletter
    rw [isSome_read?, dropWhile_of_beginsWith hdigit, dropWhile_of_beginsWith hblank, h]

theorem letterAhead_eq_false (h : beginsWith isDieLetter cs = false) : letterAhead cs = false := by
  cases cs with
  | nil => rfl
  | cons c cs =>
    rw [beginsWith_cons] at h
    rw [letterAhead, h, Bool.false_and]

theorem isSome_read?_cons {count : List Char} (hcount : count.all Char.isDigit = true)
    (hc : c.isDigit = false) (halnum : c.isAlphanum = true) (cs : List Char) :
    (read? (count ++ c :: cs)).isSome =
      (isDieLetter c && sidesAhead (cs.dropWhile isBlank)) := by
  have hc' : beginsWith Char.isDigit (c :: cs) = false := hc
  have hblank : beginsWith isBlank (c :: cs) = false := isBlank_of_isAlphanum halnum
  rw [isSome_read?, dropWhile_append_rest hcount hc', dropWhile_of_beginsWith hblank, letterAhead]

/-- A word is a die if it is a count, the letter and a numeral. -/
theorem exists_eq_chars_iff {count more : List Char} (hcount : count.all Char.isDigit = true)
    (hc : c.isDigit = false) (halnum : c.isAlphanum = true)
    (hmore : more.all Char.isAlphanum = true) :
    (∃ d : DieText, d.WellFormed ∧ count ++ c :: more = d.chars) ↔
      isDieLetter c = true ∧ IsNumeral more := by
  constructor
  · rintro ⟨d, hd, hchars⟩
    have hread : read? (count ++ c :: more) = some (d, []) :=
      read?_eq_some_iff.2 ⟨hd, by rw [hchars, List.append_nil], rfl⟩
    have hsome := isSome_read?_cons hcount hc halnum more
    rw [hread, Option.isSome_some, eq_comm, Bool.and_eq_true] at hsome
    have hne : more ≠ [] := by
      rintro rfl
      cases hsome.2
    have hsides : sidesAhead (more ++ []) = more.all Char.isDigit := sidesAhead_word hne hmore rfl
    rw [← dropWhile_isBlank_word hne hmore, List.append_nil, hsome.2] at hsides
    exact ⟨hsome.1, hne, hsides.symm⟩
  · rintro ⟨hletter, hnumeral⟩
    refine ⟨⟨count, [], c, [], more⟩, ⟨hcount, rfl, hletter, rfl, hnumeral⟩, ?_⟩
    rw [chars, List.append_nil, List.nil_append]

/-- A word opens a die if it is a count and the letter. -/
theorem isOpening_iff {count more : List Char} (hcount : count.all Char.isDigit = true)
    (hc : c.isDigit = false) :
    IsOpening (count ++ c :: more) ↔ isDieLetter c = true ∧ more = [] := by
  constructor
  · rintro ⟨count', letter, h, hcount', hletter⟩
    have hc' : beginsWith Char.isDigit (c :: more) = false := hc
    have hletter' : beginsWith Char.isDigit [letter] = false := isDigit_of_isDieLetter hletter
    have hback := congrArg (List.dropWhile Char.isDigit) h
    rw [dropWhile_append_rest hcount hc', dropWhile_append_rest hcount' hletter',
      List.cons.injEq] at hback
    exact ⟨hback.1 ▸ hletter, hback.2⟩
  · rintro ⟨hletter, rfl⟩
    exact ⟨count, c, rfl, hcount, hletter⟩

/-- **Behind a word that is no number** a die is read if the word is one, or if it opens
one and the sides lie ahead. -/
theorem isSome_read?_word (hw : w.all Char.isAlphanum = true) (hdigits : w.all Char.isDigit = false)
    (hrest : beginsWith Char.isAlphanum rest = false) :
    (read? (w ++ rest)).isSome = true ↔ (∃ d : DieText, d.WellFormed ∧ w = d.chars) ∨
      IsOpening w ∧ sidesAhead (rest.dropWhile isBlank) = true := by
  obtain ⟨count, c, more, rfl, hcount, hc⟩ := exists_eq_append_cons hdigits
  rw [List.all_append, List.all_cons, Bool.and_eq_true, Bool.and_eq_true] at hw
  rw [List.append_assoc, List.cons_append, isSome_read?_cons hcount hc hw.2.1, Bool.and_eq_true,
    exists_eq_chars_iff hcount hc hw.2.1 hw.2.2, isOpening_iff hcount hc]
  cases more with
  | nil => simp [IsNumeral]
  | cons m more =>
    rw [dropWhile_isBlank_word (List.cons_ne_nil m more) hw.2.2,
      sidesAhead_word (List.cons_ne_nil m more) hw.2.2 hrest]
    simp [IsNumeral]

/-- A die that begins with no blank has none before its letter, if it has no count. -/
theorem WellFormed.before_eq_nil {d : DieText} (h : d.WellFormed) (hchars : d.chars = c :: cs)
    (hblank : isBlank c = false) (hcount : d.count = []) : d.before = [] := by
  cases hbefore : d.before with
  | nil => rfl
  | cons b before =>
    have hb : b = c := by
      rw [chars, hcount, hbefore] at hchars
      exact (List.cons.inj hchars).1
    have hall := h.before
    rw [hbefore, List.all_cons, hb, hblank] at hall
    cases hall

end DieText

/-! ## Lexemes that are read whole -/

/-- **Whether a word means nothing**: it is neither a number nor a die. -/
structure IsMeaningless (w : List Char) : Prop where
  /-- It is letters and digits. -/
  all_alphanum : w.all Char.isAlphanum = true
  /-- It is no number. -/
  not_digits : w.all Char.isDigit = false
  /-- It is no die. -/
  not_die : ∀ d : DieText, d.WellFormed → w ≠ d.chars

theorem IsMeaningless.ne_nil (h : IsMeaningless w) : w ≠ [] := by
  rintro rfl
  cases h.not_digits

namespace Lexeme

/-- **Whether a lexeme can be read** where nothing stands beside it. -/
inductive Whole : Lexeme → Prop
  /-- A die does not begin with a blank. -/
  | die {d : DieText} (h : d.WellFormed) (hindent : d.count = [] → d.before = []) : Whole (.die d)
  /-- A number. -/
  | number {digits : List Char} (h : IsNumeral digits) : Whole (.number digits)
  /-- A sign. -/
  | sign (s : Sign) : Whole (.sign s)
  /-- A word without meaning. -/
  | word {w : List Char} (h : IsMeaningless w) : Whole (.stray w)
  /-- A single character that is none of a notation. -/
  | mark {c : Char} (hblank : isBlank c = false) (halnum : c.isAlphanum = false)
    (hsign : isSign c = false) : Whole (.stray [c])

/-- **Whether a lexeme is read before a text**: it is what the scanner takes off. -/
def Reads (l : Lexeme) (rest : List Char) : Prop :=
  ∃ c cs, l.chars = c :: cs ∧ isBlank c = false ∧ read c (cs ++ rest) = (l, rest)

/-- A lexeme that is read whole begins with no blank. -/
theorem Whole.exists_cons {l : Lexeme} (h : l.Whole) :
    ∃ c cs, l.chars = c :: cs ∧ isBlank c = false := by
  cases h with
  | @die d h hindent =>
    obtain ⟨count, before, letter, after, sides⟩ := d
    cases count with
    | nil =>
      obtain rfl : before = [] := hindent rfl
      exact ⟨letter, after ++ sides, rfl, isBlank_of_isDieLetter h.letter⟩
    | cons c count =>
      have hcount := h.count
      rw [List.all_cons, Bool.and_eq_true] at hcount
      exact ⟨c, _, rfl, isBlank_of_isDigit hcount.1⟩
  | @number digits h =>
    obtain ⟨c, cs, rfl⟩ := List.exists_cons_of_ne_nil h.1
    have hall := h.2
    rw [List.all_cons, Bool.and_eq_true] at hall
    exact ⟨c, cs, rfl, isBlank_of_isDigit hall.1⟩
  | sign s => exact ⟨s.char, [], rfl, isBlank_of_isSign (isSign_char s)⟩
  | @word w h =>
    have halnum := h.all_alphanum
    cases w with
    | nil => cases h.not_digits
    | cons c cs =>
      rw [List.all_cons, Bool.and_eq_true] at halnum
      exact ⟨c, cs, rfl, DieText.isBlank_of_isAlphanum halnum.1⟩
  | mark hblank => exact ⟨_, [], rfl, hblank⟩

theorem reads_read (hblank : isBlank c = false) (cs : List Char) :
    (read c cs).1.Reads (read c cs).2 := by
  have happend := chars_append_read c cs
  obtain ⟨c', front, hfront⟩ := List.exists_cons_of_ne_nil (chars_read_ne_nil c cs)
  rw [hfront, List.cons_append, List.cons.injEq] at happend
  obtain ⟨rfl, hcs⟩ := happend
  exact ⟨c', front, hfront, hblank, by rw [hcs]⟩

/-- **What is read**: a die, a sign, a mark, or a word that no die begins with, which is a
number if it is all digits. -/
theorem Reads.cases {l : Lexeme} (h : l.Reads rest) :
    (∃ d, l = .die d ∧ l.Whole ∧ beginsWith Char.isAlphanum rest = false) ∨
      (∃ s, l = .sign s) ∨
      (∃ c, l = .stray [c] ∧ isBlank c = false ∧ c.isAlphanum = false ∧ isSign c = false) ∨
      l.chars.all Char.isAlphanum = true ∧
        l = (if l.chars.all Char.isDigit then .number l.chars else .stray l.chars) ∧
        beginsWith Char.isAlphanum rest = false ∧ DieText.read? (l.chars ++ rest) = none := by
  obtain ⟨c, cs, hchars, hblank, hread⟩ := h
  have happend : c :: (cs ++ rest) = l.chars ++ rest := by rw [hchars, List.cons_append]
  unfold read at hread
  split at hread
  · next d r hdie =>
    obtain ⟨rfl, rfl⟩ := Prod.mk.inj hread
    obtain ⟨hd, -, hrest⟩ := DieText.read?_eq_some_iff.1 hdie
    exact .inl ⟨d, rfl, .die hd (hd.before_eq_nil hchars hblank), hrest⟩
  · next hnone =>
    rw [happend] at hnone
    split at hread
    · next halnum =>
      obtain ⟨hl, hrest⟩ := Prod.mk.inj hread
      have hword : l.chars = c :: (cs ++ rest).takeWhile Char.isAlphanum := by
        rw [← hl]
        split <;> rfl
      refine .inr (.inr (.inr ⟨?_, ?_, ?_, hnone⟩))
      · rw [hword, List.all_cons, halnum, List.all_takeWhile]
        rfl
      · rw [hword]
        exact hl.symm
      · have hhead := List.head?_dropWhile_not Char.isAlphanum (cs ++ rest)
        rw [hrest] at hhead
        cases rest with
        | nil => rfl
        | cons r rest => simpa using hhead
    · next halnum =>
      rw [Bool.not_eq_true] at halnum
      split at hread
      · next s hs =>
        obtain ⟨rfl, -⟩ := Prod.mk.inj hread
        exact .inr (.inl ⟨s, rfl⟩)
      · next hs =>
        obtain ⟨rfl, -⟩ := Prod.mk.inj hread
        refine .inr (.inr (.inl ⟨c, rfl, hblank, halnum, ?_⟩))
        rw [← isSome_ofChar?, hs]
        rfl

/-- Where what is read ends in a letter or digit, the rest begins with none. -/
theorem Reads.apart {l : Lexeme} (h : l.Reads rest)
    (hend : beginsWith Char.isAlphanum l.chars.reverse = true) :
    beginsWith Char.isAlphanum rest = false := by
  rcases h.cases with ⟨d, -, -, hrest⟩ | ⟨s, rfl⟩ | ⟨c, rfl, -, halnum, -⟩ | ⟨-, -, hrest, -⟩
  · exact hrest
  · have hsign : s.char.isAlphanum = true := hend
    rw [isAlphanum_of_isSign (isSign_char s)] at hsign
    cases hsign
  · have hmark : c.isAlphanum = true := hend
    rw [halnum] at hmark
    cases hmark
  · exact hrest

theorem Reads.whole_die {d : DieText} (h : (Lexeme.die d).Reads rest) :
    (Lexeme.die d).Whole ∧ beginsWith Char.isAlphanum rest = false := by
  rcases h.cases with ⟨d', -, hwhole, hrest⟩ | ⟨s, hs⟩ | ⟨c, hc, -⟩ | ⟨-, hword, -⟩
  · exact ⟨hwhole, hrest⟩
  · cases hs
  · cases hc
  · split at hword <;> cases hword

theorem Reads.ne_nil {l : Lexeme} (h : l.Reads rest) : l.chars ≠ [] := by
  obtain ⟨c, cs, hchars, -⟩ := h
  rw [hchars]
  exact List.cons_ne_nil c cs

/-- The text decides what is read. -/
theorem Reads.unique {l l' : Lexeme} {rest' : List Char} (h : l.Reads rest) (h' : l'.Reads rest')
    (heq : l.chars ++ rest = l'.chars ++ rest') : l = l' ∧ rest = rest' := by
  obtain ⟨c, cs, hchars, -, hread⟩ := h
  obtain ⟨c', cs', hchars', -, hread'⟩ := h'
  rw [hchars, hchars', List.cons_append, List.cons_append, List.cons.injEq] at heq
  rw [heq.1, heq.2, hread', Prod.mk.injEq] at hread
  exact ⟨hread.1.symm, hread.2.symm⟩

theorem reads_die {d : DieText} (h : (Lexeme.die d).Whole)
    (hrest : beginsWith Char.isAlphanum rest = false) : (Lexeme.die d).Reads rest := by
  obtain ⟨c, cs, hchars, hblank⟩ := h.exists_cons
  cases h with
  | die hd hindent =>
    have hread : DieText.read? (c :: (cs ++ rest)) = some (d, rest) :=
      DieText.read?_eq_some_iff.2
        ⟨hd, by rw [← List.cons_append, ← hchars, chars], hrest⟩
    exact ⟨c, cs, hchars, hblank, by rw [read, hread]⟩

/-- A word is read before such a text, if no die begins with it. -/
theorem reads_word {l : Lexeme} (hne : l.chars ≠ []) (hall : l.chars.all Char.isAlphanum = true)
    (hl : l = if l.chars.all Char.isDigit then .number l.chars else .stray l.chars)
    (hrest : beginsWith Char.isAlphanum rest = false)
    (hnone : DieText.read? (l.chars ++ rest) = none) : l.Reads rest := by
  obtain ⟨c, cs, hchars⟩ := List.exists_cons_of_ne_nil hne
  rw [hchars] at hall hnone
  rw [List.all_cons, Bool.and_eq_true] at hall
  refine ⟨c, cs, hchars, DieText.isBlank_of_isAlphanum hall.1, ?_⟩
  rw [List.cons_append] at hnone
  rw [read, hnone]
  dsimp only
  rw [if_pos hall.1, takeWhile_append_rest hall.2 hrest, dropWhile_append_rest hall.2 hrest,
    ← hchars, ← hl]

theorem read?_mark (hblank : isBlank c = false) (halnum : c.isAlphanum = false)
    (rest : List Char) : DieText.read? (c :: rest) = none := by
  have hdigit : beginsWith Char.isDigit (c :: rest) = false :=
    DieText.beginsWith_isDigit halnum
  have hblank' : beginsWith isBlank (c :: rest) = false := hblank
  have hletter : beginsWith isDieLetter (c :: rest) = false :=
    beginsWith_of_imp (fun _ => isAlphanum_of_isDieLetter) halnum
  refine DieText.read?_eq_none ?_
  rw [dropWhile_of_beginsWith hdigit, dropWhile_of_beginsWith hblank', hletter]

theorem reads_mark (hblank : isBlank c = false) (halnum : c.isAlphanum = false)
    (hsign : isSign c = false) (rest : List Char) : (Lexeme.stray [c]).Reads rest := by
  have hsign' : Sign.ofChar? c = none := by
    rw [← isSome_ofChar?] at hsign
    exact Option.not_isSome_iff_eq_none.1 (by rw [hsign]; exact Bool.false_ne_true)
  refine ⟨c, [], rfl, hblank, ?_⟩
  rw [List.nil_append, read, read?_mark hblank halnum]
  dsimp only
  rw [halnum, if_neg Bool.false_ne_true, hsign']

/-! ## Lexemes side by side -/

/-- **Whether two lexemes face each other with letters or digits.** -/
def Touches (l l' : Lexeme) : Prop :=
  beginsWith Char.isAlphanum l.chars.reverse = true ∧ beginsWith Char.isAlphanum l'.chars = true

/-- Whether a lexeme begins with the letter of a die. -/
def BeginsLetter : Lexeme → Prop
  | die d => d.count = []
  | _ => False

/-- Whether a lexeme begins with what could be the sides of a die: it is a number, or a
die whose count stands apart. -/
def BeginsSides : Lexeme → Prop
  | number _ => True
  | die d => d.count ≠ [] ∧ d.before ≠ []
  | _ => False

theorem beginsWith_reverse_append {p : Char → Bool} (front : List Char) (hne : w ≠ [])
    (hw : w.all p = true) : beginsWith p (front ++ w).reverse = true := by
  rcases List.eq_nil_or_concat w with rfl | ⟨back, c, rfl⟩
  · exact absurd rfl hne
  · rw [List.concat_eq_append, List.all_append, Bool.and_eq_true] at hw
    simpa using hw.2

theorem all_alphanum_of_numeral {digits : List Char} (h : IsNumeral digits) :
    digits.all Char.isAlphanum = true :=
  all_isAlphanum_of_isDigit h.2

theorem ends_die {d : DieText} (h : d.WellFormed) :
    beginsWith Char.isAlphanum (Lexeme.die d).chars.reverse = true := by
  have hchars : (Lexeme.die d).chars = d.count ++ d.before ++ d.letter :: d.after ++ d.sides := by
    simp only [chars, DieText.chars, List.append_assoc, List.cons_append]
  rw [hchars]
  exact beginsWith_reverse_append _ h.sides.1 (all_alphanum_of_numeral h.sides)

theorem ends_word (hne : w ≠ []) (hw : w.all Char.isAlphanum = true) :
    beginsWith Char.isAlphanum w.reverse = true :=
  beginsWith_reverse_append [] hne hw

end Lexeme

namespace DieText

variable {d : DieText}

/-- What begins with a die begins with sides exactly if its count stands apart. -/
theorem sidesAhead_die (h : d.WellFormed) (hindent : d.count = [] → d.before = [])
    (rest : List Char) :
    sidesAhead (d.chars ++ rest) = true ↔ d.count ≠ [] ∧ d.before ≠ [] := by
  have hletter : beginsWith Char.isDigit (d.letter :: (d.after ++ (d.sides ++ rest))) = false :=
    isDigit_of_isDieLetter h.letter
  rw [chars_append]
  by_cases hcount : d.count = []
  · rw [hcount, hindent hcount]
    simp [sidesAhead, isDigit_of_isDieLetter h.letter]
  · rw [sidesAhead_numeral ⟨hcount, h.count⟩
      (beginsWith_stretch (fun c => isDigit_of_isBlank) h.before hletter)]
    cases hbefore : d.before with
    | nil => simp [isAlphanum_of_isDieLetter h.letter]
    | cons b more =>
      have hblank := h.before
      rw [hbefore, List.all_cons, Bool.and_eq_true] at hblank
      simp [hcount, isAlphanum_of_isBlank hblank.1]

theorem letterAhead_numeral {digits : List Char} (h : IsNumeral digits) (rest : List Char) :
    letterAhead (digits ++ rest) = false := by
  refine letterAhead_eq_false ?_
  rw [beginsWith_append h.1]
  refine beginsWith_of_all (fun c hc => ?_) h.2
  exact Bool.eq_false_iff.2 fun hletter => by simp [isDigit_of_isDieLetter hletter] at hc

/-- What begins with a die begins with its letter exactly if it has no count. -/
theorem letterAhead_die (h : d.WellFormed) (hindent : d.count = [] → d.before = [])
    (hrest : beginsWith Char.isAlphanum rest = false) :
    letterAhead (d.chars ++ rest) = true ↔ d.count = [] := by
  by_cases hcount : d.count = []
  · have hchars : d.chars = d.letter :: (d.after ++ d.sides) := by
      rw [chars, hcount, hindent hcount]
      rfl
    have hread : (read? (d.chars ++ rest)).isSome = true := by
      rw [read?_append h hrest]
      rfl
    have hdigit : beginsWith Char.isDigit (d.chars ++ rest) = false := by
      rw [hchars]
      exact isDigit_of_isDieLetter h.letter
    have hblank : beginsWith isBlank (d.chars ++ rest) = false := by
      rw [hchars]
      exact isBlank_of_isDieLetter h.letter
    rw [isSome_read?, dropWhile_of_beginsWith hdigit, dropWhile_of_beginsWith hblank] at hread
    exact iff_of_true hread hcount
  · rw [chars_append, letterAhead_numeral ⟨hcount, h.count⟩]
    exact iff_of_false Bool.false_ne_true hcount

end DieText

namespace Lexeme

/-- **The sides of a die lie ahead** exactly where a lexeme begins with them. -/
theorem sidesAhead_iff {l : Lexeme} (h : l.Whole)
    (hrest : beginsWith Char.isAlphanum l.chars.reverse = true →
      beginsWith Char.isAlphanum rest = false) :
    DieText.sidesAhead (l.chars ++ rest) = true ↔ l.BeginsSides := by
  cases h with
  | sign s => cases s <;> simp [DieText.sidesAhead, chars, BeginsSides, Sign.char]
  | @mark c hblank halnum hsign =>
    have hdigit : c.isDigit = false :=
      Bool.eq_false_iff.2 fun h => by simp [isAlphanum_of_isDigit h] at halnum
    simp [DieText.sidesAhead, chars, BeginsSides, hdigit]
  | @number digits hd =>
    have hfree := hrest (ends_word hd.1 (all_alphanum_of_numeral hd))
    rw [chars, DieText.sidesAhead_numeral hd (DieText.beginsWith_isDigit hfree), hfree]
    exact iff_of_true rfl trivial
  | @word w hw =>
    have hne := hw.ne_nil
    rw [chars, DieText.sidesAhead_word hne hw.all_alphanum (hrest (ends_word hne hw.all_alphanum)),
      hw.not_digits]
    exact iff_of_false Bool.false_ne_true id
  | die hd hindent => exact DieText.sidesAhead_die hd hindent rest

/-- **The letter of a die lies ahead** exactly where a lexeme begins with it, if no die is
read of a word. -/
theorem letterAhead_iff {l : Lexeme} (h : l.Whole)
    (hrest : beginsWith Char.isAlphanum l.chars.reverse = true →
      beginsWith Char.isAlphanum rest = false)
    (hword : ∀ w, l = .stray w → DieText.read? (w ++ rest) = none) :
    DieText.letterAhead (l.chars ++ rest) = true ↔ l.BeginsLetter := by
  have hstray (w : List Char) (hl : l = .stray w) : ¬DieText.letterAhead (w ++ rest) = true := by
    intro hahead
    have hsome := DieText.isSome_read?_of_letterAhead hahead
    rw [hword w hl] at hsome
    cases hsome
  cases h with
  | sign s => cases s <;> simp [DieText.letterAhead, chars, BeginsLetter, Sign.char, isDieLetter]
  | mark => exact iff_of_false (hstray _ rfl) id
  | word => exact iff_of_false (hstray _ rfl) id
  | number hd =>
    rw [chars, DieText.letterAhead_numeral hd]
    exact iff_of_false Bool.false_ne_true id
  | die hd hindent => exact DieText.letterAhead_die hd hindent (hrest (ends_die hd))

/-- **Whether a lexeme would make a die of what the next one begins with**, across any
gap: a number before the letter of a die is its count, and a word that opens a die takes
the next digits as its sides. -/
def Joins : Lexeme → Lexeme → Prop
  | number _, l => l.BeginsLetter
  | stray w, l => DieText.IsOpening w ∧ l.BeginsSides
  | _, _ => False

end Lexeme

/-- **A piece of a text**: a lexeme with the gap before it. -/
structure Piece where
  /-- The gap. -/
  gap : Gap
  /-- The lexeme. -/
  lexeme : Lexeme

namespace Piece

/-- The characters of a piece. -/
def chars (p : Piece) : List Char :=
  p.gap.chars ++ p.lexeme.chars

/-- **Whether two pieces may stand side by side**: a gap keeps letters and digits apart,
and the scanner does not join them. -/
structure Meets (p q : Piece) : Prop where
  /-- Letters and digits do not run into each other. -/
  apart : p.lexeme.Touches q.lexeme → q.gap.chars ≠ []
  /-- The second is not taken into a die. -/
  unjoined : ¬p.lexeme.Joins q.lexeme

end Piece

/-- **What pieces spell**, with a gap at the end. -/
def spelled (ps : List Piece) (trail : Gap) : List Char :=
  ps.flatMap Piece.chars ++ trail.chars

theorem spelled_cons (p : Piece) (ps : List Piece) (trail : Gap) :
    spelled (p :: ps) trail = p.gap.chars ++ (p.lexeme.chars ++ spelled ps trail) := by
  simp only [spelled, List.flatMap_cons, Piece.chars, List.append_assoc]

/-- **A layout**: lexemes that can be read, with gaps that do not change what is read. -/
structure IsLayout (ps : List Piece) : Prop where
  /-- Every lexeme can be read on its own. -/
  whole : ∀ p ∈ ps, p.lexeme.Whole
  /-- Neighbours may stand side by side. -/
  chain : ps.IsChain Piece.Meets

namespace IsLayout

variable {p : Piece} {ps : List Piece} {trail : Gap}

/-- A layout is a lexeme that can be read, and a layout that it meets. -/
theorem cons_iff : IsLayout (p :: ps) ↔
    p.lexeme.Whole ∧ (∀ q ∈ ps.head?, p.Meets q) ∧ IsLayout ps := by
  constructor
  · intro h
    have hwhole := List.forall_mem_cons.1 h.whole
    have hchain := List.isChain_cons.1 h.chain
    exact ⟨hwhole.1, hchain.1, hwhole.2, hchain.2⟩
  · rintro ⟨hp, hmeets, hps⟩
    exact ⟨List.forall_mem_cons.2 ⟨hp, hps.whole⟩, List.isChain_cons.2 ⟨hmeets, hps.chain⟩⟩

/-- What is spelled begins with a letter or digit only where the first lexeme does, without
a gap before it. -/
theorem beginsWith_spelled (h : IsLayout ps) :
    beginsWith Char.isAlphanum (spelled ps trail) = false ↔
      ∀ q ∈ ps.head?, beginsWith Char.isAlphanum q.lexeme.chars = true → q.gap.chars ≠ [] := by
  cases ps with
  | nil =>
    exact iff_of_true (trail.beginsWith fun c => isAlphanum_of_isBlank) (by simp)
  | cons q ps =>
    obtain ⟨c, cs, hchars, -⟩ := (cons_iff.1 h).1.exists_cons
    rw [spelled_cons]
    simp only [List.head?_cons, Option.mem_def, Option.some.injEq, forall_eq']
    cases hgap : q.gap.chars with
    | nil => simp [hchars]
    | cons b gap =>
      have hall := q.gap.all_blank
      rw [hgap, List.all_cons, Bool.and_eq_true] at hall
      simp [isAlphanum_of_isBlank hall.1]

theorem dropWhile_spelled_cons (h : IsLayout (p :: ps)) :
    (spelled (p :: ps) trail).dropWhile isBlank = p.lexeme.chars ++ spelled ps trail := by
  obtain ⟨c, cs, hchars, hblank⟩ := (cons_iff.1 h).1.exists_cons
  rw [spelled_cons]
  refine dropWhile_append_rest p.gap.all_blank ?_
  rw [hchars]
  exact hblank

theorem beginsWith_spelled_of_cons (h : IsLayout (p :: ps))
    (hend : beginsWith Char.isAlphanum p.lexeme.chars.reverse = true) :
    beginsWith Char.isAlphanum (spelled ps trail) = false := by
  obtain ⟨-, hmeets, hps⟩ := cons_iff.1 h
  exact hps.beginsWith_spelled.2 fun q hq hfront => (hmeets q hq).apart ⟨hend, hfront⟩

theorem dropWhile_gap (g : Gap) : g.chars.dropWhile isBlank = [] := by
  have h : (g.chars ++ []).dropWhile isBlank = [] := dropWhile_append_rest g.all_blank rfl
  rwa [List.append_nil] at h

/-- The sides of a die lie ahead exactly if the first lexeme begins with them. -/
theorem sidesAhead_spelled (h : IsLayout ps) :
    DieText.sidesAhead ((spelled ps trail).dropWhile isBlank) = true ↔
      ∃ q ∈ ps.head?, q.lexeme.BeginsSides := by
  cases ps with
  | nil =>
    rw [spelled, List.flatMap_nil, List.nil_append, dropWhile_gap]
    simp [DieText.sidesAhead]
  | cons q ps =>
    rw [h.dropWhile_spelled_cons,
      Lexeme.sidesAhead_iff (cons_iff.1 h).1 h.beginsWith_spelled_of_cons]
    simp

/-- Whether a word would be joined to the first lexeme of what is spelled behind it. -/
theorem exists_joins_iff (h : IsLayout ps) :
    (∃ q ∈ ps.head?, (Lexeme.stray w).Joins q.lexeme) ↔ DieText.IsOpening w ∧
      DieText.sidesAhead ((spelled ps trail).dropWhile isBlank) = true := by
  rw [h.sidesAhead_spelled]
  exact ⟨fun ⟨q, hq, hw, hsides⟩ => ⟨hw, q, hq, hsides⟩,
    fun ⟨hw, q, hq, hsides⟩ => ⟨q, hq, hw, hsides⟩⟩

/-- Behind a word of a layout no die is read. -/
theorem read?_word (h : IsLayout (p :: ps)) (hw : p.lexeme = .stray w) :
    DieText.read? (w ++ spelled ps trail) = none := by
  have hfree : beginsWith Char.isAlphanum p.lexeme.chars.reverse = true →
      beginsWith Char.isAlphanum (spelled ps trail) = false :=
    h.beginsWith_spelled_of_cons
  obtain ⟨hwhole, hmeets, hps⟩ := cons_iff.1 h
  have hunjoined : ¬(DieText.IsOpening w ∧
      DieText.sidesAhead ((spelled ps trail).dropWhile isBlank) = true) := by
    intro hahead
    obtain ⟨q, hq, hjoins⟩ := hps.exists_joins_iff.2 hahead
    exact (hmeets q hq).unjoined (hw ▸ hjoins)
  rw [hw] at hwhole hfree
  cases hwhole with
  | word hword =>
    have hne := hword.ne_nil
    rw [← Option.not_isSome_iff_eq_none, DieText.isSome_read?_word hword.all_alphanum
      hword.not_digits (hfree (Lexeme.ends_word hne hword.all_alphanum))]
    rintro (⟨d, hd, hchars⟩ | hjoins)
    · exact hword.not_die d hd hchars
    · exact hunjoined hjoins
  | mark hblank halnum => exact Lexeme.read?_mark hblank halnum _

/-- The letter of a die lies ahead exactly if the first lexeme begins with it. -/
theorem letterAhead_spelled (h : IsLayout ps) :
    DieText.letterAhead ((spelled ps trail).dropWhile isBlank) = true ↔
      ∃ q ∈ ps.head?, q.lexeme.BeginsLetter := by
  cases ps with
  | nil =>
    rw [spelled, List.flatMap_nil, List.nil_append, dropWhile_gap]
    simp [DieText.letterAhead]
  | cons q ps =>
    rw [h.dropWhile_spelled_cons, Lexeme.letterAhead_iff (cons_iff.1 h).1
      h.beginsWith_spelled_of_cons fun w hw => h.read?_word hw]
    simp

/-! ### Layouts and what is read -/

/-- **What is read first** in what a layout spells is its first lexeme. -/
theorem reads_of_cons (h : IsLayout (p :: ps)) : p.lexeme.Reads (spelled ps trail) := by
  obtain ⟨gap, l⟩ := p
  have hfree : beginsWith Char.isAlphanum l.chars.reverse = true →
      beginsWith Char.isAlphanum (spelled ps trail) = false :=
    h.beginsWith_spelled_of_cons
  obtain ⟨hwhole, hmeets, hps⟩ := cons_iff.1 h
  dsimp only at hwhole ⊢
  cases hwhole with
  | die hd hindent => exact Lexeme.reads_die (.die hd hindent) (hfree (Lexeme.ends_die hd))
  | sign s => exact ⟨s.char, [], rfl, isBlank_of_isSign (isSign_char s), Lexeme.read_sign s _⟩
  | mark hblank halnum hsign => exact Lexeme.reads_mark hblank halnum hsign _
  | @word w hw =>
    have hne := hw.ne_nil
    refine Lexeme.reads_word hne hw.all_alphanum ?_
      (hfree (Lexeme.ends_word hne hw.all_alphanum)) (h.read?_word rfl)
    rw [Lexeme.chars, hw.not_digits]
    rfl
  | @number digits hd =>
    have hall := Lexeme.all_alphanum_of_numeral hd
    have hrest := hfree (Lexeme.ends_word hd.1 hall)
    refine Lexeme.reads_word hd.1 hall ?_ hrest ?_
    · rw [Lexeme.chars, hd.2]
      rfl
    · rw [Lexeme.chars, ← Option.not_isSome_iff_eq_none, DieText.isSome_read?_numeral hd hrest,
        hps.letterAhead_spelled]
      rintro ⟨q, hq, hletter⟩
      exact (hmeets q hq).unjoined hletter

/-- A word that is read before what a layout spells makes a layout with it. -/
theorem cons_of_read_word (h : IsLayout ps) (hne : p.lexeme.chars ≠ [])
    (hall : p.lexeme.chars.all Char.isAlphanum = true)
    (hl : p.lexeme = if p.lexeme.chars.all Char.isDigit then .number p.lexeme.chars
      else .stray p.lexeme.chars)
    (hrest : beginsWith Char.isAlphanum (spelled ps trail) = false)
    (hnone : DieText.read? (p.lexeme.chars ++ spelled ps trail) = none) : IsLayout (p :: ps) := by
  obtain ⟨gap, l⟩ := p
  rw [cons_iff]
  dsimp only at hne hall hl hnone ⊢
  have hapart (q : Piece) (hq : q ∈ ps.head?) (htouch : l.Touches q.lexeme) : q.gap.chars ≠ [] :=
    h.beginsWith_spelled.1 hrest q hq htouch.2
  rw [← Option.not_isSome_iff_eq_none] at hnone
  cases hdigits : l.chars.all Char.isDigit with
  | true =>
    rw [DieText.isSome_read?_numeral ⟨hne, hdigits⟩ hrest, h.letterAhead_spelled] at hnone
    rw [hdigits, if_pos rfl] at hl
    obtain ⟨digits, rfl⟩ : ∃ digits, l = .number digits := ⟨_, hl⟩
    exact ⟨.number ⟨hne, hdigits⟩,
      fun q hq => ⟨hapart q hq, fun hjoins => hnone ⟨q, hq, hjoins⟩⟩, h⟩
  | false =>
    rw [DieText.isSome_read?_word hall hdigits hrest, not_or, ← h.exists_joins_iff] at hnone
    rw [hdigits, if_neg Bool.false_ne_true] at hl
    obtain ⟨w, rfl⟩ : ∃ w, l = .stray w := ⟨_, hl⟩
    exact ⟨.word ⟨hall, hdigits, fun d hd hchars => hnone.1 ⟨d, hd, hchars⟩⟩,
      fun q hq => ⟨hapart q hq, fun hjoins => hnone.2 ⟨q, hq, hjoins⟩⟩, h⟩

/-- **A lexeme read before what a layout spells** makes a layout with it. -/
theorem cons_of_reads (h : IsLayout ps) (hreads : p.lexeme.Reads (spelled ps trail)) :
    IsLayout (p :: ps) := by
  obtain ⟨gap, l⟩ := p
  dsimp only at hreads
  have hapart (q : Piece) (hq : q ∈ ps.head?) (htouch : l.Touches q.lexeme) : q.gap.chars ≠ [] :=
    h.beginsWith_spelled.1 (hreads.apart htouch.1) q hq htouch.2
  rcases hreads.cases with ⟨d, rfl, hwhole, -⟩ | ⟨s, rfl⟩ | ⟨c, rfl, hblank, halnum, hsign⟩ |
    ⟨hall, hl, hrest, hnone⟩
  · exact cons_iff.2 ⟨hwhole, fun q hq => ⟨hapart q hq, id⟩, h⟩
  · exact cons_iff.2 ⟨.sign s, fun q hq => ⟨hapart q hq, id⟩, h⟩
  · refine cons_iff.2
      ⟨.mark hblank halnum hsign, fun q hq => ⟨hapart q hq, fun hjoins => ?_⟩, h⟩
    have hdigit : beginsWith Char.isDigit [c] = false := DieText.beginsWith_isDigit halnum
    have hopening : DieText.IsOpening ([] ++ c :: []) := hjoins.1
    rw [DieText.isOpening_iff rfl hdigit] at hopening
    rw [isAlphanum_of_isDieLetter hopening.1] at halnum
    cases halnum
  · exact h.cons_of_read_word hreads.ne_nil hall hl hrest hnone

end IsLayout

/-! ## The lexemes of a text -/

namespace Token

variable {start : Nat}

/-- **The lexemes of a text**: its tokens without their positions. -/
def lexemes (cs : List Char) : List Lexeme :=
  (scan 0 cs).map Token.lexeme

/-- The lexemes do not depend on where a text begins. -/
theorem map_lexeme_scan (start : Nat) (cs : List Char) :
    (scan start cs).map Token.lexeme = lexemes cs := by
  have h (n m : Nat) : (scan n cs).map Token.lexeme = (scan m cs).map Token.lexeme := by
    fun_induction scan n cs generalizing m with
    | case1 => rw [scan_nil]
    | case2 start c cs hc ih => rw [scan_blank hc, ih]
    | case3 start c cs hc piece ih =>
      rw [Bool.not_eq_true] at hc
      rw [scan_cons hc, List.map_cons, List.map_cons, ih]
  exact h start 0

theorem lexemes_gap (g : Gap) (cs : List Char) : lexemes (g.chars ++ cs) = lexemes cs := by
  rw [lexemes, scan_gap, map_lexeme_scan]

theorem lexemes_append_gap (g : Gap) (cs : List Char) : lexemes (cs ++ g.chars) = lexemes cs := by
  rw [lexemes, scan_append_gap, lexemes]

theorem lexemes_of_reads {l : Lexeme} (h : l.Reads rest) :
    lexemes (l.chars ++ rest) = l :: lexemes rest := by
  obtain ⟨c, cs, hchars, hblank, hread⟩ := h
  rw [hchars, List.cons_append, lexemes, scan_cons hblank, hread, List.map_cons, map_lexeme_scan]

end Token

/-- **What a layout spells** has its lexemes, whatever its gaps. -/
theorem IsLayout.lexemes_spelled {ps : List Piece} (h : IsLayout ps) (trail : Gap) :
    Token.lexemes (spelled ps trail) = ps.map Piece.lexeme := by
  induction ps with
  | nil =>
    have hgap := Token.lexemes_append_gap trail []
    rw [Token.lexemes, Token.lexemes, Token.scan_nil] at hgap
    exact hgap
  | cons p ps ih =>
    have hps := (cons_iff.1 h).2.2
    rw [spelled_cons, Token.lexemes_gap, Token.lexemes_of_reads h.reads_of_cons, ih hps,
      List.map_cons]

/-- **Every text is spelled by a layout** of its lexemes. -/
theorem Token.exists_layout (cs : List Char) :
    ∃ ps trail, IsLayout ps ∧ cs = spelled ps trail ∧ ps.map Piece.lexeme = lexemes cs := by
  -- token by token, from the last one: each is read before the layout of the rest
  suffices h : ∀ ts start cs, scan start cs = ts →
      ∃ ps trail, IsLayout ps ∧ cs = spelled ps trail by
    obtain ⟨ps, trail, hps, hcs⟩ := h _ 0 cs rfl
    exact ⟨ps, trail, hps, hcs, by rw [hcs, hps.lexemes_spelled]⟩
  intro ts
  induction ts with
  | nil =>
    intro start cs hscan
    exact ⟨[], ⟨cs, all_blank_of_scan_eq_nil hscan⟩, ⟨List.forall_mem_nil _, .nil⟩, rfl⟩
  | cons t ts ih =>
    intro start cs hscan
    obtain ⟨g, c, rest, rfl, hblank, -, hts⟩ := exists_read_of_scan_eq_cons hscan
    obtain ⟨ps, trail, hps, hrest⟩ := ih _ _ hts.symm
    have hreads := Lexeme.reads_read hblank rest
    rw [hrest] at hreads
    refine ⟨⟨g, (Lexeme.read c rest).1⟩ :: ps, trail, hps.cons_of_reads hreads, ?_⟩
    rw [spelled_cons, ← hrest, Lexeme.chars_append_read]

end Tabletop
