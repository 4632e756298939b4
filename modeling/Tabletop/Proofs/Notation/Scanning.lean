import Tabletop.Proofs.Notation.Sentence
import Tabletop.Proofs.Text.Stretch

/-!
# Scanning the pieces of a sentence

Reading a lexeme looks at what follows it, since a die may hold blanks: the
number of `2 + 1` and the count of `2 d6` differ only behind the blank. An
operand is read as a whole once the text after it is **detached**, neither
going on with a letter or digit nor, behind blanks, with the letter of a
die (`Token.scan_operand`). Conversely, every token that is scanned is a
piece that the grammar knows, or a stray one, behind a gap
(`Token.exists_of_scan_eq_cons`).
-/

namespace Tabletop

open Text

variable {c : Char} {cs rest : List Char} {start : Nat}

/-! ## Dice -/

namespace DieText

/-- What is read as a die is one of the grammar. -/
theorem wellFormed_of_read? {d : DieText} (h : read? cs = some (d, rest)) : d.WellFormed := by
  simp only [read?] at h
  split at h
  · cases h
  · next letter afterLetter hsplit =>
    split at h
    · next hcond =>
      simp only [Bool.and_eq_true, Bool.not_eq_true', List.isEmpty_eq_false_iff] at hcond
      simp only [Option.some.injEq, Prod.mk.injEq] at h
      obtain ⟨rfl, -⟩ := h
      exact ⟨List.all_takeWhile, List.all_takeWhile, hcond.1.1, List.all_takeWhile, hcond.1.2,
        List.all_takeWhile⟩
    · cases h

/-- What follows a die that was read is no letter or digit. -/
theorem beginsWith_of_read? {d : DieText} (h : read? cs = some (d, rest)) :
    beginsWith Char.isAlphanum rest = false := by
  simp only [read?] at h
  split at h
  · cases h
  · split at h
    · next hcond =>
      simp only [Bool.and_eq_true, Bool.not_eq_true'] at hcond
      simp only [Option.some.injEq, Prod.mk.injEq] at h
      obtain ⟨-, rfl⟩ := h
      exact hcond.2
    · cases h

theorem beginsWith_isDigit (h : beginsWith Char.isAlphanum rest = false) :
    beginsWith Char.isDigit rest = false :=
  beginsWith_of_imp (fun _ => isAlphanum_of_isDigit) h

/-- A die of the grammar is read, where no letter or digit follows it. -/
theorem read?_append {d : DieText} (hd : d.WellFormed)
    (hrest : beginsWith Char.isAlphanum rest = false) :
    read? (d.chars ++ rest) = some (d, rest) := by
  obtain ⟨count, before, letter, after, sides⟩ := d
  obtain ⟨hcount, hbefore, hletter, hafter, hne, hsides⟩ := hd
  simp only at hcount hbefore hletter hafter hne hsides
  -- each part is the longest stretch of its class, since the next one begins otherwise
  have hsides' : beginsWith isBlank (sides ++ rest) = false := by
    rw [beginsWith_append hne]
    exact beginsWith_of_all (fun c => isBlank_of_isDigit) hsides
  have hletter' : beginsWith isBlank (letter :: (after ++ (sides ++ rest))) = false :=
    isBlank_of_isDieLetter hletter
  have hbefore' :
      beginsWith Char.isDigit (before ++ letter :: (after ++ (sides ++ rest))) = false :=
    beginsWith_stretch (fun c => isDigit_of_isBlank) hbefore (isDigit_of_isDieLetter hletter)
  have hrest' := beginsWith_isDigit hrest
  have hchars : (DieText.mk count before letter after sides).chars ++ rest =
      count ++ (before ++ letter :: (after ++ (sides ++ rest))) := by
    simp only [chars, List.append_assoc, List.cons_append]
  rw [hchars, read?, takeWhile_append_rest hcount hbefore', dropWhile_append_rest hcount hbefore']
  dsimp only
  rw [dropWhile_append_rest hbefore hletter', takeWhile_append_rest hbefore hletter']
  dsimp only
  rw [dropWhile_append_rest hafter hsides', takeWhile_append_rest hafter hsides',
    takeWhile_append_rest hsides hrest', dropWhile_append_rest hsides hrest']
  simp [hletter, hne, hrest]

/-- **Reading a die**: the die that a text begins with is the one of the
grammar that it begins with, not followed by a letter or digit. -/
theorem read?_eq_some_iff {d : DieText} :
    read? cs = some (d, rest) ↔
      d.WellFormed ∧ cs = d.chars ++ rest ∧ beginsWith Char.isAlphanum rest = false := by
  constructor
  · intro h
    exact ⟨wellFormed_of_read? h, (chars_append_of_read? h).symm, beginsWith_of_read? h⟩
  · rintro ⟨hd, rfl, hrest⟩
    exact read?_append hd hrest

/-- No die is read where the letter of one does not follow the digits. -/
theorem read?_eq_none (hcs : beginsWith isDieLetter ((cs.dropWhile Char.isDigit).dropWhile isBlank)
    = false) : read? cs = none := by
  rw [read?]
  split
  · rfl
  · next letter afterLetter hsplit =>
    rw [hsplit, beginsWith_cons] at hcs
    dsimp only
    rw [hcs, Bool.false_and, Bool.false_and, if_neg Bool.false_ne_true]

theorem cases_of_mem {d : DieText} (h : d.WellFormed) (hc : c ∈ d.chars) :
    c.isDigit = true ∨ isBlank c = true ∨ isDieLetter c = true := by
  simp only [chars, List.mem_append, List.mem_cons] at hc
  rcases hc with (hc | hc) | rfl | hc | hc
  · exact .inl (List.all_eq_true.1 h.count c hc)
  · exact .inr (.inl (List.all_eq_true.1 h.before c hc))
  · exact .inr (.inr h.letter)
  · exact .inr (.inl (List.all_eq_true.1 h.after c hc))
  · exact .inl (List.all_eq_true.1 h.sides.2 c hc)

theorem isSign_of_mem {d : DieText} (h : d.WellFormed) (hc : c ∈ d.chars) :
    isSign c = false := by
  rcases cases_of_mem h hc with hdigit | hblank | hletter
  · exact isSign_of_isAlphanum (isAlphanum_of_isDigit hdigit)
  · refine Bool.eq_false_iff.2 fun hsign => ?_
    rw [isBlank_of_isSign hsign] at hblank
    cases hblank
  · exact isSign_of_isAlphanum (isAlphanum_of_isDieLetter hletter)

end DieText

/-! ## Operands -/

namespace Operand

/-- The lexeme of an operand. -/
def lexeme : Operand → Lexeme
  | number digits _ => .number digits
  | die d _ => .die d

@[simp] theorem chars_lexeme (o : Operand) : o.lexeme.chars = o.chars := by
  cases o <;> rfl

theorem isSign_of_mem {o : Operand} (hc : c ∈ o.chars) : isSign c = false := by
  cases o with
  | number digits h =>
    exact isSign_of_isAlphanum (isAlphanum_of_isDigit (List.all_eq_true.1 h.2 c hc))
  | die d h => exact DieText.isSign_of_mem h hc

/-- The blanks at the front of an operand: those before the letter of a die
without a count. -/
def indent : Operand → Gap
  | number _ _ => .empty
  | die d h => if d.count = [] then ⟨d.before, h.before⟩ else .empty

/-- An operand without the blanks at its front. -/
def bare : Operand → Operand
  | number digits h => number digits h
  | die d h =>
    if d.count = [] then
      die { d with before := [] } ⟨h.count, rfl, h.letter, h.after, h.sides⟩
    else die d h

theorem chars_bare (o : Operand) : o.indent.chars ++ o.bare.chars = o.chars := by
  cases o with
  | number digits h => rfl
  | die d h =>
    rw [indent, bare]
    split
    · next hcount => simp only [chars, DieText.chars, hcount, List.nil_append]
    · rfl

@[simp] theorem term_bare (numeral : List Char → Nat) (s : Sign) (o : Operand) :
    o.bare.term numeral s = o.term numeral s := by
  cases o with
  | number digits h => rfl
  | die d h => rw [bare]; split <;> rfl

@[simp] theorem allowed_bare (numeral : List Char → Nat) (limits : Limits) (s : Sign)
    (o : Operand) : o.bare.Allowed numeral limits s ↔ o.Allowed numeral limits s := by
  cases o with
  | number digits h => rfl
  | die d h => rw [bare]; split <;> rfl

/-- Without the blanks at its front an operand begins with no blank. -/
theorem exists_cons_bare (o : Operand) :
    ∃ c cs, o.bare.chars = c :: cs ∧ isBlank c = false := by
  cases o with
  | number digits h =>
    obtain ⟨c, cs, rfl⟩ := List.exists_cons_of_ne_nil h.1
    exact ⟨c, cs, rfl, isBlank_of_isDigit (List.all_eq_true.1 h.2 c List.mem_cons_self)⟩
  | die d h =>
    rw [bare]
    split
    · next hcount =>
      exact ⟨d.letter, d.after ++ d.sides, by simp [chars, DieText.chars, hcount],
        isBlank_of_isDieLetter h.letter⟩
    · next hcount =>
      obtain ⟨c, cs, hc⟩ := List.exists_cons_of_ne_nil hcount
      exact ⟨c, cs ++ d.before ++ d.letter :: (d.after ++ d.sides),
        by simp only [chars, DieText.chars, hc, List.cons_append],
        isBlank_of_isDigit (List.all_eq_true.1 h.count c (by simp [hc]))⟩

end Operand

/-- **Whether a text is detached** from an operand before it: it goes on with
no letter or digit and, behind blanks, not with the letter of a die. -/
def Detached (cs : List Char) : Prop :=
  beginsWith Char.isAlphanum cs = false ∧ beginsWith isDieLetter (cs.dropWhile isBlank) = false

/-- A text that goes on with a sign behind blanks, or with blanks only, is
detached. -/
theorem detached_of_gap {g : Gap} (h : beginsWith (fun c => !isSign c) cs = false) :
    Detached (g.chars ++ cs) := by
  have hsign (p : Char → Bool) (hp : ∀ c, isSign c = true → p c = false) :
      beginsWith p cs = false := by
    cases cs with
    | nil => rfl
    | cons c cs => exact hp c (by simpa using h)
  refine ⟨beginsWith_stretch (fun c => isAlphanum_of_isBlank) g.all_blank
    (hsign _ fun c => isAlphanum_of_isSign), ?_⟩
  rw [dropWhile_append_rest g.all_blank (hsign _ fun c => isBlank_of_isSign)]
  exact hsign _ fun c => isDieLetter_of_isSign

namespace Lexeme

/-- An operand is read as a whole, where a detached text follows it. -/
theorem read_operand {o : Operand} (ho : o.chars = c :: cs) (hrest : Detached rest) :
    read c (cs ++ rest) = (o.lexeme, rest) := by
  have happend : c :: (cs ++ rest) = o.chars ++ rest := by rw [ho, List.cons_append]
  cases o with
  | die d h =>
    have hread : DieText.read? (c :: (cs ++ rest)) = some (d, rest) :=
      DieText.read?_eq_some_iff.2 ⟨h, happend, hrest.1⟩
    rw [read, hread]
    rfl
  | number digits h =>
    have hdigits : digits = c :: cs := ho
    subst hdigits
    have hall := h.2
    rw [List.all_cons, Bool.and_eq_true] at hall
    have hdrop : (c :: (cs ++ rest)).dropWhile Char.isDigit = rest := by
      rw [happend]
      exact dropWhile_append_rest h.2 (DieText.beginsWith_isDigit hrest.1)
    have hread : DieText.read? (c :: (cs ++ rest)) = none :=
      DieText.read?_eq_none (by rw [hdrop]; exact hrest.2)
    have halnum := all_isAlphanum_of_isDigit hall.2
    rw [read, hread]
    dsimp only
    rw [if_pos (isAlphanum_of_isDigit hall.1), takeWhile_append_rest halnum hrest.1,
      dropWhile_append_rest halnum hrest.1, if_pos h.2]
    rfl

theorem read_sign (s : Sign) (cs : List Char) : read s.char cs = (.sign s, cs) := by
  have hread : DieText.read? (s.char :: cs) = none := by
    refine DieText.read?_eq_none ?_
    have hdigit : s.char.isDigit = false := by cases s <;> rfl
    have hblank : isBlank s.char = false := isBlank_of_isSign (isSign_char s)
    rw [List.dropWhile_cons, hdigit, if_neg Bool.false_ne_true, List.dropWhile_cons, hblank,
      if_neg Bool.false_ne_true]
    exact isDieLetter_of_isSign (isSign_char s)
  rw [read, hread]
  dsimp only
  rw [if_neg (by rw [isAlphanum_of_isSign (isSign_char s)]; exact Bool.false_ne_true),
    Sign.ofChar?_char]

/-- **Whether a lexeme is a piece of the grammar**, if it claims to be one. -/
def WellFormed : Lexeme → Prop
  | die d => d.WellFormed
  | number digits => IsNumeral digits
  | _ => True

/-- What is read as a die or a number is one of the grammar. -/
theorem wellFormed_read (c : Char) (cs : List Char) : (read c cs).1.WellFormed := by
  unfold read
  split
  · next hread => exact DieText.wellFormed_of_read? hread
  · split
    · dsimp only
      split
      · next hall => exact ⟨List.cons_ne_nil _ _, hall⟩
      · trivial
    · split <;> trivial

end Lexeme

/-! ## Tokens -/

namespace Token

@[simp] theorem scan_nil : scan start [] = [] := by
  rw [scan]

theorem scan_blank (h : isBlank c = true) : scan start (c :: cs) = scan (start + 1) cs := by
  rw [scan, if_pos h]

theorem scan_cons (h : isBlank c = false) :
    scan start (c :: cs) = ⟨start, (Lexeme.read c cs).1⟩ ::
      scan (start + (Lexeme.read c cs).1.chars.length) (Lexeme.read c cs).2 := by
  rw [scan, if_neg (by rw [h]; exact Bool.false_ne_true)]

theorem scan_gap (g : Gap) :
    scan start (g.chars ++ cs) = scan (start + g.chars.length) cs := by
  obtain ⟨gap, hgap⟩ := g
  induction gap generalizing start with
  | nil => rfl
  | cons c gap ih =>
    rw [List.all_cons, Bool.and_eq_true] at hgap
    show scan start (c :: (gap ++ cs)) = scan (start + (gap.length + 1)) cs
    rw [scan_blank hgap.1, ih hgap.2, Nat.add_assoc, Nat.add_comm 1]

/-- **Scanning a sign.** -/
theorem scan_sign (s : Sign) :
    scan start (s.char :: cs) = ⟨start, .sign s⟩ :: scan (start + 1) cs := by
  rw [scan_cons (isBlank_of_isSign (isSign_char s)), Lexeme.read_sign]
  rfl

/-- **Scanning an operand**, where a detached text follows it. -/
theorem scan_operand (o : Operand) (hrest : Detached rest) :
    scan start (o.chars ++ rest) = ⟨start + o.indent.chars.length, o.bare.lexeme⟩ ::
      scan (start + o.chars.length) rest := by
  obtain ⟨c, cs, hbare, hc⟩ := o.exists_cons_bare
  have hlength : o.chars.length = o.indent.chars.length + o.bare.chars.length := by
    rw [← o.chars_bare, List.length_append]
  rw [hlength, ← o.chars_bare, List.append_assoc, scan_gap, hbare, List.cons_append, scan_cons hc,
    Lexeme.read_operand hbare hrest, Operand.chars_lexeme, hbare, Nat.add_assoc]

/-- **The first token** is the lexeme that is read behind a gap, and the other tokens are
those of the text after it. -/
theorem exists_read_of_scan_eq_cons {t : Token} {ts : List Token} (h : scan start cs = t :: ts) :
    ∃ (g : Gap) (c : Char) (rest : List Char), cs = g.chars ++ c :: rest ∧ isBlank c = false ∧
      t = ⟨start + g.chars.length, (Lexeme.read c rest).1⟩ ∧
      ts = scan t.stop (Lexeme.read c rest).2 := by
  induction cs generalizing start with
  | nil =>
    rw [scan_nil] at h
    cases h
  | cons c cs ih =>
    by_cases hc : isBlank c = true
    · rw [scan_blank hc] at h
      obtain ⟨g, c', rest, hcs, hc', ht, hts⟩ := ih h
      refine ⟨Gap.append ⟨[c], by rw [List.all_cons, hc]; rfl⟩ g, c', rest, ?_, hc', ?_, hts⟩
      · rw [hcs]
        rfl
      · rw [ht]
        simp only [Gap.append, List.length_append, List.length_singleton, Nat.add_assoc]
    · rw [Bool.not_eq_true] at hc
      rw [scan_cons hc, List.cons.injEq] at h
      obtain ⟨rfl, rfl⟩ := h
      exact ⟨.empty, c, cs, rfl, hc, rfl, rfl⟩

/-- **What a scanned token is**: it stands behind a gap, it is a piece of the
grammar or a stray one, and the other tokens are those of the text after it. -/
theorem exists_of_scan_eq_cons {t : Token} {ts : List Token} (h : scan start cs = t :: ts) :
    ∃ (g : Gap) (rest : List Char), cs = g.chars ++ (t.chars ++ rest) ∧ t.lexeme.WellFormed ∧
      ts = scan t.stop rest := by
  obtain ⟨g, c, rest, rfl, -, rfl, hts⟩ := exists_read_of_scan_eq_cons h
  exact ⟨g, (Lexeme.read c rest).2, congrArg _ (Lexeme.chars_append_read c rest).symm,
    Lexeme.wellFormed_read c rest, hts⟩

/-- A text without tokens is a gap. -/
theorem all_blank_of_scan_eq_nil (h : scan start cs = []) : cs.all isBlank = true := by
  induction cs generalizing start with
  | nil => rfl
  | cons c cs ih =>
    by_cases hc : isBlank c = true
    · rw [scan_blank hc] at h
      rw [List.all_cons, hc, ih h]
      rfl
    · rw [Bool.not_eq_true] at hc
      rw [scan_cons hc] at h
      cases h

end Token

end Tabletop
