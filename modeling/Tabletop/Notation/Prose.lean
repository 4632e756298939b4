import Tabletop.Notation.Reading
import Tabletop.Text.Alphanumeric

/-!
# Notation in prose

Dice notation embedded in a longer text is found by its compact form: a
die without inner blanks, followed by further dice or plain numbers, each
after a sign with spaces or tabs around it. The whole must stand free: no
letter or number of any script may touch it on either side.

A **span** is the longest such piece from where it begins. Since a
further term that touches a letter or number ends the span before its
sign, a span never ends inside a word. Whether a span can be rolled is
for reading to decide.
-/

namespace Tabletop

open Text

/-- **A notation found in a text.** -/
structure Span where
  /-- The position of its first character. -/
  start : Nat
  /-- Its characters. -/
  chars : List Char
deriving DecidableEq

namespace Span

/-- The position after the last character of a span. -/
def stop (s : Span) : Nat :=
  s.start + s.chars.length

/-- The text of a span. -/
def text (s : Span) : String :=
  String.ofList s.chars

end Span

namespace Prose

/-- The blanks that may surround a sign in prose. -/
def isPadding (c : Char) : Bool :=
  c == ' ' || c == '\t'

/-- A text in two parts, if the second does not begin with a letter or
number. -/
def cutFree? (piece rest : List Char) : Option (List Char × List Char) :=
  if beginsWith isAlphanumeric rest then none else some (piece, rest)

/-- **The compact die that a text begins with**, if it stands free of what
follows, and the rest of the text. -/
def die? (cs : List Char) : Option (List Char × List Char) :=
  match cs.dropWhile Char.isDigit with
  | [] => none
  | letter :: digits =>
    let sides := digits.takeWhile Char.isDigit
    if isDieLetter letter && !sides.isEmpty then
      cutFree? (cs.takeWhile Char.isDigit ++ letter :: sides) (digits.dropWhile Char.isDigit)
    else none

/-- **The plain number that a text begins with**, if it stands free of what
follows, and the rest of the text. -/
def number? (cs : List Char) : Option (List Char × List Char) :=
  let digits := cs.takeWhile Char.isDigit
  if digits.isEmpty then none else cutFree? digits (cs.dropWhile Char.isDigit)

/-- **The further term that a text begins with**: a sign with its padding,
and a die or a number. -/
def further? (cs : List Char) : Option (List Char × List Char) :=
  match cs.dropWhile isPadding with
  | [] => none
  | c :: padded =>
    if isSign c then
      let lead := cs.takeWhile isPadding ++ c :: padded.takeWhile isPadding
      let operand := padded.dropWhile isPadding
      ((die? operand).or (number? operand)).map fun found => (lead ++ found.1, found.2)
    else none

theorem append_of_cutFree? {piece rest p r : List Char} (h : cutFree? piece rest = some (p, r)) :
    p ++ r = piece ++ rest := by
  unfold cutFree? at h
  split at h <;> simp_all

theorem append_of_die? {cs p r : List Char} (h : die? cs = some (p, r)) : p ++ r = cs := by
  unfold die? at h
  split at h
  · cases h
  · next letter digits hsplit =>
    dsimp only at h
    split at h
    · have := append_of_cutFree? h
      rw [this, List.append_assoc, List.cons_append, List.takeWhile_append_dropWhile, ← hsplit,
        List.takeWhile_append_dropWhile]
    · cases h

theorem append_of_number? {cs p r : List Char} (h : number? cs = some (p, r)) : p ++ r = cs := by
  unfold number? at h
  dsimp only at h
  split at h
  · cases h
  · rw [append_of_cutFree? h, List.takeWhile_append_dropWhile]

/-- Reading a further term loses nothing. -/
theorem append_of_further? {cs p r : List Char} (h : further? cs = some (p, r)) : p ++ r = cs := by
  unfold further? at h
  split at h
  · cases h
  · next c padded hsplit =>
    dsimp only at h
    split at h
    · obtain ⟨⟨op, rest⟩, hop, hpr⟩ := Option.map_eq_some_iff.1 h
      simp only [Prod.mk.injEq] at hpr
      obtain ⟨rfl, rfl⟩ := hpr
      have hfound : op ++ rest = padded.dropWhile isPadding := by
        rcases Option.or_eq_some_iff.1 hop with hd | ⟨-, hn⟩
        · exact append_of_die? hd
        · exact append_of_number? hn
      rw [List.append_assoc, hfound, List.append_assoc, List.cons_append,
        List.takeWhile_append_dropWhile, ← hsplit, List.takeWhile_append_dropWhile]
    · cases h

/-- What is left after a further term is shorter than the text. -/
theorem length_lt_of_further? {cs p r : List Char} (h : further? cs = some (p, r)) :
    r.length < cs.length := by
  have hlen := congrArg List.length (append_of_further? h)
  have hpos : 0 < p.length := by
    unfold further? at h
    split at h
    · cases h
    · dsimp only at h
      split at h
      · obtain ⟨found, -, hpr⟩ := Option.map_eq_some_iff.1 h
        simp only [Prod.mk.injEq] at hpr
        obtain ⟨rfl, -⟩ := hpr
        rw [List.length_append, List.length_append, List.length_cons]
        omega
      · cases h
  rw [List.length_append] at hlen
  omega

/-- **The further terms that a text begins with**, as many as there are, and
the rest of the text. -/
def furtherTerms (cs : List Char) : List Char × List Char :=
  match _h : further? cs with
  | none => ([], cs)
  | some (term, rest) =>
    let more := furtherTerms rest
    (term ++ more.1, more.2)
termination_by cs.length
decreasing_by exact length_lt_of_further? _h

/-- **The notation that a text begins with**, if it begins with a die, and
the rest of the text. -/
def phrase? (cs : List Char) : Option (List Char × List Char) :=
  (die? cs).map fun found =>
    let more := furtherTerms found.2
    (found.1 ++ more.1, more.2)

theorem append_of_furtherTerms (cs : List Char) :
    (furtherTerms cs).1 ++ (furtherTerms cs).2 = cs := by
  fun_induction furtherTerms cs with
  | case1 => rfl
  | case2 cs term rest h more ih =>
    rw [List.append_assoc, ih, append_of_further? h]

/-- Reading a notation loses nothing. -/
theorem append_of_phrase? {cs p r : List Char} (h : phrase? cs = some (p, r)) : p ++ r = cs := by
  obtain ⟨⟨die, rest⟩, hdie, hpr⟩ := Option.map_eq_some_iff.1 h
  simp only [Prod.mk.injEq] at hpr
  obtain ⟨rfl, rfl⟩ := hpr
  rw [List.append_assoc, append_of_furtherTerms, append_of_die? hdie]

theorem ne_nil_of_die? {cs p r : List Char} (h : die? cs = some (p, r)) : p ≠ [] := by
  unfold die? at h
  split at h
  · cases h
  · dsimp only at h
    split at h
    · unfold cutFree? at h
      split at h
      · cases h
      · rintro rfl
        simp at h
    · cases h

theorem length_lt_of_phrase? {cs p r : List Char} (h : phrase? cs = some (p, r)) :
    r.length < cs.length := by
  have hlen := congrArg List.length (append_of_phrase? h)
  have hpos : 0 < p.length := by
    obtain ⟨⟨die, rest⟩, hdie, hpr⟩ := Option.map_eq_some_iff.1 h
    simp only [Prod.mk.injEq] at hpr
    obtain ⟨rfl, -⟩ := hpr
    have := List.length_pos_iff.2 (ne_nil_of_die? hdie)
    rw [List.length_append]
    omega
  rw [List.length_append] at hlen
  omega

/-- The notation that a text begins with, if what stands before the text
leaves it free. -/
def freePhrase? (free : Bool) (cs : List Char) : Option (List Char × List Char) :=
  if free then phrase? cs else none

theorem length_lt_of_freePhrase? {free : Bool} {cs p r : List Char}
    (h : freePhrase? free cs = some (p, r)) : r.length < cs.length := by
  unfold freePhrase? at h
  split at h
  · exact length_lt_of_phrase? h
  · cases h

/-- **The spans of a text** whose first character has the position `start`;
`free` says that no letter or number stands before it. -/
def spansFrom (start : Nat) (free : Bool) : List Char → List Span
  | [] => []
  | c :: cs =>
    match _h : freePhrase? free (c :: cs) with
    | some (piece, rest) => ⟨start, piece⟩ :: spansFrom (start + piece.length) false rest
    | none => spansFrom (start + 1) (!isAlphanumeric c) cs
termination_by cs => cs.length
decreasing_by
  · exact length_lt_of_freePhrase? _h
  · exact Nat.lt_succ_self _

/-- **The notations found in a text**, from left to right. Nothing stands
before the first character of a text, and a notation ends in a digit, so
none begins where another one ends. -/
def spans (text : String) : List Span :=
  spansFrom 0 true text.toList

/-- **The notations found that can be rolled**, each with the expression that
it says. -/
def rollable (limits : Limits) (text : String) : List (Span × Expression) :=
  (spans text).filterMap fun span =>
    match Expression.parse limits span.text with
    | .ok e => some (span, e)
    | .error _ => none

end Prose

end Tabletop
