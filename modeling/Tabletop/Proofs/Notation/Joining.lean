import Mathlib.Data.List.Basic
import Tabletop.Proofs.Notation.Continuation
import Tabletop.Proofs.Notation.Faults

/-!
# Joining two notations

Two notations are joined by writing one behind the other, with a plus between
them unless the second one brings a sign of its own. What the whole says is
what the two say together: the groups of both in order, and the sum of the
modifiers.

All that reading knows at the seam is that a term has been completed. So the
first operand of the second notation, which had nothing or a sign before it,
becomes a further term of the first one (`Sentence.seam`), and the whole is
again a sentence (`Sentence.join`). Every die is allowed as it was, since what
is allowed depends on its own sign only. The one thing that is looked at again
is the sum of the numbers: each of the two may be within the limits while
their sum is not (`Expression.parse_joined`).
-/

namespace Tabletop

open Text

/-! ## The joined sentence -/

namespace Sentence

variable {numeral : List Char → Nat} {limits : Limits}

/-- **The first term of a sentence as a further term**, behind a gap: under the sign that
opens the sentence, or else under a plus. -/
def seam (gap : Gap) (s : Sentence) : Summand :=
  match s.opening with
  | none => ⟨gap, .plus, s.lead, s.first⟩
  | some (sign, after) => ⟨gap.append s.lead, sign, after, s.first⟩

/-- **Two sentences in one**: the terms of the second follow those of the first. -/
def join (s s' : Sentence) : Sentence :=
  { s with more := s.more ++ s'.seam s.trail :: s'.more, trail := s'.trail }

/-- What is written before a sentence to join it to another one: a plus, unless it opens
with a sign. -/
def link (s : Sentence) : List Char :=
  if s.opening.isSome then [] else [Sign.plus.char]

theorem chars_seam (gap : Gap) (s : Sentence) :
    (s.seam gap).chars =
      gap.chars ++ (s.link ++ (s.lead.chars ++ (s.openingChars ++ s.first.chars))) := by
  unfold seam link openingChars
  cases s.opening with
  | none => rfl
  | some op =>
    show gap.chars ++ s.lead.chars ++ op.1.char :: (op.2.chars ++ s.first.chars) = _
    simp only [Option.isSome_some, if_true, List.nil_append, List.append_assoc, List.cons_append]

/-- **What a joined sentence spells**: both sentences with the link between them. -/
theorem chars_join (s s' : Sentence) :
    (s.join s').chars = s.chars ++ (s'.link ++ s'.chars) := by
  show s.lead.chars ++ (s.openingChars ++ (s.first.chars ++
      ((s.more ++ s'.seam s.trail :: s'.more).flatMap Summand.chars ++ s'.trail.chars))) = _
  rw [List.flatMap_append, List.flatMap_cons, chars_seam]
  simp only [chars, List.append_assoc]

theorem signed_join (s s' : Sentence) : (s.join s').signed = s.signed ++ s'.signed := by
  have hseam : ((s'.seam s.trail).sign, (s'.seam s.trail).operand) =
      (s'.openingSign, s'.first) := by
    unfold seam openingSign
    cases s'.opening <;> rfl
  show (s.openingSign, s.first) ::
      (s.more ++ s'.seam s.trail :: s'.more).map (fun x => (x.sign, x.operand)) = _
  rw [List.map_append, List.map_cons, hseam]
  rfl

/-- **The terms of a joined sentence** are those of the two. -/
theorem terms_join (s s' : Sentence) :
    (s.join s').terms numeral = s.terms numeral ++ s'.terms numeral := by
  rw [terms, signed_join, List.map_append]
  rfl

theorem groups_join (s s' : Sentence) :
    (s.join s').groups numeral = s.groups numeral ++ s'.groups numeral := by
  rw [groups, terms_join, List.filterMap_append]
  rfl

theorem modifier_join (s s' : Sentence) :
    (s.join s').modifier numeral = s.modifier numeral + s'.modifier numeral := by
  rw [modifier, terms_join, List.map_append, sumOf_append]
  rfl

theorem allowed_join {s s' : Sentence} (h : ∀ x ∈ s.signed, x.2.Allowed numeral limits x.1)
    (h' : ∀ x ∈ s'.signed, x.2.Allowed numeral limits x.1) :
    ∀ x ∈ (s.join s').signed, x.2.Allowed numeral limits x.1 := by
  rw [signed_join, List.forall_mem_append]
  exact ⟨h, h'⟩

/-- A sentence opens with a sign exactly if its text begins with one, once the blanks at its
ends are taken off. -/
theorem beginsWith_isSign_trim (s : Sentence) :
    beginsWith isSign s.trim.chars = s.opening.isSome := by
  have hsign : beginsWith isSign s.trim.chars =
      (s.trim.chars.head?.bind Sign.ofChar?).isSome := by
    unfold beginsWith
    cases s.trim.chars.head? with
    | none => rfl
    | some c => exact (isSome_ofChar? c).symm
  rw [hsign, s.ofChar?_head?_trim, Option.isSome_map]

end Sentence

/-! ## Reading joined notations -/

namespace Expression

variable {limits : Limits} {a b : String} {e f : Expression}

/-- **Two notations joined**: by a plus, unless the second one begins with a sign. -/
def joined (a b : String) : String :=
  if beginsWith isSign (trimmed b) then a ++ b else a ++ "+" ++ b

/-- **What two expressions say together**: the groups of both, and the sum of the modifiers. -/
def plus (e f : Expression) (text : String) : Expression :=
  ⟨e.groups ++ f.groups, List.append_ne_nil_of_left_ne_nil e.groups_ne_nil _,
    e.modifier + f.modifier, text⟩

/-- Joined notations are spelled by the joined sentences. -/
theorem toList_joined {s s' : Sentence} (hs : s.chars = a.toList) (hs' : s'.chars = b.toList) :
    (joined a b).toList = (s.join s').chars := by
  have hsign : beginsWith isSign (trimmed b) = s'.opening.isSome := by
    rw [trimmed, ← hs', s'.strip_chars, s'.beginsWith_isSign_trim]
  rw [joined, hsign, s.chars_join, hs, hs', Sentence.link]
  split
  · rw [String.toList_append]
    rfl
  · rw [String.toList_append, String.toList_append, List.append_assoc]
    rfl

/-- **What is read of two notations that are joined** is what is read of the two: their groups
in order and the sum of their modifiers, if that sum is within the limits. Else the sum is at
fault. -/
theorem parse_joined (ha : parse limits a = .ok e) (hb : parse limits b = .ok f) :
    parse limits (joined a b) =
      if (e.modifier + f.modifier).natAbs ≤ limits.maxModifier then
        .ok (e.plus f (String.ofList (trimmed (joined a b))))
      else .error (.modifierOutOfRange (e.modifier + f.modifier) limits.maxModifier) := by
  obtain ⟨s, hs, haccepted, hgroups, hmodifier, -⟩ := (parse_eq_ok_iff limits a e).1 ha
  obtain ⟨s', hs', haccepted', hgroups', hmodifier', -⟩ := (parse_eq_ok_iff limits b f).1 hb
  have hread : parse limits (joined a b) = Reading.conclude limits (trimmed (joined a b))
      ((s.join s').terms Numeral.clamped) .term :=
    read_eq_conclude (toList_joined hs hs').symm
      (Sentence.allowed_join haccepted.allowed haccepted'.allowed)
  have hall : (s.join s').groups Numeral.clamped = e.groups ++ f.groups := by
    rw [s.groups_join, hgroups, hgroups']
  have hsum : (s.join s').modifier Numeral.clamped = e.modifier + f.modifier := by
    rw [s.modifier_join, hmodifier, hmodifier']
  have hne : (s.join s').groups Numeral.clamped ≠ [] := by
    rw [hall]
    exact List.append_ne_nil_of_left_ne_nil e.groups_ne_nil _
  rw [hread, ← hsum]
  split
  · next hle => exact Reading.conclude_eq_ok_iff.2 ⟨rfl, hne, hle, hall.symm, hsum.symm, rfl⟩
  · next hlt =>
    exact Reading.conclude_eq_error_iff.2 (.inr (.inr ⟨rfl, hne, Int.not_le.1 hlt, rfl⟩))

/-- A notation that brings its own minus is joined as it is, and to another one a plus is
written. The numbers of that one and of the first are within a limit of five, and their sum
is not. -/
theorem parse_joined_beyond_limit :
    let limits : Limits := { maxModifier := 5 }
    let a := "2d6 + 4"
    let b := " -3 + d8"
    let c := "d4+2"
    let e : Expression := ⟨[⟨2, 6⟩], by decide, 4, a⟩
    let f : Expression := ⟨[⟨1, 8⟩], by decide, -3, "-3 + d8"⟩
    let g : Expression := ⟨[⟨1, 4⟩], by decide, 2, c⟩
    parse limits a = .ok e ∧ parse limits b = .ok f ∧ parse limits c = .ok g ∧
      joined a b = "2d6 + 4 -3 + d8" ∧ joined a c = "2d6 + 4+d4+2" ∧
      parse limits (joined a b) = .ok ⟨[⟨2, 6⟩, ⟨1, 8⟩], by decide, 1, "2d6 + 4 -3 + d8"⟩ ∧
      parse limits (joined a c) = .error (.modifierOutOfRange 6 5) := by
  intro limits a b c e f g
  have ha : parse limits a = .ok e := by decide +kernel
  have hb : parse limits b = .ok f := by decide +kernel
  have hc : parse limits c = .ok g := by decide +kernel
  exact ⟨ha, hb, hc, by decide +kernel, by decide +kernel,
    (parse_joined ha hb).trans (by decide +kernel), (parse_joined ha hc).trans (by decide +kernel)⟩

end Expression

end Tabletop
