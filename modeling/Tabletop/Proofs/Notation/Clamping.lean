import Mathlib.Data.List.Basic
import Tabletop.Proofs.Notation.Acceptance

/-!
# Where clamping shows

Numerals of more than twelve digits are read as the greatest number of
twelve digits, on the ground that they are out of range anyway. The
**exact reading** takes every numeral for what it says
(`Expression.read Numeral.value`).

The two readings agree on a text if each of its long numerals is above the
limit at either value, and no long plain number stands beside one of the
other sign (`Expression.clamping_unseen`). They do not agree on all texts,
even under the default limits (`Expression.clamping_seen`): a long numeral
may be small, since the length counts leading zeros, and of two numbers
that are out of range the difference may be in range.

What a sentence says is told here by its dice and its signed numbers,
which do not depend on what a numeral is worth.
-/

namespace Tabletop

variable {numeral : List Char → Nat} {limits : Limits}

/-! ## The dice and the numbers of a sentence -/

namespace Operand

/-- The die that an operand is, if it is one. -/
def die? : Operand → Option DieText
  | number _ _ => none
  | die d _ => some d

/-- The digits of an operand, if it is a number. -/
def digits? : Operand → Option (List Char)
  | number digits _ => some digits
  | die _ _ => none

theorem group?_term (numeral : List Char → Nat) (s : Sign) (o : Operand) :
    (o.term numeral s).group? = o.die?.map (DieText.said numeral) := by
  cases o <;> rfl

theorem amount_term (numeral : List Char → Nat) (s : Sign) (o : Operand) :
    (o.term numeral s).amount =
      (o.digits?.map fun digits => s.apply (numeral digits)).getD 0 := by
  cases o <;> rfl

/-- Only a die can be kept from standing under a sign. -/
theorem allowed_iff (s : Sign) (o : Operand) :
    o.Allowed numeral limits s ↔
      ∀ d, o.die? = some d → s = .plus ∧ (d.said numeral).Within limits := by
  cases o with
  | number digits h => exact iff_of_true trivial (by rintro _ ⟨⟩)
  | die d h =>
    refine ⟨fun hd d' hd' => ?_, fun hd => hd d rfl⟩
    cases hd'
    exact hd

end Operand

namespace Sentence

/-- **The dice of a sentence**, in order. -/
def dice (s : Sentence) : List DieText :=
  s.signed.filterMap fun x => x.2.die?

/-- **The numbers of a sentence under their signs**, in order. -/
def numbers (s : Sentence) : List (Sign × List Char) :=
  s.signed.filterMap fun x => x.2.digits?.map (x.1, ·)

/-- Whether no die of a sentence stands under a minus. -/
def AddsDice (s : Sentence) : Prop :=
  ∀ x ∈ s.signed, ∀ d, x.2.die? = some d → x.1 = .plus

theorem groups_eq_map (s : Sentence) : s.groups numeral = s.dice.map (DieText.said numeral) := by
  unfold groups terms dice
  rw [List.filterMap_map, List.map_filterMap]
  exact congrArg (fun f => s.signed.filterMap f) (funext fun x => x.2.group?_term numeral x.1)

/-- The modifier of a sentence is the sum of its numbers under their signs. -/
theorem modifier_eq_sumOf (s : Sentence) :
    s.modifier numeral = sumOf (s.numbers.map fun x => x.1.apply (numeral x.2)) := by
  unfold modifier terms numbers
  induction s.signed with
  | nil => rfl
  | cons x xs ih =>
    obtain ⟨sign, o⟩ := x
    rw [List.map_cons, List.map_cons, sumOf_cons, ih, Operand.amount_term]
    cases o with
    | number digits h => rfl
    | die d h => exact Int.zero_add _

/-- **What it takes for a sentence to be accepted**, told by its dice and its modifier. -/
theorem accepted_iff (s : Sentence) :
    s.Accepted numeral limits ↔ s.dice ≠ [] ∧ s.AddsDice ∧
      (∀ d ∈ s.dice, (d.said numeral).Within limits) ∧
        (s.modifier numeral).natAbs ≤ limits.maxModifier := by
  have hallowed : (∀ x ∈ s.signed, x.2.Allowed numeral limits x.1) ↔
      s.AddsDice ∧ ∀ d ∈ s.dice, (d.said numeral).Within limits := by
    constructor
    · intro h
      refine ⟨fun x hx d hd => ((Operand.allowed_iff x.1 x.2).1 (h x hx) d hd).1, fun d hd => ?_⟩
      obtain ⟨x, hx, hxd⟩ := List.mem_filterMap.1 hd
      exact ((Operand.allowed_iff x.1 x.2).1 (h x hx) d hxd).2
    · rintro ⟨hadds, hwithin⟩ x hx
      exact (Operand.allowed_iff x.1 x.2).2 fun d hd =>
        ⟨hadds x hx d hd, hwithin d (List.mem_filterMap.2 ⟨x, hx, hd⟩)⟩
  have hgroups : s.groups numeral ≠ [] ↔ s.dice ≠ [] := by
    rw [groups_eq_map, ne_eq, List.map_eq_nil_iff]
  rw [← hgroups, ← and_assoc (a := s.AddsDice), ← hallowed]
  exact ⟨fun h => ⟨h.groups, h.allowed, h.modifier⟩, fun h => ⟨h.1, h.2.1, h.2.2⟩⟩

end Sentence

/-! ## Long numerals -/

namespace Numeral

/-- Whether a numeral has more than twelve digits. -/
def IsLong (digits : List Char) : Prop :=
  12 < digits.length

instance (digits : List Char) : Decidable (IsLong digits) :=
  inferInstanceAs (Decidable (_ < _))

/-- **Above a limit at either value**: the ceiling is, and the exact value is no less
than the ceiling. -/
def Above (maximum : Int) (digits : List Char) : Prop :=
  maximum < ceiling ∧ ceiling ≤ value digits

instance (maximum : Int) (digits : List Char) : Decidable (Above maximum digits) :=
  inferInstanceAs (Decidable (_ ∧ _))

variable {maximum : Int} {digits : List Char}

theorem clamped_of_isLong (h : IsLong digits) : clamped digits = ceiling :=
  if_neg (Nat.not_le.2 h)

/-- A long numeral that is above a limit is so at either value. -/
theorem Above.lt (h : Above maximum digits) (hlong : IsLong digits) :
    maximum < clamped digits ∧ maximum < value digits := by
  rw [clamped_of_isLong hlong]
  exact ⟨h.1, Int.lt_of_lt_of_le h.1 (Int.ofNat_le.2 h.2)⟩

/-- A numeral that is above the limit where it is long has one value, if either value
is within the limit. -/
theorem clamped_eq_value_of_le (h : IsLong digits → Above maximum digits)
    (hle : clamped digits ≤ maximum ∨ value digits ≤ maximum) : clamped digits = value digits := by
  by_cases hlong : IsLong digits
  · obtain ⟨hclamped, hvalue⟩ := (h hlong).lt hlong
    omega
  · exact clamped_eq_value (Nat.le_of_not_lt hlong)

end Numeral

namespace DieText

open Numeral

/-- **A die says one group in both readings**, if its numerals are above the limits where
they are long, and the group is within the limits in either reading. -/
theorem said_clamped_eq {d : DieText} (hcount : IsLong d.count → Above limits.maxCount d.count)
    (hsides : IsLong d.sides → Above limits.maxSides d.sides)
    (h : (d.said clamped).Within limits ∨ (d.said value).Within limits) :
    d.said clamped = d.said value := by
  have hc : d.countValue clamped = d.countValue value := by
    unfold DieText.said DieText.countValue Group.Within at h
    unfold DieText.countValue
    split at h
    · next hempty => rw [if_pos hempty, if_pos hempty]
    · next hempty =>
      rw [if_neg hempty, if_neg hempty]
      exact clamped_eq_value_of_le hcount (h.imp (fun h => h.1.2) (fun h => h.1.2))
  have hs : clamped d.sides = value d.sides :=
    clamped_eq_value_of_le hsides (h.imp (fun h => h.2.2) (fun h => h.2.2))
  unfold DieText.said
  rw [hc, hs]

end DieText

/-! ## Sums of one sign -/

namespace Sign

theorem apply_add (s : Sign) (m n : Int) : s.apply m + s.apply n = s.apply (m + n) := by
  cases s with
  | plus => rfl
  | minus => exact Int.neg_add.symm

@[simp] theorem natAbs_apply (s : Sign) (n : Int) : (s.apply n).natAbs = n.natAbs := by
  cases s with
  | plus => rfl
  | minus => exact Int.natAbs_neg n

end Sign

/-- **Numbers under one sign do not cancel**: their sum lies as far from zero as each of
them. -/
theorem le_natAbs_sumOf {s : Sign} {xs : List (Sign × List Char)} (hxs : ∀ x ∈ xs, x.1 = s) :
    ∀ x ∈ xs, numeral x.2 ≤ (sumOf (xs.map fun x => x.1.apply (numeral x.2))).natAbs := by
  have hsum : ∃ n : Nat, sumOf (xs.map fun x => x.1.apply (numeral x.2)) = s.apply n ∧
      ∀ x ∈ xs, numeral x.2 ≤ n := by
    induction xs with
    | nil => exact ⟨0, by cases s <;> rfl, List.forall_mem_nil _⟩
    | cons x xs ih =>
      rw [List.forall_mem_cons] at hxs
      obtain ⟨n, hn, hle⟩ := ih hxs.2
      refine ⟨numeral x.2 + n, ?_, List.forall_mem_cons.2 ⟨Nat.le_add_right _ _, fun y hy => ?_⟩⟩
      · rw [List.map_cons, sumOf_cons, hn, hxs.1, Sign.apply_add, Int.natCast_add]
      · exact Nat.le_add_left_of_le (hle y hy)
  obtain ⟨n, hn, hle⟩ := hsum
  rw [hn, Sign.natAbs_apply, Int.natAbs_natCast]
  exact hle

/-! ## Where both readings agree -/

namespace Sentence

open Numeral

/-- **Whether clamping goes unseen in a sentence**: each long numeral is above its limit
at either value, and a long plain number stands beside none of the other sign. -/
structure Clampable (limits : Limits) (s : Sentence) : Prop where
  /-- A long count is above the limit. -/
  count : ∀ d ∈ s.dice, IsLong d.count → Above limits.maxCount d.count
  /-- A long number of sides is above the limit. -/
  sides : ∀ d ∈ s.dice, IsLong d.sides → Above limits.maxSides d.sides
  /-- A long plain number is above the limit. -/
  number : ∀ x ∈ s.numbers, IsLong x.2 → Above limits.maxModifier x.2
  /-- All plain numbers have the sign of a long one. -/
  sign : ∀ x ∈ s.numbers, IsLong x.2 → ∀ y ∈ s.numbers, y.1 = x.1

/-- The exact sum and the clamped one are the same, or neither is within the limits. -/
theorem Clampable.modifier {s : Sentence} (h : s.Clampable limits) :
    s.modifier clamped = s.modifier value ∨
      limits.maxModifier < (s.modifier clamped).natAbs ∧
        limits.maxModifier < (s.modifier value).natAbs := by
  rw [modifier_eq_sumOf, modifier_eq_sumOf]
  by_cases hlong : ∃ x ∈ s.numbers, IsLong x.2
  · obtain ⟨x, hx, hxlong⟩ := hlong
    obtain ⟨hclamped, hvalue⟩ := (h.number x hx hxlong).lt hxlong
    have hsign := h.sign x hx hxlong
    exact .inr ⟨Int.lt_of_lt_of_le hclamped (Int.ofNat_le.2 (le_natAbs_sumOf hsign x hx)),
      Int.lt_of_lt_of_le hvalue (Int.ofNat_le.2 (le_natAbs_sumOf hsign x hx))⟩
  · refine .inl (congrArg sumOf (List.map_congr_left fun x hx => ?_))
    have hshort : ¬IsLong x.2 := fun hxlong => hlong ⟨x, hx, hxlong⟩
    rw [clamped_eq_value (Nat.le_of_not_lt hshort)]

/-- **A sentence in which clamping goes unseen is accepted in both readings or in
neither.** -/
theorem Clampable.accepted_iff {s : Sentence} (h : s.Clampable limits) :
    s.Accepted clamped limits ↔ s.Accepted value limits := by
  rw [Sentence.accepted_iff, Sentence.accepted_iff]
  have hdice : (∀ d ∈ s.dice, (d.said clamped).Within limits) ↔
      ∀ d ∈ s.dice, (d.said value).Within limits := by
    refine forall₂_congr fun d hd => ⟨fun hd' => ?_, fun hd' => ?_⟩
    · rwa [← DieText.said_clamped_eq (h.count d hd) (h.sides d hd) (.inl hd')]
    · rwa [DieText.said_clamped_eq (h.count d hd) (h.sides d hd) (.inr hd')]
  have hmodifier : (s.modifier clamped).natAbs ≤ limits.maxModifier ↔
      (s.modifier value).natAbs ≤ limits.maxModifier := by
    rcases h.modifier with hsame | ⟨hclamped, hvalue⟩
    · rw [hsame]
    · omega
  rw [hdice, hmodifier]

/-- **What such a sentence says** is the same in both readings, where it is accepted. -/
theorem Clampable.groups_modifier_eq {s : Sentence} (h : s.Clampable limits)
    (haccepted : s.Accepted clamped limits) :
    s.groups clamped = s.groups value ∧ s.modifier clamped = s.modifier value := by
  obtain ⟨-, -, hwithin, hmodifier⟩ := s.accepted_iff.1 haccepted
  constructor
  · rw [groups_eq_map, groups_eq_map]
    exact List.map_congr_left fun d hd =>
      DieText.said_clamped_eq (h.count d hd) (h.sides d hd) (.inl (hwithin d hd))
  · exact h.modifier.resolve_right fun hout => Int.not_lt.2 hmodifier hout.1

end Sentence

namespace Expression

/-- **Clamping goes unseen** in a text that is no sentence, or one in which each long
numeral is above its limit at either value and a long plain number stands beside none
of the other sign: it is read as an expression exactly if the exact reading gives this
expression. -/
theorem clamping_unseen {text : String}
    (h : (∀ s : Sentence, s.chars ≠ text.toList) ∨
      ∃ s : Sentence, s.chars = text.toList ∧ s.Clampable limits) (e : Expression) :
    parse limits text = .ok e ↔ read Numeral.value limits text = .ok e := by
  rcases h with hno | ⟨s, hs, hclampable⟩
  · have hrefused (numeral : List Char → Nat) : read numeral limits text ≠ .ok e := by
      intro hread
      obtain ⟨s, hs, -⟩ := read_eq_ok_iff.1 hread
      exact hno s hs
    exact iff_of_false (hrefused Numeral.clamped) (hrefused Numeral.value)
  · unfold parse
    rw [read_sentence hs, read_sentence hs, ← hclampable.accepted_iff]
    refine and_congr_right fun haccepted => ?_
    obtain ⟨hgroups, hmodifier⟩ := hclampable.groups_modifier_eq haccepted
    rw [hgroups, hmodifier]

/-- A count of fourteen digits is refused in both readings, whatever is added to it. -/
theorem clamping_unseen_in_long_count :
    let text := "20000000000000d6 + 5"
    let s : Sentence := ⟨.empty, none,
      .die ⟨"20000000000000".toList, [], 'd', [], ['6']⟩
        ⟨by decide, by decide, by decide, by decide, by decide⟩,
      [⟨⟨[' '], by decide⟩, .plus, ⟨[' '], by decide⟩, .number ['5'] (by decide)⟩], .empty⟩
    s.chars = text.toList ∧ s.Clampable {} ∧
      ∀ e, parse {} text = .ok e ↔ read Numeral.value {} text = .ok e := by
  intro text s
  have hs : s.chars = text.toList := by decide
  have hclampable : s.Clampable {} := ⟨by decide, by decide, by decide, by decide⟩
  exact ⟨hs, hclampable, clamping_unseen (.inr ⟨s, hs, hclampable⟩)⟩

/-- **Clamping shows under the default limits.** A modifier of one is refused for its
leading zeros, as the greatest number of twelve digits; and the difference of two
numbers that are out of range is read as zero where it is one. -/
theorem clamping_seen :
    (parse {} "d6+0000000000001" = .error (.modifierOutOfRange 999999999999 9999) ∧
      read Numeral.value {} "d6+0000000000001" =
        .ok ⟨[⟨1, 6⟩], by decide, 1, "d6+0000000000001"⟩) ∧
      parse {} "d6+1000000000000-999999999999" =
        .ok ⟨[⟨1, 6⟩], by decide, 0, "d6+1000000000000-999999999999"⟩ ∧
      read Numeral.value {} "d6+1000000000000-999999999999" =
        .ok ⟨[⟨1, 6⟩], by decide, 1, "d6+1000000000000-999999999999"⟩ := by
  decide +kernel

end Expression

end Tabletop
