import Mathlib.Data.List.Basic
import Tabletop.Proofs.Notation.Acceptance

/-!
# Reading the canonical form

The canonical form of an expression is itself a sentence: a die for each
group, signs with one space on either side, and the modifier as a last
number (`Expression.sentence`). That sentence spells the canonical form
(`Expression.chars_sentence`), and what it says is the groups and the
modifier that it was made of, each number up to the ceiling of twelve
digits (`Expression.terms_sentence`, `Expression.modifier_sentence`).

So the canonical form is read back as the expression, and says exactly its
groups and its modifier (`Expression.parse_canonical_inverse`).
-/

namespace Tabletop

open Text

variable {limits : Limits}

/-! ## Numbers as they are written -/

namespace Numeral

theorem isNumeral_toDigits (n : Nat) : IsNumeral (Nat.toDigits 10 n) :=
  ⟨Nat.toDigits_ne_nil,
    List.all_eq_true.2 fun _ hc => Nat.isDigit_of_mem_toDigits (by decide) (by decide) hc⟩

theorem clamped_toDigits (n : Nat) : clamped (Nat.toDigits 10 n) = min n ceiling := by
  have hlength : (Nat.toDigits 10 n).length ≤ 12 ↔ n < ceiling + 1 :=
    Nat.length_toDigits_le_iff (by decide) (by decide)
  by_cases h : n ≤ ceiling
  · rw [clamped_eq_value (hlength.2 (Nat.lt_succ_of_le h)), value_toDigits, Nat.min_eq_left h]
  · rw [clamped, if_neg fun hle => h (Nat.le_of_lt_succ (hlength.1 hle)),
      Nat.min_eq_right (Nat.le_of_not_le h)]

theorem clamped_toDigits_toNat {n : Int} (h : 0 ≤ n) :
    (clamped (Nat.toDigits 10 n.toNat) : Int) = min n ceiling := by
  rw [clamped_toDigits]
  omega

theorem toList_toString {n : Int} (h : 0 ≤ n) :
    (toString n).toList = Nat.toDigits 10 n.toNat := by
  obtain ⟨m, rfl⟩ := Int.eq_ofNat_of_zero_le h
  exact Nat.toList_repr

end Numeral

/-! ## Groups as they are written -/

namespace Group

/-- **The die that is written for a group**: without blanks, and without a count
of one. -/
def typed (g : Group) : DieText where
  count := if g.count = 1 then [] else Nat.toDigits 10 g.count.toNat
  before := []
  letter := 'd'
  after := []
  sides := Nat.toDigits 10 g.sides.toNat

theorem wellFormed_typed (g : Group) : g.typed.WellFormed where
  count := by
    unfold typed
    dsimp only
    split
    · rfl
    · exact (Numeral.isNumeral_toDigits _).2
  before := rfl
  letter := rfl
  after := rfl
  sides := Numeral.isNumeral_toDigits _

theorem chars_typed {g : Group} (hcount : 0 ≤ g.count) (hsides : 0 ≤ g.sides) :
    g.typed.chars = g.short.toList := by
  unfold typed short full
  split
  · rw [String.toList_append, Numeral.toList_toString hsides]
    rfl
  · rw [String.toList_append, String.toList_append, Numeral.toList_toString hsides,
      Numeral.toList_toString hcount, List.append_assoc]
    show (Nat.toDigits 10 g.count.toNat ++ []) ++ 'd' :: ([] ++ Nat.toDigits 10 g.sides.toNat) = _
    rw [List.append_nil]
    rfl

/-- **The die that is written for a group says the group**, each of its numbers up to
the ceiling. -/
theorem said_typed {g : Group} (hcount : 1 ≤ g.count) (hsides : 0 ≤ g.sides) :
    g.typed.said Numeral.clamped =
      ⟨min g.count Numeral.ceiling, min g.sides Numeral.ceiling⟩ := by
  have hc : (g.typed.countValue Numeral.clamped : Int) = min g.count Numeral.ceiling := by
    unfold typed DieText.countValue
    dsimp only
    by_cases hone : g.count = 1
    · rw [if_pos hone, List.isEmpty_nil, if_pos rfl, hone]
      rfl
    · rw [if_neg hone, List.isEmpty_eq_false_iff.2 Nat.toDigits_ne_nil,
        if_neg Bool.false_ne_true,
        Numeral.clamped_toDigits_toNat (Int.le_trans (by decide) hcount)]
  exact congrArg₂ Group.mk hc (Numeral.clamped_toDigits_toNat hsides)

theorem within_said_typed {g : Group} (h : g.Within limits) :
    (g.typed.said Numeral.clamped).Within limits := by
  obtain ⟨⟨hone, hcount⟩, htwo, hsides⟩ := h
  have hceiling : (Numeral.ceiling : Int) = 999999999999 := rfl
  rw [said_typed hone (Int.le_trans (by decide) htwo)]
  refine ⟨⟨?_, Int.le_trans (Int.min_le_left _ _) hcount⟩, ?_,
    Int.le_trans (Int.min_le_left _ _) hsides⟩
  · show 1 ≤ min g.count Numeral.ceiling
    omega
  · show 2 ≤ min g.sides Numeral.ceiling
    omega

/-- The operand that is written for a group. -/
def operand (g : Group) : Operand :=
  .die g.typed g.wellFormed_typed

end Group

/-! ## The canonical form as a sentence -/

/-- One space. -/
def Gap.space : Gap :=
  ⟨[' '], by decide⟩

/-- A further term with one space on either side of its sign. -/
def Summand.spaced (s : Sign) (o : Operand) : Summand :=
  ⟨.space, s, .space, o⟩

/-- A number as an operand. -/
def Operand.ofNat (n : Nat) : Operand :=
  .number (Nat.toDigits 10 n) (Numeral.isNumeral_toDigits n)

namespace Expression

/-- The further term that is written for a modifier; zero is left out. -/
def modifierSummands (m : Int) : List Summand :=
  if 0 < m then [.spaced .plus (.ofNat m.natAbs)]
  else if m < 0 then [.spaced .minus (.ofNat m.natAbs)]
  else []

/-- **The canonical form as a sentence.** -/
def sentence (e : Expression) : Sentence where
  lead := .empty
  opening := none
  first := e.first.operand
  more := e.groups.tail.map (fun g => .spaced .plus g.operand) ++ modifierSummands e.modifier
  trail := .empty

/-- The further term for a modifier spells its suffix. -/
theorem chars_modifierSummands (m : Int) :
    (modifierSummands m).flatMap Summand.chars = (modifierSuffix m).toList := by
  unfold modifierSummands modifierSuffix
  split
  · next hpos =>
    have hdigits : (toString m).toList = Nat.toDigits 10 m.natAbs := by
      rw [Numeral.toList_toString (Int.le_of_lt hpos), show m.toNat = m.natAbs by omega]
    rw [String.toList_append, hdigits, List.flatMap_singleton]
    rfl
  · split
    · rw [String.toList_append, List.flatMap_singleton, Nat.toString_eq_repr, Nat.toList_repr]
      rfl
    · rfl

theorem intercalate_cons_eq (sep x : List Char) (xs : List (List Char)) :
    sep.intercalate (x :: xs) = x ++ xs.flatMap (sep ++ ·) := by
  induction xs generalizing x with
  | nil => simp
  | cons y ys ih =>
    rw [List.intercalate_cons_cons, ih, List.flatMap_cons, List.append_assoc, List.append_assoc]

/-- **The sentence of an expression spells its canonical form.** -/
theorem chars_sentence {e : Expression} (h : ∀ g ∈ e.groups, 0 ≤ g.count ∧ 0 ≤ g.sides) :
    e.sentence.chars = e.canonical.toList := by
  obtain ⟨groups, hne, modifier, text⟩ := e
  obtain ⟨g, gs, rfl⟩ := List.exists_cons_of_ne_nil hne
  have htyped (g' : Group) (hg' : g' ∈ g :: gs) : g'.operand.chars = g'.short.toList :=
    Group.chars_typed (h g' hg').1 (h g' hg').2
  have hmore : (gs.map fun g => Summand.spaced .plus g.operand).flatMap Summand.chars =
      (gs.map fun g => g.short.toList).flatMap (" + ".toList ++ ·) := by
    rw [List.flatMap_map, List.flatMap_map]
    refine List.flatMap_congr fun g' hg' => ?_
    show [' '] ++ '+' :: ([' '] ++ g'.operand.chars) = _
    rw [htyped g' (List.mem_cons_of_mem g hg')]
    rfl
  show [] ++ ([] ++ (g.operand.chars ++ ((gs.map (fun g => Summand.spaced .plus g.operand) ++
    modifierSummands modifier).flatMap Summand.chars ++ []))) = _
  unfold canonical
  rw [String.toList_append, String.toList_intercalate, List.map_map, List.map_cons,
    intercalate_cons_eq, List.flatMap_append, hmore, chars_modifierSummands,
    htyped g List.mem_cons_self, List.append_nil, List.append_assoc]
  rfl

/-- The operands of the sentence of an expression are its groups under a plus, and
the number of its modifier. -/
theorem signed_sentence (e : Expression) :
    e.sentence.signed = e.groups.map (fun g => (.plus, g.operand)) ++
      (modifierSummands e.modifier).map fun x => (x.sign, x.operand) := by
  obtain ⟨groups, hne, modifier, text⟩ := e
  obtain ⟨g, gs, rfl⟩ := List.exists_cons_of_ne_nil hne
  show (Sign.plus, g.operand) :: ((gs.map fun g => Summand.spaced .plus g.operand) ++
    modifierSummands modifier).map (fun x => (x.sign, x.operand)) = _
  rw [List.map_append, List.map_map, List.map_cons, List.cons_append]
  rfl

theorem chars_trim_sentence (e : Expression) : e.sentence.trim.chars = e.sentence.chars := by
  have hbare : e.first.operand.bare.chars = e.first.operand.chars := by
    have hindent : e.first.operand.indent.chars = [] := by
      show (if _ then _ else _ : Gap).chars = []
      split <;> rfl
    rw [← e.first.operand.chars_bare, hindent, List.nil_append]
  show [] ++ ([] ++ (e.first.operand.bare.chars ++ _)) = [] ++ ([] ++ (e.first.operand.chars ++ _))
  rw [hbare]
  rfl

/-! ## What the canonical form says -/

/-- Whether every number of an expression has twelve digits at most, and every group
at least one die with a number of sides. -/
structure Typable (e : Expression) : Prop where
  /-- The numbers of the groups can be typed. -/
  groups : ∀ g ∈ e.groups, (1 ≤ g.count ∧ g.count ≤ Numeral.ceiling) ∧
    0 ≤ g.sides ∧ g.sides ≤ Numeral.ceiling
  /-- The modifier can be typed. -/
  modifier : e.modifier.natAbs ≤ Numeral.ceiling

/-- **The terms of the canonical form** are the dice that are written for the groups, and
what is written for the modifier. -/
theorem terms_sentence (e : Expression) :
    e.sentence.terms Numeral.clamped =
      e.groups.map (fun g => Term.dice (g.typed.said Numeral.clamped)) ++
        (modifierSummands e.modifier).map fun x => x.operand.term Numeral.clamped x.sign := by
  unfold Sentence.terms
  rw [signed_sentence, List.map_append, List.map_map, List.map_map]
  rfl

/-- What is written for a modifier is a number with one space on either side of its sign. -/
theorem eq_of_mem_modifierSummands {m : Int} {x : Summand} (hx : x ∈ modifierSummands m) :
    ∃ s, x = .spaced s (.ofNat m.natAbs) := by
  unfold modifierSummands at hx
  split at hx
  · exact ⟨.plus, List.mem_singleton.1 hx⟩
  · split at hx
    · exact ⟨.minus, List.mem_singleton.1 hx⟩
    · cases hx

/-- The term that is written for a modifier is no group, and adds the modifier, up to the
ceiling on either side of zero. -/
theorem terms_modifierSummands (m : Int) :
    let terms := (modifierSummands m).map fun x => x.operand.term Numeral.clamped x.sign
    terms.filterMap Term.group? = [] ∧
      sumOf (terms.map Term.amount) = max (-(Numeral.ceiling : Int)) (min m Numeral.ceiling) := by
  have hterm (s : Sign) : (Operand.ofNat m.natAbs).term Numeral.clamped s =
      .flat (s.apply (min m.natAbs Numeral.ceiling : Nat)) := by
    show Term.flat (s.apply (Numeral.clamped (Nat.toDigits 10 m.natAbs))) = _
    rw [Numeral.clamped_toDigits]
  unfold modifierSummands
  dsimp only
  split
  · refine ⟨rfl, ?_⟩
    show ((Operand.ofNat m.natAbs).term Numeral.clamped .plus).amount + 0 = _
    rw [hterm]
    show ((min m.natAbs Numeral.ceiling : Nat) : Int) + 0 = _
    omega
  · split
    · refine ⟨rfl, ?_⟩
      show ((Operand.ofNat m.natAbs).term Numeral.clamped .minus).amount + 0 = _
      rw [hterm]
      show -((min m.natAbs Numeral.ceiling : Nat) : Int) + 0 = _
      omega
    · refine ⟨rfl, ?_⟩
      show (0 : Int) = _
      omega

/-- **The groups of the canonical form** are those of the expression, if they can be
typed. -/
theorem groups_sentence {e : Expression} (he : e.Typable) :
    e.sentence.groups Numeral.clamped = e.groups := by
  have hsaid : e.groups.map (fun g => g.typed.said Numeral.clamped) = e.groups := by
    refine (List.map_congr_left fun g hg => ?_).trans (List.map_id e.groups)
    obtain ⟨⟨hcount, hcount'⟩, hsides, hsides'⟩ := he.groups g hg
    rw [Group.said_typed hcount hsides, Int.min_eq_left hcount', Int.min_eq_left hsides']
    rfl
  have hdice : (e.groups.map fun g => Term.dice (g.typed.said Numeral.clamped)).filterMap
      Term.group? = e.groups := by
    rw [List.filterMap_map]
    exact (congrFun List.filterMap_eq_map e.groups).trans hsaid
  unfold Sentence.groups
  rw [terms_sentence, List.filterMap_append, hdice, (terms_modifierSummands e.modifier).1,
    List.append_nil]

/-- **The modifier of the canonical form** is that of the expression, up to the ceiling on
either side of zero. -/
theorem modifier_sentence (e : Expression) :
    e.sentence.modifier Numeral.clamped =
      max (-(Numeral.ceiling : Int)) (min e.modifier Numeral.ceiling) := by
  have hdice : sumOf ((e.groups.map fun g => Term.dice (g.typed.said Numeral.clamped)).map
      Term.amount) = 0 := by
    induction e.groups with
    | nil => rfl
    | cons g gs ih =>
      rw [List.map_cons, List.map_cons, sumOf_cons, ih]
      rfl
  unfold Sentence.modifier
  rw [terms_sentence, List.map_append, sumOf_append, hdice,
    (terms_modifierSummands e.modifier).2, Int.zero_add]

/-- **The canonical form is accepted** where its groups and its modifier are within the
limits, however many digits they have. -/
theorem accepted_sentence {e : Expression} (hgroups : ∀ g ∈ e.groups, g.Within limits)
    (hmodifier : e.modifier.natAbs ≤ limits.maxModifier) :
    e.sentence.Accepted Numeral.clamped limits where
  groups := List.cons_ne_nil _ _
  allowed := by
    rw [signed_sentence, List.forall_mem_append, List.forall_mem_map, List.forall_mem_map]
    refine ⟨fun g hg => ⟨rfl, Group.within_said_typed (hgroups g hg)⟩, fun x hx => ?_⟩
    obtain ⟨s, rfl⟩ := eq_of_mem_modifierSummands hx
    trivial
  modifier := by
    rw [modifier_sentence]
    omega

end Expression

/-! ## Reading what was written -/

/-- The groups of a sentence that is accepted are within the limits. -/
theorem Sentence.Accepted.within {numeral : List Char → Nat} {s : Sentence}
    (h : s.Accepted numeral limits) : ∀ g ∈ s.groups numeral, g.Within limits := by
  intro g hg
  obtain ⟨term, hterm, hgroup⟩ := List.mem_filterMap.1 hg
  obtain ⟨⟨sign, o⟩, hx, rfl⟩ := List.mem_map.1 hterm
  cases o with
  | number digits hd => cases hgroup
  | die d hd =>
    cases hgroup
    exact (h.allowed _ hx).2

namespace Expression

/-- **An expression that was read is within the limits.** -/
theorem within_of_parse {text : String} {e : Expression} (h : parse limits text = .ok e) :
    (∀ g ∈ e.groups, g.Within limits) ∧ e.modifier.natAbs ≤ limits.maxModifier := by
  obtain ⟨s, -, haccepted, hgroups, hmodifier, -⟩ := read_eq_ok_iff.1 h
  rw [hgroups, hmodifier]
  exact ⟨haccepted.within, haccepted.modifier⟩

/-- The canonical form tells groups and modifier, and nothing else. -/
theorem canonical_congr {e e' : Expression} (hgroups : e.groups = e'.groups)
    (hmodifier : e.modifier = e'.modifier) : e.canonical = e'.canonical := by
  unfold canonical
  rw [hgroups, hmodifier]

section Inverse

variable (hcount : limits.maxCount ≤ Numeral.ceiling) (hsides : limits.maxSides ≤ Numeral.ceiling)
  (hmodifier : limits.maxModifier ≤ Numeral.ceiling)

include hcount hsides hmodifier

theorem typable_of_within {e : Expression} (hgroups : ∀ g ∈ e.groups, g.Within limits)
    (hm : e.modifier.natAbs ≤ limits.maxModifier) : e.Typable where
  groups g hg := by
    obtain ⟨⟨h1, h2⟩, h3, h4⟩ := hgroups g hg
    exact ⟨⟨h1, Int.le_trans h2 hcount⟩, Int.le_trans (by decide) h3, Int.le_trans h4 hsides⟩
  modifier := Int.ofNat_le.1 (Int.le_trans hm hmodifier)

/-- **The canonical form is read back** as the expression that it was written for. -/
theorem parse_canonical {e : Expression} (hgroups : ∀ g ∈ e.groups, g.Within limits)
    (hm : e.modifier.natAbs ≤ limits.maxModifier) :
    parse limits e.canonical = .ok { e with text := e.canonical } := by
  have he := typable_of_within hcount hsides hmodifier hgroups hm
  have hchars : e.sentence.chars = e.canonical.toList := by
    refine chars_sentence fun g hg => ?_
    obtain ⟨⟨h1, -⟩, h3, -⟩ := he.groups g hg
    exact ⟨Int.le_trans (by decide) h1, h3⟩
  have hmodifier' : e.sentence.modifier Numeral.clamped = e.modifier := by
    have hle := he.modifier
    rw [modifier_sentence]
    omega
  refine (read_sentence hchars).2 ⟨accepted_sentence hgroups hm, (groups_sentence he).symm,
    hmodifier'.symm, ?_⟩
  rw [← hchars, Sentence.strip_chars, chars_trim_sentence, hchars, String.ofList_toList]

/-- **The canonical form of what was read** is read as an expression of the same groups
and modifier. -/
theorem parse_canonical_of_parse {text : String} {e : Expression}
    (h : parse limits text = .ok e) :
    parse limits e.canonical = .ok { e with text := e.canonical } :=
  parse_canonical hcount hsides hmodifier (within_of_parse h).1 (within_of_parse h).2

end Inverse

/-- **Writing and reading are inverse**, under limits of twelve digits. The canonical form
of every expression within the limits is read as its groups and its modifier, with the
canonical form as its text. So the canonical form of what was read is read as the same
groups and modifier, and written as before; and two texts have the same canonical form
exactly if they are read as the same groups and the same modifier. -/
theorem parse_canonical_inverse {limits : Limits} (hcount : limits.maxCount ≤ Numeral.ceiling)
    (hsides : limits.maxSides ≤ Numeral.ceiling)
    (hmodifier : limits.maxModifier ≤ Numeral.ceiling) :
    (∀ e : Expression, (∀ g ∈ e.groups, g.Within limits) →
      e.modifier.natAbs ≤ limits.maxModifier →
        parse limits e.canonical = .ok { e with text := e.canonical }) ∧
      (∀ text e, parse limits text = .ok e → ∃ e', parse limits e.canonical = .ok e' ∧
        e'.groups = e.groups ∧ e'.modifier = e.modifier ∧ e'.canonical = e.canonical) ∧
      ∀ text text' e e', parse limits text = .ok e → parse limits text' = .ok e' →
        (e.canonical = e'.canonical ↔ e.groups = e'.groups ∧ e.modifier = e'.modifier) := by
  refine ⟨fun e => parse_canonical hcount hsides hmodifier, fun text e h => ?_,
    fun text text' e e' h h' => ⟨fun hcanonical => ?_, fun hsame => ?_⟩⟩
  · exact ⟨_, parse_canonical_of_parse hcount hsides hmodifier h, rfl, rfl, rfl⟩
  · -- both are what the one canonical form is read as
    have hread := parse_canonical_of_parse hcount hsides hmodifier h
    rw [hcanonical, parse_canonical_of_parse hcount hsides hmodifier h'] at hread
    simp only [Except.ok.injEq, Expression.mk.injEq] at hread
    exact ⟨hread.1.symm, hread.2.1.symm⟩
  · exact canonical_congr hsame.1 hsame.2

/-- Under the widest limits a count of one is left out and the modifier keeps its sign. -/
theorem parse_canonical_inverse_widest :
    let limits : Limits := ⟨999999999999, 999999999999, 999999999999⟩
    let e : Expression := ⟨[⟨1, 20⟩, ⟨999999999999, 6⟩], by decide, -10, "D20-10+999999999999 d 6"⟩
    limits.maxCount ≤ Numeral.ceiling ∧ limits.maxSides ≤ Numeral.ceiling ∧
      limits.maxModifier ≤ Numeral.ceiling ∧ (∀ g ∈ e.groups, g.Within limits) ∧
      e.modifier.natAbs ≤ limits.maxModifier ∧
      parse limits "d20 + 999999999999d6 - 10" =
        .ok ⟨[⟨1, 20⟩, ⟨999999999999, 6⟩], by decide, -10, "d20 + 999999999999d6 - 10"⟩ := by
  intro limits e
  have hcanonical : e.canonical = "d20 + 999999999999d6 - 10" := by decide +kernel
  have hwithin : ∀ g ∈ e.groups, g.Within limits := by decide
  have hm : (e.modifier.natAbs : Int) ≤ limits.maxModifier := by decide
  have hcount : limits.maxCount ≤ Numeral.ceiling := by decide
  have hsides : limits.maxSides ≤ Numeral.ceiling := by decide
  have hmodifier : limits.maxModifier ≤ Numeral.ceiling := by decide
  have hread := (parse_canonical_inverse hcount hsides hmodifier).1 e hwithin hm
  rw [hcanonical] at hread
  exact ⟨hcount, hsides, hmodifier, hwithin, hm, hread⟩

end Expression

end Tabletop
