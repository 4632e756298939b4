import Tabletop.Proofs.Advice.Tidying
import Tabletop.Proofs.Notation.Clamping

/-!
# Tidying a notation

Tidying is meant for what is mistyped; of a notation that is read as an
expression it leaves all but three things. The blanks go, a capital letter of a
die is lowered, and a sign at the very front is dropped
(`Tidy.tidied_sentence`). The first two say nothing, and neither does a plus. A
minus does: what it stood before must be a number, which is now added where it
was subtracted, so the modifier grows by twice that number
(`Tidy.tidy_notation`).
-/

namespace Tabletop

open Text

/-! ## The sentence of the tidied text -/

namespace DieText

/-- A die as it is tidied. -/
def tidied (d : DieText) : DieText :=
  { d with before := [], letter := 'd', after := [] }

theorem wellFormed_tidied {d : DieText} (h : d.WellFormed) : d.tidied.WellFormed :=
  ⟨h.count, rfl, rfl, rfl, h.sides⟩

theorem chars_tidied (d : DieText) : d.tidied.chars = d.count ++ 'd' :: d.sides := by
  simp [tidied, chars]

end DieText

namespace Operand

/-- An operand as it is tidied. -/
def tidied : Operand → Operand
  | number digits h => number digits h
  | die d h => die d.tidied (DieText.wellFormed_tidied h)

variable {numeral : List Char → Nat} {limits : Limits}

@[simp] theorem term_tidied (s : Sign) (o : Operand) :
    o.tidied.term numeral s = o.term numeral s := by
  cases o <;> rfl

@[simp] theorem allowed_tidied (s : Sign) (o : Operand) :
    o.tidied.Allowed numeral limits s ↔ o.Allowed numeral limits s := by
  cases o <;> rfl

end Operand

namespace Sentence

/-- **A sentence as it is tidied**: without gaps and without its opening sign. -/
def tidied (s : Sentence) : Sentence where
  lead := .empty
  opening := none
  first := s.first.tidied
  more := s.more.map fun x => ⟨.empty, x.sign, .empty, x.operand.tidied⟩
  trail := .empty

/-- The opening sign of a sentence, alone. -/
def openingSignChars (s : Sentence) : List Char :=
  (s.opening.map fun op => op.1.char).toList

/-- **A sentence without its blanks** is its signs and its operands without theirs. -/
theorem withoutBlanks_chars (s : Sentence) : withoutBlanks s.chars =
    s.openingSignChars ++ (withoutBlanks s.first.chars ++
      s.more.flatMap fun x => x.sign.char :: withoutBlanks x.operand.chars) := by
  obtain ⟨lead, opening, first, more, trail⟩ := s
  have hsign (sign : Sign) (cs : List Char) :
      withoutBlanks (sign.char :: cs) = sign.char :: withoutBlanks cs :=
    withoutBlanks_cons (isBlank_of_isSign (isSign_char sign)) cs
  have hmore : withoutBlanks (more.flatMap Summand.chars) =
      more.flatMap fun x => x.sign.char :: withoutBlanks x.operand.chars := by
    induction more with
    | nil => rfl
    | cons x more ih =>
      rw [List.flatMap_cons, withoutBlanks_append, ih, List.flatMap_cons, Summand.chars,
        withoutBlanks_append, hsign, withoutBlanks_append, Gap.withoutBlanks_chars,
        Gap.withoutBlanks_chars, List.nil_append, List.nil_append]
  have hopening : withoutBlanks (Sentence.mk lead opening first more trail).openingChars =
      (Sentence.mk lead opening first more trail).openingSignChars := by
    cases opening with
    | none => rfl
    | some op =>
      show withoutBlanks (op.1.char :: op.2.chars) = [op.1.char]
      rw [hsign, Gap.withoutBlanks_chars]
  rw [chars, withoutBlanks_append, withoutBlanks_append, withoutBlanks_append, withoutBlanks_append,
    hopening, hmore, Gap.withoutBlanks_chars, Gap.withoutBlanks_chars, List.nil_append,
    List.append_nil]

theorem chars_tidied (s : Sentence) : s.tidied.chars =
    s.first.tidied.chars ++ s.more.flatMap fun x => x.sign.char :: x.operand.tidied.chars := by
  simp [chars, openingChars, tidied, Gap.empty, List.flatMap_map, Summand.chars]

variable {numeral : List Char → Nat} {limits : Limits}

theorem terms_eq_cons (s : Sentence) : s.terms numeral =
    s.first.term numeral s.openingSign :: s.more.map fun x => x.operand.term numeral x.sign := by
  rw [terms, signed, List.map_cons, List.map_map]
  rfl

theorem signed_tidied (s : Sentence) : s.tidied.signed =
    (.plus, s.first.tidied) :: s.more.map fun x => (x.sign, x.operand.tidied) := by
  simp [signed, openingSign, tidied]

/-- **What a tidied sentence says**: the same, with a plus before the first operand. -/
theorem terms_tidied (s : Sentence) : s.tidied.terms numeral =
    s.first.term numeral .plus :: s.more.map fun x => x.operand.term numeral x.sign := by
  simp [terms, signed_tidied]

theorem groups_tidied (s : Sentence) : s.tidied.groups numeral = s.groups numeral := by
  rw [groups, groups, terms_tidied, terms_eq_cons, List.filterMap_cons, List.filterMap_cons,
    Operand.group?_term, Operand.group?_term]

theorem allowed_tidied {s : Sentence} (h : ∀ x ∈ s.signed, x.2.Allowed numeral limits x.1) :
    ∀ x ∈ s.tidied.signed, x.2.Allowed numeral limits x.1 := by
  rw [signed, List.forall_mem_cons, List.forall_mem_map] at h
  rw [signed_tidied, List.forall_mem_cons, List.forall_mem_map]
  refine ⟨?_, fun x hx => (Operand.allowed_tidied x.sign x.operand).2 (h.2 x hx)⟩
  rw [Operand.allowed_tidied, Operand.allowed_iff]
  exact fun d hd => ⟨rfl, ((Operand.allowed_iff _ _).1 h.1 d hd).2⟩

/-- **The modifier of a tidied sentence** is that of the sentence, if no minus opens it. -/
theorem modifier_tidied {s : Sentence} (h : s.openingSign = .plus) :
    s.tidied.modifier numeral = s.modifier numeral := by
  rw [modifier, modifier, terms_tidied, terms_eq_cons, h]

/-- **Where a minus opens a sentence** its number is added, and no longer subtracted. -/
theorem modifier_tidied_of_minus {s : Sentence} (h : s.openingSign = .minus) {digits : List Char}
    {hd : IsNumeral digits} (hfirst : s.first = .number digits hd) :
    s.tidied.modifier numeral = s.modifier numeral + 2 * (numeral digits : Int) := by
  rw [modifier, modifier, terms_tidied, terms_eq_cons, h, hfirst, List.map_cons, List.map_cons,
    sumOf_cons, sumOf_cons]
  show (numeral digits : Int) + sumOf _ =
    -(numeral digits : Int) + sumOf _ + 2 * (numeral digits : Int)
  omega

end Sentence

/-! ## The passes over a sentence -/

namespace Tidy

variable {c : Char} {cs rest : List Char}

/-- A text without the sign that it begins with, if it does. -/
def withoutOpening : List Char → List Char
  | [] => []
  | c :: cs => if isSign c then cs else c :: cs

/-- A capital letter of a die is lowered. -/
def lowered (c : Char) : Char :=
  if c = 'D' then 'd' else c

theorem ne_of_digits {digits : List Char} (h : digits.all Char.isDigit = true) :
    ∀ c ∈ digits, c ≠ 'D' := by
  rintro _ hc rfl
  cases List.all_eq_true.1 h 'D' hc

/-- **An operand is lowered** where it stands. -/
theorem lowerDie_operand (o : Operand) (rest : List Char) :
    lowerDie (withoutBlanks o.chars ++ rest) = o.tidied.chars ++ lowerDie rest := by
  cases o with
  | number digits h =>
    show lowerDie (withoutBlanks digits ++ rest) = digits ++ lowerDie rest
    rw [withoutBlanks_digits h.2, lowerDie_append (ne_of_digits h.2)]
  | die d h =>
    obtain ⟨side, sides, hsides⟩ := List.exists_cons_of_ne_nil h.sides.1
    have hdigit : beginsWith Char.isDigit (d.sides ++ rest) = true := by
      have hall := h.sides.2
      rw [hsides, List.all_cons, Bool.and_eq_true] at hall
      rw [hsides, List.cons_append, beginsWith_cons, hall.1]
    have hletter : (if d.letter == 'D' && beginsWith Char.isDigit (d.sides ++ rest) then 'd'
        else d.letter) = 'd' := by
      rw [hdigit]
      rcases eq_of_isDieLetter h.letter with hd | hd <;> rw [hd] <;> rfl
    show lowerDie (withoutBlanks d.chars ++ rest) = d.tidied.chars ++ lowerDie rest
    rw [DieText.withoutBlanks_chars h, DieText.chars_append, DieText.chars_tidied]
    simp only [DieText.compact, List.nil_append, List.append_assoc, List.cons_append]
    rw [lowerDie_append (ne_of_digits h.count), lowerDie, hletter,
      lowerDie_append (ne_of_digits h.sides.2)]

/-- **A sentence is lowered**, its opening sign left where it is. -/
theorem lowerDie_sentence (s : Sentence) :
    lowerDie (withoutBlanks s.chars) = s.openingSignChars ++ s.tidied.chars := by
  have hsign (sign : Sign) : ∀ c ∈ [sign.char], c ≠ 'D' := by
    intro c hc
    rw [List.mem_singleton.1 hc]
    cases sign <;> decide
  have hmore (more : List Summand) :
      lowerDie (more.flatMap fun x => x.sign.char :: withoutBlanks x.operand.chars) =
        more.flatMap fun x => x.sign.char :: x.operand.tidied.chars := by
    induction more with
    | nil => rfl
    | cons x more ih =>
      rw [List.flatMap_cons, List.flatMap_cons, ← List.singleton_append, List.append_assoc,
        lowerDie_append (hsign x.sign), lowerDie_operand, ih]
      simp
  have hopening : ∀ c ∈ s.openingSignChars, c ≠ 'D' := by
    unfold Sentence.openingSignChars
    cases s.opening with
    | none => simp
    | some op => exact hsign op.1
  rw [s.withoutBlanks_chars, lowerDie_append hopening, lowerDie_operand, hmore, s.chars_tidied]

/-- Lowering every capital letter of an operand tidies it. -/
theorem map_lowered_operand (o : Operand) :
    (withoutBlanks o.chars).map lowered = o.tidied.chars := by
  have hdigits {digits : List Char} (h : digits.all Char.isDigit = true) :
      digits.map lowered = digits :=
    calc digits.map lowered = digits.map fun c => c :=
          List.map_congr_left fun c hc => if_neg (ne_of_digits h c hc)
      _ = digits := List.map_id' digits
  cases o with
  | number digits h =>
    show (withoutBlanks digits).map lowered = digits
    rw [withoutBlanks_digits h.2, hdigits h.2]
  | die d h =>
    have hletter : lowered d.letter = 'd' := by
      rcases eq_of_isDieLetter h.letter with hd | hd <;> rw [hd] <;> rfl
    show (withoutBlanks d.chars).map lowered = d.tidied.chars
    rw [DieText.withoutBlanks_chars h, DieText.chars_tidied, DieText.chars]
    simp [DieText.compact, hdigits h.count, hdigits h.sides.2, hletter]

/-! ## The tidied sentence is tidy -/

theorem isUseful_of_isOperand (h : isOperand c = true) : isUseful c = true := by
  rw [isOperand, Bool.or_eq_true] at h
  rw [isUseful, Bool.or_assoc, Bool.or_eq_true, Bool.or_eq_true]
  exact h.imp_right .inr

theorem isSign_of_isOperand (h : isOperand c = true) : isSign c = false :=
  isSign_of_isAlphanum (isAlphanum_of_isOperand h)

theorem isTidy_operand (h : cs.all isOperand = true) : IsTidy cs := by
  have hsign (c : Char) (hc : c ∈ cs) : isSign c = false :=
    isSign_of_isOperand (List.all_eq_true.1 h c hc)
  refine ⟨List.all_eq_true.2 fun c hc => isUseful_of_isOperand (List.all_eq_true.1 h c hc), ?_,
    beginsWith_of_all (fun c => isSign_of_isOperand) h,
    beginsWith_of_all (fun c => isSign_of_isOperand) (by rw [List.all_reverse, h])⟩
  refine List.isChain_iff_forall_rel_of_append_cons_cons.2 fun c c' front back hcs hboth => ?_
  rw [hsign c (by simp [hcs])] at hboth
  cases hboth.1

theorem IsTidy.isChain_cons (h : IsTidy rest) (c : Char) : (c :: rest).IsChain Apart := by
  refine List.isChain_cons.2 ⟨fun c' hc' hboth => ?_, h.apart⟩
  have hfront : beginsWith isSign rest = isSign c' := by
    rw [beginsWith, Option.mem_def.1 hc']
    rfl
  rw [h.front, hboth.2] at hfront
  cases hfront

/-- **A sign between an operand and a tidy text** is tidy. -/
theorem IsTidy.append_sign (h : IsTidy rest) (hne : rest ≠ []) (hc : isSign c = true)
    (hcs : cs ≠ []) (hall : cs.all isOperand = true) : IsTidy (cs ++ c :: rest) := by
  have hoperand := isTidy_operand hall
  refine ⟨?_, ?_, ?_, ?_⟩
  · rw [List.all_append, List.all_cons, hoperand.useful, isUseful_of_isSign hc, h.useful]
    rfl
  · refine hoperand.apart.append (h.isChain_cons c) fun x hx y hy hboth => ?_
    have hxs := isSign_of_isOperand (List.all_eq_true.1 hall x (List.mem_of_getLast? hx))
    rw [hxs] at hboth
    cases hboth.1
  · rw [beginsWith_append hcs]
    exact hoperand.front
  · have hback := h.back
    have hne' : rest.reverse ≠ [] := fun hnil => hne (List.reverse_eq_nil_iff.1 hnil)
    rw [List.reverse_append, List.reverse_cons, List.append_assoc, beginsWith_append hne']
    exact hback

theorem all_isOperand_tidied (o : Operand) :
    o.tidied.chars ≠ [] ∧ o.tidied.chars.all isOperand = true := by
  have hdigits {digits : List Char} (h : digits.all Char.isDigit = true) :
      digits.all isOperand = true :=
    List.all_eq_true.2 fun c hc => by rw [isOperand, List.all_eq_true.1 h c hc, Bool.true_or]
  cases o with
  | number digits h => exact ⟨h.1, hdigits h.2⟩
  | die d h =>
    show d.tidied.chars ≠ [] ∧ d.tidied.chars.all isOperand = true
    rw [DieText.chars_tidied, List.all_append, List.all_cons, hdigits h.count, hdigits h.sides.2]
    exact ⟨by simp, rfl⟩

/-- **A tidied sentence spells a tidy text.** -/
theorem isTidy_sentence (s : Sentence) : IsTidy s.tidied.chars ∧ s.tidied.chars ≠ [] := by
  rw [s.chars_tidied]
  generalize s.first = first
  induction s.more generalizing first with
  | nil =>
    rw [List.flatMap_nil, List.append_nil]
    exact ⟨isTidy_operand (all_isOperand_tidied first).2, (all_isOperand_tidied first).1⟩
  | cons x more ih =>
    obtain ⟨htidy, hne⟩ := ih x.operand
    obtain ⟨hfirst, hall⟩ := all_isOperand_tidied first
    rw [List.flatMap_cons, List.cons_append]
    exact ⟨htidy.append_sign hne (isSign_char x.sign) hfirst hall, by simp [hfirst]⟩

/-- What is left of a sentence without its blanks is digits, signs and letters of dice. -/
theorem cases_of_mem_withoutBlanks {s : Sentence} (hc : c ∈ withoutBlanks s.chars) :
    c.isDigit = true ∨ isSign c = true ∨ isDieLetter c = true := by
  have hoperand (o : Operand) (hc : c ∈ withoutBlanks o.chars) :
      c.isDigit = true ∨ isSign c = true ∨ isDieLetter c = true := by
    obtain ⟨hc, hblank⟩ := List.mem_filter.1 hc
    cases o with
    | number digits h => exact .inl (List.all_eq_true.1 h.2 c hc)
    | die d h =>
      rcases DieText.cases_of_mem h hc with hdigit | hblank' | hletter
      · exact .inl hdigit
      · rw [hblank'] at hblank
        cases hblank
      · exact .inr (.inr hletter)
  rw [s.withoutBlanks_chars, List.mem_append, List.mem_append, List.mem_flatMap] at hc
  rcases hc with hc | hc | ⟨x, -, hc⟩
  · obtain ⟨op, -, rfl⟩ := Option.map_eq_some_iff.1 (Option.mem_toList.1 hc)
    exact .inr (.inl (isSign_char op.1))
  · exact hoperand s.first hc
  · rcases List.mem_cons.1 hc with rfl | hc
    · exact .inr (.inl (isSign_char x.sign))
    · exact hoperand x.operand hc

theorem crossToDie_sentence (s : Sentence) :
    (withoutBlanks s.chars).map crossToDie = withoutBlanks s.chars :=
  calc (withoutBlanks s.chars).map crossToDie = (withoutBlanks s.chars).map fun c => c :=
        List.map_congr_left fun _ hc => crossToDie_eq_self (cases_of_mem_withoutBlanks hc)
    _ = withoutBlanks s.chars := List.map_id' _

theorem all_isSign_opening (s : Sentence) : s.openingSignChars.all isSign = true := by
  unfold Sentence.openingSignChars
  cases s.opening with
  | none => rfl
  | some op => simp

theorem all_isUseful_opened (s : Sentence) :
    (s.openingSignChars ++ s.tidied.chars).all isUseful = true := by
  rw [List.all_append, (isTidy_sentence s).1.useful, Bool.and_true]
  exact List.all_eq_true.2 fun c hc =>
    isUseful_of_isSign (List.all_eq_true.1 (all_isSign_opening s) c hc)

theorem isChain_opened (s : Sentence) : (s.openingSignChars ++ s.tidied.chars).IsChain Apart := by
  unfold Sentence.openingSignChars
  cases s.opening with
  | none => exact (isTidy_sentence s).1.apart
  | some op => exact (isTidy_sentence s).1.isChain_cons op.1.char

/-- **Tidying a sentence** spells the tidied sentence. -/
theorem tidied_sentence (s : Sentence) : tidied s.chars = s.tidied.chars := by
  obtain ⟨htidy, hne⟩ := isTidy_sentence s
  have hstrip : strip isSign (s.openingSignChars ++ s.tidied.chars) = s.tidied.chars := by
    rw [← List.append_nil (_ ++ _)]
    exact strip_append_append (all_isSign_opening s) rfl htidy.front htidy.back hne
  rw [tidied, crossToDie_sentence, lowerDie_sentence,
    List.filter_eq_self.2 (List.all_eq_true.1 (all_isUseful_opened s)),
    mergeSigns_eq_self (isChain_opened s), hstrip]

theorem isSign_lowered (c : Char) : isSign (lowered c) = isSign c := by
  unfold lowered
  split
  · next h => rw [h]; rfl
  · rfl

theorem withoutOpening_eq_self (h : beginsWith isSign cs = false) : withoutOpening cs = cs := by
  cases cs with
  | nil => rfl
  | cons c cs =>
    rw [beginsWith_cons] at h
    rw [withoutOpening, h, if_neg Bool.false_ne_true]

theorem withoutOpening_map_lowered (cs : List Char) :
    withoutOpening (cs.map lowered) = (withoutOpening cs).map lowered := by
  cases cs with
  | nil => rfl
  | cons c cs =>
    rw [List.map_cons, withoutOpening, withoutOpening, isSign_lowered]
    split <;> rfl

/-- **A sentence without blanks, lowered**, is its opening sign and the tidied sentence. -/
theorem map_lowered_withoutBlanks (s : Sentence) :
    (withoutBlanks s.chars).map lowered = s.openingSignChars ++ s.tidied.chars := by
  have hsign (sign : Sign) : lowered sign.char = sign.char := by cases sign <;> rfl
  have hopening : s.openingSignChars.map lowered = s.openingSignChars := by
    unfold Sentence.openingSignChars
    cases s.opening with
    | none => rfl
    | some op => exact congrArg (fun c => [c]) (hsign op.1)
  rw [s.withoutBlanks_chars, List.map_append, hopening, s.chars_tidied, List.map_append,
    map_lowered_operand, List.map_flatMap]
  simp only [List.map_cons, hsign, map_lowered_operand]

/-- **The tidied sentence, told by the text**: without blanks and opening sign, and lowered. -/
theorem map_lowered_sentence (s : Sentence) :
    (withoutOpening (withoutBlanks s.chars)).map lowered = s.tidied.chars := by
  rw [← withoutOpening_map_lowered, map_lowered_withoutBlanks]
  unfold Sentence.openingSignChars
  cases s.opening with
  | none => exact withoutOpening_eq_self (isTidy_sentence s).1.front
  | some op =>
    show withoutOpening (op.1.char :: _) = _
    rw [withoutOpening, isSign_char, if_pos rfl]
    rfl

end Tidy

/-! ## Reading a tidied notation -/

namespace Expression

variable {numeral : List Char → Nat} {limits : Limits}

/-- **What is concluded from terms** with dice among them: an expression, or a fault of the
modifier. -/
theorem conclude_of_groups (limits : Limits) (text : List Char) {terms : List Term}
    (hgroups : terms.filterMap Term.group? ≠ []) :
    ((sumOf (terms.map Term.amount)).natAbs ≤ limits.maxModifier →
      ∃ e, Reading.conclude limits text terms .term = .ok e ∧
        e.groups = terms.filterMap Term.group? ∧ e.modifier = sumOf (terms.map Term.amount)) ∧
    (limits.maxModifier < (sumOf (terms.map Term.amount)).natAbs →
      Reading.conclude limits text terms .term =
        .error (.modifierOutOfRange (sumOf (terms.map Term.amount)) limits.maxModifier)) := by
  refine ⟨fun hle => ?_, fun hlt => ?_⟩
  · exact ⟨⟨_, hgroups, _, String.ofList text⟩,
      Reading.conclude_eq_ok_iff.2 ⟨rfl, hgroups, hle, rfl, rfl, rfl⟩, rfl, rfl⟩
  · exact Reading.conclude_eq_error_iff.2 (.inr (.inr ⟨rfl, hgroups, hlt, rfl⟩))

/-- **Whether a text says groups and a modifier**: it is read as an expression with them, if
the modifier is within the limits, and else the modifier is at fault. -/
structure Says (limits : Limits) (text : String) (groups : List Group) (modifier : Int) : Prop where
  /-- It is read. -/
  within : modifier.natAbs ≤ limits.maxModifier →
    ∃ e, parse limits text = .ok e ∧ e.groups = groups ∧ e.modifier = modifier
  /-- The modifier is at fault. -/
  beyond : limits.maxModifier < modifier.natAbs →
    parse limits text = .error (.modifierOutOfRange modifier limits.maxModifier)

/-- A sentence says its groups and its modifier, where it has dice and all are allowed. -/
theorem says_of_sentence {text : String} {s : Sentence} (hs : s.chars = text.toList)
    (hgroups : s.groups Numeral.clamped ≠ [])
    (hallowed : ∀ x ∈ s.signed, x.2.Allowed Numeral.clamped limits x.1) :
    Says limits text (s.groups Numeral.clamped) (s.modifier Numeral.clamped) := by
  have hparse : parse limits text = Reading.conclude limits (trimmed text)
      (s.terms Numeral.clamped) .term := read_eq_conclude hs hallowed
  obtain ⟨hwithin, hbeyond⟩ := conclude_of_groups limits (trimmed text) hgroups
  rw [← hparse] at hwithin hbeyond
  exact ⟨hwithin, hbeyond⟩

end Expression

namespace Tidy

open Expression

variable {limits : Limits} {text : String}

/-- A sentence opens with a minus if its text, without the blanks around it, begins with one. -/
theorem head?_trim_eq_minus_iff (s : Sentence) :
    s.trim.chars.head? = some '-' ↔ s.openingSign = .minus := by
  have hminus : s.trim.chars.head? = some '-' ↔
      s.trim.chars.head?.bind Sign.ofChar? = some .minus := by
    cases s.trim.chars.head? with
    | none => exact iff_of_false (by simp) (by simp)
    | some c => rw [Option.some.injEq, Option.bind_some, Sign.ofChar?_eq_some]; rfl
  rw [hminus, s.ofChar?_head?_trim]
  unfold Sentence.openingSign
  split
  · next hopening => simp [hopening]
  · next sign gap hopening => simp [hopening]

/-- **What tidying does to a notation.** Of a text that is read as an expression it leaves all
but the blanks, the capital letters of dice and a sign at the front. So the tidied text says
the groups and the modifier of the expression, unless the text opens with a minus. Then a
number follows that minus, which is added and no longer subtracted: the tidied text says the
modifier and twice that number. -/
theorem tidy_notation {e : Expression} (h : parse limits text = .ok e) :
    (tidy text).toList = (withoutOpening (withoutBlanks text.toList)).map lowered ∧
      ((trimmed text).head? ≠ some '-' → ∃ e', parse limits (tidy text) = .ok e' ∧
        e'.groups = e.groups ∧ e'.modifier = e.modifier) ∧
      ((trimmed text).head? = some '-' → ∃ (g : Gap) (digits rest : List Char),
        trimmed text = '-' :: (g.chars ++ (digits ++ rest)) ∧ IsNumeral digits ∧
          beginsWith Char.isAlphanum rest = false ∧
          Says limits (tidy text) e.groups (e.modifier + 2 * (Numeral.clamped digits : Int))) := by
  obtain ⟨s, hs, haccepted, hgroups, hmodifier, -⟩ := (parse_eq_ok_iff limits text e).1 h
  have hchars : s.tidied.chars = (tidy text).toList := by
    rw [tidy, String.toList_ofList, ← hs, tidied_sentence]
  have htrimmed : trimmed text = s.trim.chars := by rw [trimmed, ← hs, s.strip_chars]
  have hsays : Says limits (tidy text) (s.tidied.groups Numeral.clamped)
      (s.tidied.modifier Numeral.clamped) :=
    says_of_sentence hchars (by rw [s.groups_tidied]; exact haccepted.groups)
      (Sentence.allowed_tidied haccepted.allowed)
  rw [s.groups_tidied, ← hgroups] at hsays
  refine ⟨?_, fun hhead => ?_, fun hhead => ?_⟩
  · rw [← hchars, ← hs, map_lowered_sentence]
  · have hsign : s.openingSign = .plus := by
      cases hsign : s.openingSign with
      | plus => rfl
      | minus => exact absurd (htrimmed ▸ (head?_trim_eq_minus_iff s).2 hsign) hhead
    rw [Sentence.modifier_tidied hsign, ← hmodifier] at hsays
    exact hsays.within (by rw [hmodifier]; exact haccepted.modifier)
  · have hsign : s.openingSign = .minus := (head?_trim_eq_minus_iff s).1 (htrimmed ▸ hhead)
    obtain ⟨digits, hd, hfirst⟩ : ∃ digits hd, s.first = .number digits hd := by
      have hallowed := haccepted.allowed (s.openingSign, s.first) List.mem_cons_self
      cases hfirst : s.first with
      | number digits hd => exact ⟨digits, hd, rfl⟩
      | die d hd =>
        rw [hsign, hfirst] at hallowed
        cases hallowed.1
    obtain ⟨gap, hopening⟩ : ∃ gap, s.opening = some (.minus, gap) := by
      unfold Sentence.openingSign at hsign
      split at hsign
      · cases hsign
      · next sign gap hopening => exact ⟨gap, hsign ▸ hopening⟩
    rw [Sentence.modifier_tidied_of_minus hsign hfirst, ← hmodifier] at hsays
    refine ⟨gap, digits, s.more.flatMap Summand.chars ++ Gap.empty.chars, ?_, hd,
      (Reading.detached_summands s.more .empty).1, hsays⟩
    rw [htrimmed]
    simp [Sentence.chars, Sentence.openingChars, Sentence.trim, hopening, hfirst, Gap.empty,
      Operand.chars, Sign.char]

/-- A notation that opens with a minus: three is added, so that the modifier is four and not
minus two. -/
theorem tidy_notation_of_minus :
    let text := "- 3 + 2 D6 + 1"
    let e : Expression := ⟨[⟨2, 6⟩], by decide, -2, text⟩
    parse {} text = .ok e ∧ (trimmed text).head? = some '-' ∧ tidy text = "3+2d6+1" ∧
      (tidy text).toList = (withoutOpening (withoutBlanks text.toList)).map lowered ∧
      ∃ (g : Gap) (digits rest : List Char), trimmed text = '-' :: (g.chars ++ (digits ++ rest)) ∧
        Says {} (tidy text) e.groups (e.modifier + 2 * (Numeral.clamped digits : Int)) := by
  intro text e
  have hparse : parse {} text = .ok e := by decide +kernel
  have hhead : (trimmed text).head? = some '-' := by decide +kernel
  obtain ⟨hchars, -, hminus⟩ := tidy_notation hparse
  obtain ⟨g, digits, rest, htrimmed, -, -, hsays⟩ := hminus hhead
  exact ⟨hparse, hhead, by decide +kernel, hchars, g, digits, rest, htrimmed, hsays⟩

/-- A text need not begin with the minus that is lost: a blank may stand before it. -/
theorem minus_lost_behind_blank :
    let text := " -1+d6"
    let e : Expression := ⟨[⟨1, 6⟩], by decide, -1, "-1+d6"⟩
    parse {} text = .ok e ∧ text.toList.head? ≠ some '-' ∧
      ¬∃ e', parse {} (tidy text) = .ok e' ∧ e'.groups = e.groups ∧ e'.modifier = e.modifier := by
  intro text e
  have htidied : parse {} (tidy text) = .ok ⟨[⟨1, 6⟩], by decide, 1, "1+d6"⟩ := by decide +kernel
  refine ⟨by decide +kernel, by decide +kernel, ?_⟩
  rintro ⟨e', he', -, hmodifier⟩
  cases htidied.symm.trans he'
  exact absurd hmodifier (by decide)

end Tidy

end Tabletop
