import Tabletop.Advice.Tidy
import Tabletop.Proofs.Notation.Respacing

/-!
# The tidied text

Tidying goes over a text six times, and a later pass could well bring back
what an earlier one was to remove. None does: the text that is left is
**tidy** (`Tidy.isTidy_tidied`), and a tidy text is changed by none of the
passes (`Tidy.IsTidy.tidied_eq`).

No blank stands in a tidy text and no two signs are neighbours, so of two
neighbouring lexemes exactly one is a sign (`Tidy.IsTidy.alternates`). That
leaves little that can be wrong with it (`Tidy.Misfit`).
-/

namespace Tabletop

open Text

namespace Tidy

variable {c : Char} {cs : List Char}

/-! ## The normal form -/

/-- Whether two characters may stand side by side in a tidy text: they are not both signs. -/
def Apart (c c' : Char) : Prop :=
  ¬(isSign c = true ∧ isSign c' = true)

/-- **Whether a text is tidy**: it holds nothing but digits, signs and the letter of a die, and
every sign stands alone between other characters. -/
structure IsTidy (cs : List Char) : Prop where
  /-- No character is of no use. -/
  useful : cs.all isUseful = true
  /-- No two signs stand side by side. -/
  apart : cs.IsChain Apart
  /-- No sign is at the front. -/
  front : beginsWith isSign cs = false
  /-- No sign is at the end. -/
  back : beginsWith isSign cs.reverse = false

theorem isUseful_of_isSign (h : isSign c = true) : isUseful c = true := by
  rw [isUseful, h, Bool.or_true, Bool.true_or]

theorem isSign_or_isAlphanum (h : isUseful c = true) : isSign c = true ∨ c.isAlphanum = true := by
  simp only [isUseful, Bool.or_eq_true, beq_iff_eq] at h
  rcases h with (hdigit | hsign) | rfl
  · exact .inr (isAlphanum_of_isDigit hdigit)
  · exact .inl hsign
  · exact .inr rfl

theorem isBlank_of_isUseful (h : isUseful c = true) : isBlank c = false := by
  rcases isSign_or_isAlphanum h with hsign | halnum
  · exact isBlank_of_isSign hsign
  · exact DieText.isBlank_of_isAlphanum halnum

/-! ## What the passes leave -/

/-- Two signs that become one are followed by no further sign. -/
theorem isChain_joinSign (c : Char) (h : cs.IsChain Apart) : (joinSign c cs).IsChain Apart := by
  cases cs with
  | nil => exact .singleton c
  | cons next cs =>
    rw [joinSign]
    split
    · next hsigns =>
      rw [Bool.and_eq_true] at hsigns
      rw [List.isChain_cons] at h ⊢
      exact ⟨fun c' hc' hboth => h.1 c' hc' ⟨hsigns.2, hboth.2⟩, h.2⟩
    · next hsigns =>
      rw [Bool.and_eq_true] at hsigns
      exact h.cons_cons hsigns

/-- A sign is put before a text only as one of its own or in the place of another. -/
theorem all_joinSign (hc : isUseful c = true) (h : cs.all isUseful = true) :
    (joinSign c cs).all isUseful = true := by
  cases cs with
  | nil => rw [joinSign, List.all_cons, hc]; rfl
  | cons next cs =>
    rw [joinSign]
    split
    · rw [List.all_cons, Bool.and_eq_true] at h ⊢
      refine ⟨?_, h.2⟩
      split <;> rfl
    · rw [List.all_cons, hc, h]
      rfl

/-- **Where rows of signs are merged** no two signs stand side by side. -/
theorem isChain_mergeSigns (cs : List Char) : (mergeSigns cs).IsChain Apart := by
  induction cs with
  | nil => exact .nil
  | cons c cs ih => exact isChain_joinSign c ih

theorem all_mergeSigns (h : cs.all isUseful = true) : (mergeSigns cs).all isUseful = true := by
  induction cs with
  | nil => rfl
  | cons c cs ih =>
    rw [List.all_cons, Bool.and_eq_true] at h
    exact all_joinSign h.1 (ih h.2)

theorem beginsWith_reverse_strip (p : Char → Bool) (cs : List Char) :
    beginsWith p (strip p cs).reverse = false := by
  rw [strip, List.reverse_reverse]
  have hhead := List.head?_dropWhile_not p (cs.dropWhile p).reverse
  cases h : (cs.dropWhile p).reverse.dropWhile p with
  | nil => rfl
  | cons c front =>
    rw [h] at hhead
    simpa using hhead

/-- **A tidied text is tidy.** -/
theorem isTidy_tidied (cs : List Char) : IsTidy (tidied cs) := by
  unfold tidied
  generalize hmerged : mergeSigns _ = merged
  have hall : merged.all isUseful = true := by
    rw [← hmerged]
    exact all_mergeSigns (List.all_eq_true.2 fun c hc => (List.mem_filter.1 hc).2)
  have hchain : merged.IsChain Apart := by
    rw [← hmerged]
    exact isChain_mergeSigns _
  obtain ⟨lead, trail, -, -, hstrip⟩ := exists_append_strip isSign merged
  rw [hstrip, List.all_append, List.all_append, Bool.and_eq_true, Bool.and_eq_true] at hall
  rw [hstrip] at hchain
  exact ⟨hall.1.2, hchain.left_of_append.right_of_append, beginsWith_strip isSign merged,
    beginsWith_reverse_strip isSign merged⟩

/-! ## What the passes change -/

/-- Merging signs changes no text in which none stand side by side. -/
theorem mergeSigns_eq_self (h : cs.IsChain Apart) : mergeSigns cs = cs := by
  induction cs with
  | nil => rfl
  | cons c cs ih =>
    have hcs := List.isChain_cons.1 h
    rw [mergeSigns, List.foldr_cons, ← mergeSigns, ih hcs.2]
    cases cs with
    | nil => rfl
    | cons next cs =>
      have hapart : ¬(isSign c && isSign next) = true := by
        rw [Bool.and_eq_true]
        exact hcs.1 next rfl
      rw [joinSign, if_neg hapart]

theorem strip_eq_self {p : Char → Bool} (hfront : beginsWith p cs = false)
    (hback : beginsWith p cs.reverse = false) : strip p cs = cs := by
  rw [strip, dropWhile_of_beginsWith hfront, dropWhile_of_beginsWith hback, List.reverse_reverse]

theorem crossToDie_eq_self (h : c.isDigit = true ∨ isSign c = true ∨ isDieLetter c = true) :
    crossToDie c = c := by
  have hcross : ¬(c == 'x' || c == 'X' || c == '×') = true := by
    intro hcross
    simp only [Bool.or_eq_true, beq_iff_eq] at hcross
    rcases hcross with (rfl | rfl) | rfl <;> revert h <;> decide
  rw [crossToDie, if_neg hcross]

/-- Where no capital letter of a die stands, lowering goes on behind. -/
theorem lowerDie_append (h : ∀ c ∈ cs, c ≠ 'D') (rest : List Char) :
    lowerDie (cs ++ rest) = cs ++ lowerDie rest := by
  induction cs with
  | nil => rfl
  | cons c cs ih =>
    rw [List.forall_mem_cons] at h
    have hc : ¬(c == 'D' && beginsWith Char.isDigit (cs ++ rest)) = true := by
      rw [Bool.and_eq_true, beq_iff_eq]
      exact fun hboth => h.1 hboth.1
    rw [List.cons_append, lowerDie, if_neg hc, ih h.2, List.cons_append]

/-- **Tidying changes no tidy text.** -/
theorem IsTidy.tidied_eq (h : IsTidy cs) : tidied cs = cs := by
  have hmem (c : Char) (hc : c ∈ cs) : isUseful c = true := List.all_eq_true.1 h.useful c hc
  have hcases (c : Char) (hc : c ∈ cs) : c.isDigit = true ∨ isSign c = true ∨ c = 'd' := by
    have huseful := hmem c hc
    simpa only [isUseful, Bool.or_eq_true, beq_iff_eq, or_assoc] using huseful
  have hblanks : withoutBlanks cs = cs :=
    withoutBlanks_eq_self fun c hc => isBlank_of_isUseful (hmem c hc)
  have hcross : cs.map crossToDie = cs := by
    rw [List.map_congr_left fun c hc => crossToDie_eq_self
      ((hcases c hc).imp_right fun hc => hc.imp_right fun hc => by rw [hc]; rfl), List.map_id']
  have hlower : lowerDie cs = cs := by
    have happend : lowerDie (cs ++ []) = cs ++ lowerDie [] := by
      refine lowerDie_append (fun c hc => ?_) []
      rintro rfl
      have hD := hmem 'D' hc
      revert hD
      decide
    rwa [lowerDie, List.append_nil] at happend
  have hfilter : cs.filter isUseful = cs := List.filter_eq_self.2 hmem
  rw [tidied, hblanks, hcross, hlower, hfilter, mergeSigns_eq_self h.apart,
    strip_eq_self h.front h.back]

end Tidy

/-! ## The lexemes of a tidy text -/

/-- Whether a lexeme is a sign. -/
def Lexeme.isSign : Lexeme → Bool
  | sign _ => true
  | _ => false

theorem Lexeme.exists_eq_sign {l : Lexeme} (h : l.isSign = true) : ∃ s, l = .sign s := by
  cases l with
  | sign s => exact ⟨s, rfl⟩
  | _ => cases h

namespace Tidy

variable {c : Char} {cs : List Char} {l : Lexeme}

/-- Whether a character is one of a number or of a tidy die. -/
def isOperand (c : Char) : Bool :=
  c.isDigit || c == 'd'

theorem isOperand_of_isSign (h : isSign c = true) : isOperand c = false := by
  rcases eq_of_isSign h with rfl | rfl <;> rfl

theorem isOperand_of_isUseful (h : isUseful c = true) (hsign : isSign c = false) :
    isOperand c = true := by
  rw [isUseful, hsign, Bool.or_false] at h
  exact h

theorem isAlphanum_of_isOperand (h : isOperand c = true) : c.isAlphanum = true := by
  rw [isOperand, Bool.or_eq_true, beq_iff_eq] at h
  rcases h with hdigit | rfl
  · exact isAlphanum_of_isDigit hdigit
  · rfl

/-- **The lexemes of a tidy text** stand in it without gaps, and no two of them face each
other with letters or digits. -/
theorem IsTidy.lexemes (h : IsTidy cs) : cs = (Token.lexemes cs).flatMap Lexeme.chars ∧
    (∀ l ∈ Token.lexemes cs, l.Whole) ∧
      (Token.lexemes cs).IsChain fun l l' => ¬l.Touches l' := by
  obtain ⟨ps, trail, hps, hcs, hlexemes⟩ := Token.exists_layout cs
  have hgap (g : Gap) (hg : g.chars ⊆ cs) : g.chars = [] := by
    refine List.eq_nil_iff_forall_not_mem.2 fun c hc => ?_
    have huseful := List.all_eq_true.1 h.useful c (hg hc)
    have hblank := List.all_eq_true.1 g.all_blank c hc
    rw [isBlank_of_isUseful huseful] at hblank
    cases hblank
  have htrail : trail.chars = [] := by
    refine hgap trail fun c hc => ?_
    rw [hcs, spelled]
    exact List.mem_append_right _ hc
  have hgaps (p : Piece) (hp : p ∈ ps) : p.gap.chars = [] := by
    refine hgap p.gap fun c hc => ?_
    rw [hcs, spelled]
    exact List.mem_append_left _ (List.mem_flatMap.2 ⟨p, hp, List.mem_append_left _ hc⟩)
  refine ⟨?_, fun l hl => ?_, ?_⟩
  · have hchars : ∀ p ∈ ps, p.chars = p.lexeme.chars := fun p hp => by
      rw [Piece.chars, hgaps p hp, List.nil_append]
    rw [← hlexemes, List.flatMap_map, ← List.flatMap_congr hchars]
    rw [spelled, htrail, List.append_nil] at hcs
    exact hcs
  · rw [← hlexemes] at hl
    obtain ⟨p, hp, rfl⟩ := List.mem_map.1 hl
    exact hps.whole p hp
  · rw [← hlexemes, List.isChain_map]
    exact List.IsChain.imp_of_mem_imp
      (fun p q _ hq hmeets htouch => hmeets.apart htouch (hgaps q hq)) hps.chain

theorem IsTidy.all_useful (h : IsTidy cs) (hl : l ∈ Token.lexemes cs) :
    l.chars.all isUseful = true := by
  refine List.all_eq_true.2 fun c hc => List.all_eq_true.1 h.useful c ?_
  rw [h.lexemes.1]
  exact List.mem_flatMap.2 ⟨l, hl, hc⟩

/-- A lexeme of a tidy text that is no sign holds digits and letters only. -/
theorem IsTidy.all_isOperand (h : IsTidy cs) (hl : l ∈ Token.lexemes cs)
    (hsign : l.isSign = false) : l.chars ≠ [] ∧ l.chars.all isOperand = true := by
  have huseful := h.all_useful hl
  have hwhole := h.lexemes.2.1 l hl
  obtain ⟨c, rest, hchars, -⟩ := hwhole.exists_cons
  refine ⟨by rw [hchars]; exact List.cons_ne_nil c rest, List.all_eq_true.2 fun c hc => ?_⟩
  refine isOperand_of_isUseful (List.all_eq_true.1 huseful c hc) ?_
  cases hwhole with
  | sign s => cases hsign
  | number hd => exact isSign_of_isAlphanum (isAlphanum_of_isDigit (List.all_eq_true.1 hd.2 c hc))
  | word hw => exact isSign_of_isAlphanum (List.all_eq_true.1 hw.all_alphanum c hc)
  | mark _ _ hs =>
    rw [Lexeme.chars, List.mem_singleton] at hc
    rw [hc, hs]
  | die hd => exact DieText.isSign_of_mem hd hc

/-- **The lexemes of a tidy text alternate**: of two neighbours one is a sign. -/
theorem IsTidy.alternates (h : IsTidy cs) :
    (Token.lexemes cs).IsChain fun l l' => l.isSign ≠ l'.isSign := by
  obtain ⟨hchars, -, hchain⟩ := h.lexemes
  refine List.isChain_iff_forall_rel_of_append_cons_cons.2 fun l l' front back hls hsame => ?_
  have hl : l ∈ Token.lexemes cs := by simp [hls]
  have hl' : l' ∈ Token.lexemes cs := by simp [hls]
  cases hsign : l.isSign with
  | true =>
    rw [hsign] at hsame
    obtain ⟨s, rfl⟩ := Lexeme.exists_eq_sign hsign
    obtain ⟨s', rfl⟩ := Lexeme.exists_eq_sign hsame.symm
    have hapart := h.apart
    rw [hchars, hls, List.flatMap_append, List.flatMap_cons, List.flatMap_cons] at hapart
    simp only [Lexeme.chars, List.singleton_append] at hapart
    exact (List.isChain_append_cons_cons.1 hapart).2.1 ⟨isSign_char s, isSign_char s'⟩
  | false =>
    rw [hsign] at hsame
    have halnum {l : Lexeme} (hl : l.chars.all isOperand = true) :
        l.chars.all Char.isAlphanum = true :=
      List.all_eq_true.2 fun c hc => isAlphanum_of_isOperand (List.all_eq_true.1 hl c hc)
    obtain ⟨hne, hall⟩ := h.all_isOperand hl hsign
    obtain ⟨hne', hall'⟩ := h.all_isOperand hl' hsame.symm
    rw [hls] at hchain
    refine (List.isChain_append_cons_cons.1 hchain).2.1 ⟨Lexeme.ends_word hne (halnum hall), ?_⟩
    obtain ⟨c, rest, hc⟩ := List.exists_cons_of_ne_nil hne'
    have hfirst := halnum hall'
    rw [hc, List.all_cons, Bool.and_eq_true] at hfirst
    rw [hc, beginsWith_cons, hfirst.1]

/-- **Around a lexeme that is no sign** a tidy text has neither digits nor letters. -/
theorem IsTidy.around (h : IsTidy cs) {front back : List Lexeme}
    (hls : Token.lexemes cs = front ++ l :: back) (hsign : l.isSign = false) :
    cs = front.flatMap Lexeme.chars ++ l.chars ++ back.flatMap Lexeme.chars ∧
      beginsWith isOperand (front.flatMap Lexeme.chars).reverse = false ∧
      beginsWith isOperand (back.flatMap Lexeme.chars) = false := by
  have hchars := h.lexemes.1
  have halternates := h.alternates
  rw [hls] at hchars halternates
  refine ⟨?_, ?_, ?_⟩
  · rw [hchars, List.flatMap_append, List.flatMap_cons, List.append_assoc]
  · rcases List.eq_nil_or_concat front with rfl | ⟨front, l', rfl⟩
    · rfl
    · rw [List.concat_eq_append, List.append_assoc, List.singleton_append,
        List.isChain_append_cons_cons] at halternates
      have hsign' : l'.isSign = true := by
        have hne := halternates.2.1
        rw [hsign] at hne
        simpa using hne
      obtain ⟨s, rfl⟩ := Lexeme.exists_eq_sign hsign'
      simp [Lexeme.chars, isOperand_of_isSign (isSign_char s)]
  · cases back with
    | nil => rfl
    | cons l' back =>
      have hsign' : l'.isSign = true := by
        have hne := (List.isChain_append_cons_cons.1 halternates).2.1
        rw [hsign] at hne
        simpa using hne.symm
      obtain ⟨s, rfl⟩ := Lexeme.exists_eq_sign hsign'
      exact isOperand_of_isSign (isSign_char s)

theorem IsTidy.isSign_getLast (h : IsTidy cs) (hl : l ∈ (Token.lexemes cs).getLast?) :
    l.isSign = false := by
  refine Bool.eq_false_iff.2 fun hsign => ?_
  obtain ⟨s, rfl⟩ := Lexeme.exists_eq_sign hsign
  obtain ⟨front, hfront⟩ := List.getLast?_eq_some_iff.1 (Option.mem_def.1 hl)
  have hback := h.back
  rw [h.lexemes.1, hfront] at hback
  simp [Lexeme.chars] at hback

/-! ## What can be at fault in a tidy text -/

/-- **What of a tidy text cannot be understood**, if anything. -/
inductive Misfit (cs : List Char) : List Char → Prop
  /-- Digits and letters, as many as stand together, that are neither a number nor a die. -/
  | word {front w back : List Char} (h : cs = front ++ w ++ back) (hne : w ≠ [])
    (hw : w.all isOperand = true) (hfront : beginsWith isOperand front.reverse = false)
    (hback : beginsWith isOperand back = false) (hnumber : ¬IsNumeral w)
    (hdie : ∀ d : DieText, d.WellFormed → w ≠ d.chars) : Misfit cs w
  /-- A minus before a die. -/
  | subtracted {front back : List Char} {d : DieText} (h : cs = front ++ '-' :: d.chars ++ back)
    (hd : d.WellFormed) (hback : beginsWith isOperand back = false) : Misfit cs ('-' :: d.chars)

/-- A misfit is neither a row of signs nor a number nor a die. -/
theorem Misfit.ne {w : List Char} (h : Misfit cs w) :
    w.all isSign = false ∧ ¬IsNumeral w ∧ ∀ d : DieText, d.WellFormed → w ≠ d.chars := by
  cases h with
  | word h hne hw hfront hback hnumber hdie =>
    refine ⟨?_, hnumber, hdie⟩
    obtain ⟨c, rest, rfl⟩ := List.exists_cons_of_ne_nil hne
    rw [List.all_cons, Bool.and_eq_true] at hw
    have hc : isSign c = false := Bool.eq_false_iff.2 fun hs => by
      rw [isOperand_of_isSign hs] at hw
      cases hw.1
    rw [List.all_cons, hc, Bool.false_and]
  | @subtracted _ _ d _ hd _ =>
    have hletter : d.letter ∈ d.chars := by simp [DieText.chars]
    refine ⟨?_, fun hnumeral => ?_, fun d' hd' hchars => ?_⟩
    · rw [← Bool.not_eq_true, List.all_eq_true]
      intro hall
      have hsign := hall d.letter (List.mem_cons_of_mem _ hletter)
      rw [DieText.isSign_of_mem hd hletter] at hsign
      cases hsign
    · cases hnumeral.2
    · have hsign := DieText.isSign_of_mem hd' (hchars ▸ List.mem_cons_self)
      cases hsign

theorem IsTidy.withoutBlanks_of_subset (h : IsTidy cs) {piece : List Char} (hpiece : piece ⊆ cs) :
    withoutBlanks piece = piece :=
  withoutBlanks_eq_self fun c hc => isBlank_of_isUseful (List.all_eq_true.1 h.useful c (hpiece hc))

theorem IsTidy.trimmed (h : IsTidy cs) : Expression.trimmed (String.ofList cs) = cs := by
  have hback : cs.reverse.all isUseful = true := by rw [List.all_reverse, h.useful]
  rw [Expression.trimmed, String.toList_ofList]
  exact strip_eq_self (beginsWith_of_all (fun c => isBlank_of_isUseful) h.useful)
    (beginsWith_of_all (fun c => isBlank_of_isUseful) hback)

open Expression Reading

variable {limits : Limits} {front back : List Token} {t : Token}

theorem lexemes_of_tokens (hts : tokens (String.ofList cs) = front ++ t :: back) :
    Token.lexemes cs = front.map Token.lexeme ++ t.lexeme :: back.map Token.lexeme := by
  have hlexemes := map_lexeme_tokens (String.ofList cs)
  rw [String.toList_ofList, hts] at hlexemes
  rw [← hlexemes, List.map_append, List.map_cons]

theorem IsTidy.isSign_ne (h : IsTidy cs) (hts : tokens (String.ofList cs) = front ++ t :: back)
    {t' : Token} (ht' : t' ∈ front.getLast?) : t'.lexeme.isSign ≠ t.lexeme.isSign := by
  have halternates := h.alternates
  rw [lexemes_of_tokens hts, List.isChain_append] at halternates
  refine halternates.2.2 t'.lexeme ?_ t.lexeme rfl
  rw [List.getLast?_map, Option.mem_def.1 ht']
  rfl

/-- The fragment from a sign that waits to a token is the two of them. -/
theorem IsTidy.slice_eq (h : IsTidy cs) {before : Preceding}
    (hstands : Stands cs before (t :: back)) :
    slice cs (before.fragmentStart t.start) t.stop = before.signChars ++ t.chars := by
  have hslice : slice cs (before.fragmentStart t.start) t.stop ⊆ cs := fun c hc =>
    List.mem_of_mem_drop (List.mem_of_mem_take hc)
  have hchars : t.chars ⊆ cs := by
    obtain ⟨front, rest, rfl, hscan, -⟩ := hstands
    obtain ⟨g, tail, rfl, -⟩ := Token.exists_placed_of_scan_eq_cons hscan
    exact fun c hc => List.mem_append_right _ (List.mem_append_right _ (List.mem_append_left _ hc))
  have hfragment := hstands.withoutBlanks_fragment
  rwa [h.withoutBlanks_of_subset hslice, h.withoutBlanks_of_subset hchars] at hfragment

/-- A die after a minus cannot be understood together with it. -/
theorem IsTidy.misfit_of_subtracted (h : IsTidy cs)
    (hts : tokens (String.ofList cs) = front ++ t :: back) {d : DieText} (hd : t.lexeme = .die d)
    {t' : Token} (ht' : t' ∈ front.getLast?) (hminus : t'.lexeme = .sign .minus) :
    Misfit cs ('-' :: d.chars) := by
  have hls := lexemes_of_tokens hts
  obtain ⟨hcs, -, hback⟩ := h.around hls (by rw [hd]; rfl)
  have hwhole := h.lexemes.2.1 t.lexeme (by simp [hls])
  obtain ⟨front, rfl⟩ := List.getLast?_eq_some_iff.1 (Option.mem_def.1 ht')
  rw [hd] at hwhole hcs
  cases hwhole with
  | die hd' =>
    have hfront : cs = (front.map Token.lexeme).flatMap Lexeme.chars ++ '-' :: d.chars ++
        (back.map Token.lexeme).flatMap Lexeme.chars := by
      rw [hcs, List.map_append, List.flatMap_append]
      simp [hminus, Lexeme.chars, Sign.char]
    exact .subtracted hfront hd' hback

/-- A word that means nothing is a misfit. -/
theorem IsTidy.misfit_of_stray (h : IsTidy cs)
    (hts : tokens (String.ofList cs) = front ++ t :: back) {w : List Char}
    (hw : t.lexeme = .stray w) : Misfit cs w := by
  have hls := lexemes_of_tokens hts
  have hl : t.lexeme ∈ Token.lexemes cs := by simp [hls]
  have hsign : t.lexeme.isSign = false := by rw [hw]; rfl
  obtain ⟨hne, hall⟩ := h.all_isOperand hl hsign
  obtain ⟨hcs, hfront, hback⟩ := h.around hls hsign
  have hwhole := h.lexemes.2.1 t.lexeme hl
  rw [hw] at hwhole hne hall hcs
  cases hwhole with
  | word hword =>
    exact .word hcs hne hall hfront hback
      (fun hnumeral => Bool.false_ne_true (hword.not_digits.symm.trans hnumeral.2)) hword.not_die
  | mark hblank halnum hsign =>
    rw [Lexeme.chars, List.all_cons, Bool.and_eq_true] at hall
    rw [isAlphanum_of_isOperand hall.1] at halnum
    cases halnum

/-- What follows a term in a tidy text is a sign, since the term is none. -/
theorem IsTidy.isSign_of_run (h : IsTidy cs)
    (hts : tokens (String.ofList cs) = front ++ t :: back) {terms : List Term}
    (hrun : run Numeral.clamped limits cs .nothing front = .ok (terms, .term)) :
    t.lexeme.isSign = true := by
  have hwf : ∀ u ∈ front, u.lexeme.WellFormed := fun u hu =>
    Token.wellFormed_of_mem_scan (show u ∈ tokens (String.ofList cs) by rw [hts]; simp [hu])
  have hlast := (waits_eq_false_iff hrun hwf).1 rfl
  rcases List.eq_nil_or_concat front with rfl | ⟨front, t', rfl⟩
  · cases hrun
  · rw [List.concat_eq_append] at hts hlast
    have ht' : t' ∈ (front ++ [t']).getLast? := List.getLast?_concat
    have hne := h.isSign_ne hts ht'
    have hno : t'.lexeme.isSign = false := by
      refine Bool.eq_false_iff.2 fun hsign => ?_
      obtain ⟨s, hs⟩ := Lexeme.exists_eq_sign hsign
      exact hlast t' ht' s hs
    rw [hno] at hne
    simpa using hne.symm

/-- **What a token of a tidy text is at fault for**, if it cannot be understood, is a word that
means nothing or a minus before a die. -/
theorem IsTidy.misfit_of_blames (h : IsTidy cs)
    (hts : tokens (String.ofList cs) = front ++ t :: back) {terms : List Term} {next : Preceding}
    (hrun : run Numeral.clamped limits cs .nothing front = .ok (terms, next)) {fragment : String}
    (hblames : Blames Numeral.clamped limits cs next t (.malformed fragment)) :
    Misfit cs fragment.toList := by
  have hwf : ∀ u ∈ front, u.lexeme.WellFormed := fun u hu =>
    Token.wellFormed_of_mem_scan (show u ∈ tokens (String.ofList cs) by rw [hts]; simp [hu])
  cases hblames with
  | @stray _ _ word hw =>
    rw [String.toList_ofList, Token.chars, hw]
    exact h.misfit_of_stray hts hw
  | @sign position first s _ hs =>
    -- the sign that waits would stand beside this one
    obtain ⟨t', ht', hfirst, -⟩ := exists_last_of_run hrun hwf
    have hne := h.isSign_ne hts ht'
    rw [hs, hfirst] at hne
    exact absurd rfl hne
  | number hd =>
    have hsign := h.isSign_of_run hts hrun
    rw [hd] at hsign
    cases hsign
  | die hd =>
    have hsign := h.isSign_of_run hts hrun
    rw [hd] at hsign
    cases hsign
  | @subtracted position _ d hd =>
    obtain ⟨t', ht', hminus, -⟩ := exists_last_of_run hrun hwf
    have hstands : Stands cs (.sign position .minus) (t :: back) := by
      refine Stands.run ?_ hrun
      rw [← hts]
      have hstands := stands_tokens (String.ofList cs)
      rwa [h.trimmed] at hstands
    have hfragment : slice cs position t.stop = '-' :: t.chars := h.slice_eq hstands
    have hchars : t.chars = d.chars := by rw [Token.chars, hd]; rfl
    rw [String.toList_ofList, hfragment, hchars]
    exact h.misfit_of_subtracted hts hd ht' hminus
  | range hd hfollows hsign hgroup =>
    rcases DieText.group_eq_error_iff.1 hgroup with ⟨-, hfault⟩ | ⟨-, -, hfault⟩ <;> cases hfault

/-- A text is read as empty exactly if nothing is left of it but blanks. -/
theorem parse_eq_emptyInput_iff {text : String} :
    parse limits text = .error .emptyInput ↔ Expression.trimmed text = [] := by
  constructor
  · intro h
    rcases read_eq_error_iff.1 h with ⟨hnil, -⟩ | ⟨-, hrun⟩ | ⟨terms, last, -, -, hconclude⟩
    · exact hnil
    · obtain ⟨front, t, back, terms, next, hts, -, hblames⟩ := run_eq_error_iff.1 hrun
      cases hblames with
      | range hd hfollows hsign hgroup =>
        rcases DieText.group_eq_error_iff.1 hgroup with ⟨-, hfault⟩ | ⟨-, -, hfault⟩ <;>
          cases hfault
    · cases atEnd_of_conclude hconclude
  · intro h
    exact read_eq_error_iff.2 (.inl ⟨h, rfl⟩)

/-- **What cannot be understood of a tidy text is a misfit.** -/
theorem IsTidy.misfit_of_parse (h : IsTidy cs) {fragment : String}
    (hparse : parse limits (String.ofList cs) = .error (.malformed fragment)) :
    Misfit cs fragment.toList := by
  rcases parse_error_cases hparse with hempty | ⟨-, front, t, back, terms, next, hts, hrun, hblames,
    -⟩ | ⟨-, -, terms, last, hrun, hconclude⟩
  · cases hempty
  · rw [h.trimmed] at hrun hblames
    exact h.misfit_of_blames hts hrun hblames
  · -- a sign at the end would be the last lexeme
    have hwf : ∀ t ∈ tokens (String.ofList cs), t.lexeme.WellFormed := fun t =>
      Token.wellFormed_of_mem_scan
    rcases conclude_eq_error_iff.1 hconclude with ⟨position, s, rfl, -⟩ | ⟨-, -, hfault⟩ |
      ⟨-, -, -, hfault⟩
    · obtain ⟨t, ht, hs, -⟩ := exists_last_of_run hrun hwf
      have hlast : t.lexeme ∈ (Token.lexemes cs).getLast? := by
        have hlexemes := map_lexeme_tokens (String.ofList cs)
        rw [String.toList_ofList] at hlexemes
        rw [← hlexemes, List.getLast?_map, Option.mem_def.1 ht]
        rfl
      have hsign := h.isSign_getLast hlast
      rw [hs] at hsign
      cases hsign
    · cases hfault
    · cases hfault

/-- **The tidied text is in normal form.** It holds nothing but digits, signs and the letter
of a die, each sign alone between others, and tidying it again changes nothing. So it is
read as empty only if it is, and what cannot be understood of it is a misfit: digits and
letters that are neither a number nor a die, or a minus before a die, but never a row of
signs, nor a number or a die that only stands in a wrong place. -/
theorem tidy_normal (text : String) :
    IsTidy (tidy text).toList ∧ tidy (tidy text) = tidy text ∧
      ∀ limits, (parse limits (tidy text) = .error .emptyInput ↔ tidy text = "") ∧
        ∀ fragment, parse limits (tidy text) = .error (.malformed fragment) →
          Misfit (tidy text).toList fragment.toList ∧ fragment.toList.all isSign = false ∧
            ¬IsNumeral fragment.toList ∧
              ∀ d : DieText, d.WellFormed → fragment.toList ≠ d.chars := by
  have h : IsTidy (tidy text).toList := by
    rw [tidy, String.toList_ofList]
    exact isTidy_tidied text.toList
  refine ⟨h, ?_, fun limits => ⟨?_, fun fragment hparse => ?_⟩⟩
  · rw [tidy, h.tidied_eq, String.ofList_toList]
  · rw [parse_eq_emptyInput_iff]
    have htrimmed := h.trimmed
    rw [String.ofList_toList] at htrimmed
    rw [htrimmed, String.toList_eq_nil_iff]
  · rw [← String.ofList_toList (s := tidy text)] at hparse
    have hmisfit := h.misfit_of_parse hparse
    exact ⟨hmisfit, hmisfit.ne⟩

/-- A die that is to be subtracted is named with its minus. -/
theorem tidy_normal_of_subtracted :
    let text := " 3 - - X6 + 1"
    tidy text = "3-d6+1" ∧ parse {} (tidy text) = .error (.malformed "-d6") ∧
      IsTidy (tidy text).toList ∧ Misfit (tidy text).toList "-d6".toList := by
  intro text
  have hparse : parse {} (tidy text) = .error (.malformed "-d6") := by decide +kernel
  obtain ⟨htidy, -, hread⟩ := tidy_normal text
  exact ⟨by decide +kernel, hparse, htidy, ((hread {}).2 "-d6" hparse).1⟩

end Tidy

end Tabletop
