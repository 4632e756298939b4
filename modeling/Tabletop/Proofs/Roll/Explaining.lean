import Tabletop.Proofs.Roll.Reporting
import Tabletop.Proofs.Text.Joined

/-!
# What an explanation tells

The explanation of a total is one line of prose with no fixed width and parts
that may be missing: a bonus of zero is not written, nor a modifier of zero. It
tells the whole roll all the same (`Roll.explanation_tells`).

The line is cut from the outside in. The total is what stands behind the last
space. What stands before it is told apart at its semicolons, since there is none
in a part or in a modifier, and the parts are those pieces that hold a colon
(`Report.explain_tells`). Before its first colon a part names its kind and its
group, and up to the first closing bracket its faces, which are told apart at
their commas (`Part.IsRolled.explained_injective`). What may be missing need not
be read at all: the bonus is what the faces leave of the subtotal, and the
modifier what the parts leave of the total.
-/

namespace Tabletop

open Text

/-! ## Numbers and faces as they are written -/

theorem isDigit_or_dash {n : Int} {c : Char} (h : c ∈ (toString n).toList) :
    c.isDigit = true ∨ c = '-' := by
  have hdigits {m : Nat} (hm : c ∈ m.repr.toList) : c.isDigit = true := by
    rw [Nat.toList_repr] at hm
    exact Nat.isDigit_of_mem_toDigits (by decide) (by decide) hm
  rw [Int.toString_eq_repr, Int.repr_eq_if] at h
  split at h
  · exact .inl (hdigits h)
  · rw [String.toList_append, List.mem_append] at h
    exact h.symm.imp hdigits fun h => by simpa using h

theorem not_mem_toString {c : Char} (hdigit : c.isDigit = false) (hdash : c ≠ '-') (n : Int) :
    c ∉ (toString n).toList := by
  intro h
  rcases isDigit_or_dash h with h | h
  · rw [hdigit] at h
    cases h
  · exact hdash h

/-- **A whole number is told by how it is written.** -/
theorem eq_of_toString_eq {n n' : Int} (h : toString n = toString n') : n = n' := by
  -- a dash stands at the front of a number below zero, and in no other
  have hdash (m k : Nat) : m.repr ≠ "-" ++ k.repr := by
    intro h
    have hmem : '-' ∈ m.repr.toList := by
      rw [h, String.toList_append]
      exact List.mem_append_left _ (by decide)
    rw [Nat.toList_repr] at hmem
    exact absurd (Nat.isDigit_of_mem_toDigits (by decide) (by decide) hmem) (by decide)
  rw [Int.toString_eq_repr, Int.toString_eq_repr, Int.repr_eq_if, Int.repr_eq_if] at h
  split at h
  · split at h
    · have hnat := Numeral.repr_inj.1 h
      omega
    · exact absurd h (hdash _ _)
  · split at h
    · exact absurd h.symm (hdash _ _)
    · have hnat := Numeral.repr_inj.1 ((String.append_right_inj "-").1 h)
      omega

/-- **What stands behind an arrow** is told from the line that ends in it, and so is what stands
before it. -/
theorem eq_of_arrow {front front' : String} {n n' : Int}
    (h : front ++ (" => " ++ toString n) = front' ++ (" => " ++ toString n')) :
    front = front' ∧ n = n' := by
  have hspace (front : String) (n : Int) : (front ++ (" => " ++ toString n)).toList =
      (front ++ " =>").toList ++ ' ' :: (toString n).toList := by
    rw [String.toList_append, String.toList_append, String.toList_append, List.append_assoc]
    rfl
  have hchars := congrArg String.toList h
  rw [hspace, hspace] at hchars
  obtain ⟨hfront, hn⟩ := eq_of_cut_back (not_mem_toString rfl (by decide) n)
    (not_mem_toString rfl (by decide) n') hchars
  exact ⟨(String.append_left_inj _).1 (String.toList_inj.1 hfront),
    eq_of_toString_eq (String.toList_inj.1 hn)⟩

namespace Face

theorem isAlphanum_or_dash {f : Face} {c : Char} (h : c ∈ f.written.toList) :
    c.isAlphanum = true ∨ c = '-' := by
  cases f with
  | number n => exact (isDigit_or_dash h).imp_left isAlphanum_of_isDigit
  | truth b =>
    have hword : (truth b).written.toList.all Char.isAlphanum = true := by cases b <;> rfl
    exact .inl (List.all_eq_true.1 hword c h)

theorem not_mem_written {c : Char} (halphanum : c.isAlphanum = false) (hdash : c ≠ '-')
    (f : Face) : c ∉ f.written.toList := by
  intro h
  rcases isAlphanum_or_dash h with h | h
  · rw [halphanum] at h
    cases h
  · exact hdash h

/-- **A face is told by how it is written.** -/
theorem written_injective {f f' : Face} (h : f.written = f'.written) : f = f' := by
  have hword (n : Int) (b : Bool) : toString n ≠ (truth b).written := by
    intro h
    have hletter : 'e' ∈ (truth b).written.toList := by cases b <;> decide
    rw [← h] at hletter
    exact not_mem_toString rfl (by decide) n hletter
  cases f with
  | number n =>
    cases f' with
    | number n' => exact congrArg number (eq_of_toString_eq h)
    | truth b' => exact absurd h (hword n b')
  | truth b =>
    cases f' with
    | number n' => exact absurd h.symm (hword n' b)
    | truth b' =>
      revert h
      revert b b'
      decide

end Face

namespace Group

/-- **A group is told by its notation.** -/
theorem full_injective {g g' : Group} (h : g.full = g'.full) : g = g' := by
  have hchars : (toString g.count).toList ++ 'd' :: (toString g.sides).toList =
      (toString g'.count).toList ++ 'd' :: (toString g'.sides).toList := by
    simpa [full] using congrArg String.toList h
  obtain ⟨hcount, hsides⟩ := eq_of_cut_front (not_mem_toString rfl (by decide) g.count)
    (not_mem_toString rfl (by decide) g'.count) hchars
  obtain ⟨count, sides⟩ := g
  obtain ⟨count', sides'⟩ := g'
  exact congrArg₂ mk (eq_of_toString_eq (String.toList_inj.1 hcount))
    (eq_of_toString_eq (String.toList_inj.1 hsides))

theorem not_mem_full {c : Char} (hdigit : c.isDigit = false) (hdash : c ≠ '-') (hletter : c ≠ 'd')
    (g : Group) : c ∉ g.full.toList := by
  have hcount := not_mem_toString hdigit hdash g.count
  have hsides := not_mem_toString hdigit hdash g.sides
  exact not_mem_append (not_mem_append hcount fun h => hletter (by simpa using h)) hsides

end Group

/-! ## Parts -/

/-- A function that tells apart any two of some things tells apart lists of them. -/
theorem eq_of_map_eq_map {α β : Type} {f : α → β} {P : α → Prop}
    (hf : ∀ a b, P a → P b → f a = f b → a = b) {as bs : List α} (has : ∀ a ∈ as, P a)
    (hbs : ∀ b ∈ bs, P b) (h : as.map f = bs.map f) : as = bs := by
  induction as generalizing bs with
  | nil => exact (List.map_eq_nil_iff.1 h.symm).symm
  | cons a as ih =>
    cases bs with
    | nil => cases h
    | cons b bs =>
      rw [List.forall_mem_cons] at has hbs
      obtain ⟨hhead, htail⟩ := List.cons.inj h
      rw [hf a b has.1 hbs.1 hhead, ih has.2 hbs.2 htail]

namespace Part

/-- What a part is called in an explanation, before its first colon. -/
def heading : Part → String
  | plain g _ => g.full
  | critical g _ _ => "critical " ++ g.full
  | advantage _ => "advantage"
  | disadvantage _ => "disadvantage"

/-- The faces of a part as they are listed. -/
def listing (p : Part) : String :=
  ", ".intercalate (p.faces.map Face.written)

/-- What stands behind the faces of a part: the bonus, if there is one, and what the part counts. -/
def outcome (p : Part) : String :=
  match p with
  | plain .. => " => " ++ toString p.subtotal
  | critical _ _ bonus =>
    (if bonus = 0 then "" else " + max " ++ toString bonus) ++ (" => " ++ toString p.subtotal)
  | advantage _ => " -> add " ++ p.shown.written
  | disadvantage _ => " -> subtract " ++ toString (-p.subtotal)

/-- **A part in words** is its heading, its faces between brackets, and the outcome. -/
theorem explained_eq (p : Part) : p.explained =
    p.heading ++ ": " ++ ("rolls " ++ ("[" ++ p.listing ++ "]")) ++ p.outcome := by
  cases p with
  | plain g ds => rfl
  | critical g ds bonus => exact String.append_assoc
  | advantage ds => exact String.append_assoc
  | disadvantage ds => rfl

/-- The characters of a part in words, told apart at the first colon and the first bracket that
closes. -/
theorem toList_explained (p : Part) : p.explained.toList =
    p.heading.toList ++
      ':' :: (" rolls [".toList ++ (p.listing.toList ++ ']' :: p.outcome.toList)) := by
  simp [explained_eq]

/-- What stands neither in a number nor in the words for a kind does not stand in a heading. -/
theorem not_mem_heading {c : Char} (hdigit : c.isDigit = false) (hdash : c ≠ '-')
    (hwords : ∀ word ∈ ["critical ", "advantage", "disadvantage"], c ∉ word.toList) (p : Part) :
    c ∉ p.heading.toList := by
  obtain ⟨hcritical, hadvantage, hdisadvantage, -⟩ := by
    simpa only [List.forall_mem_cons] using hwords
  have hfull (g : Group) : c ∉ g.full.toList :=
    g.not_mem_full hdigit hdash (by rintro rfl; exact hadvantage (by decide))
  cases p with
  | plain g ds => exact hfull g
  | critical g ds bonus => exact not_mem_append hcritical (hfull g)
  | advantage ds => exact hadvantage
  | disadvantage ds => exact hdisadvantage

theorem not_mem_listing {c : Char} (halphanum : c.isAlphanum = false) (hdash : c ≠ '-')
    (hsep : c ∉ ", ".toList) (p : Part) : c ∉ p.listing.toList := by
  rw [listing, String.toList_intercalate, List.map_map]
  exact not_mem_intercalate hsep
    (List.forall_mem_map.2 fun f _ => f.not_mem_written halphanum hdash)

/-- The mode that a heading is of, by the letters in it. -/
def modeOf (heading : String) : Mode :=
  if 'c' ∈ heading.toList then .critical
  else if 's' ∈ heading.toList then .disadvantage
  else if 'a' ∈ heading.toList then .advantage
  else .normal

/-- **A heading tells the mode of its part.** -/
theorem modeOf_heading (p : Part) : modeOf p.heading = p.mode := by
  cases p with
  | plain g ds =>
    have hfull {c : Char} (hdigit : c.isDigit = false) (hdash : c ≠ '-') (hletter : c ≠ 'd') :
        c ∉ (plain g ds).heading.toList := g.not_mem_full hdigit hdash hletter
    rw [modeOf, if_neg (hfull rfl (by decide) (by decide)),
      if_neg (hfull rfl (by decide) (by decide)), if_neg (hfull rfl (by decide) (by decide))]
    rfl
  | critical g ds bonus =>
    refine if_pos ?_
    rw [heading, String.toList_append]
    exact List.mem_append_left _ (by decide)
  | advantage ds => exact (by decide : modeOf "advantage" = Mode.advantage)
  | disadvantage ds => exact (by decide : modeOf "disadvantage" = Mode.disadvantage)

/-- **A listing tells the faces.** -/
theorem faces_eq_of_listing {p q : Part} (hp : p.faces ≠ []) (hq : q.faces ≠ [])
    (h : p.listing = q.listing) : p.faces = q.faces := by
  have hcomma (p : Part) : ∀ piece ∈ p.faces.map Face.written, ',' ∉ piece.toList :=
    List.forall_mem_map.2 fun f _ => f.not_mem_written rfl (by decide)
  have hwritten := strings_eq_of_intercalate (show ", ".toList = [',', ' '] from rfl)
    (mt List.map_eq_nil_iff.1 hp) (mt List.map_eq_nil_iff.1 hq) (hcomma p) (hcomma q) h
  exact (List.map_inj_right fun _ _ => Face.written_injective).1 hwritten

theorem dice_eq_of_faces {sides : Int} {ds ds' : List Die} (h : ∀ d ∈ ds, d.Fits sides)
    (h' : ∀ d ∈ ds', d.Fits sides) (hfaces : ds.map Die.face = ds'.map Die.face) : ds = ds' := by
  refine eq_of_map_eq_map ?_ h h' hfaces
  rintro ⟨_, _⟩ ⟨_, _⟩ hc hd hface
  exact congrArg₂ Die.mk (hc.sides_eq.trans hd.sides_eq.symm) hface

theorem IsRolled.faces_ne_nil {p : Part} (h : p.IsRolled) : p.faces ≠ [] := by
  cases h with
  | plain hne hds => exact mt List.map_eq_nil_iff.1 hne
  | critical hne hds => exact mt List.map_eq_nil_iff.1 hne
  | advantage hds => exact List.cons_ne_nil _ _
  | disadvantage hds => exact List.cons_ne_nil _ _

/-- **A part of a roll is told by what it is in words.** -/
theorem IsRolled.explained_injective {p q : Part} (hp : p.IsRolled) (hq : q.IsRolled)
    (h : p.explained = q.explained) : p = q := by
  have hchars := congrArg String.toList h
  rw [toList_explained, toList_explained] at hchars
  obtain ⟨hheading, htail⟩ :=
    eq_of_cut_front (p.not_mem_heading rfl (by decide) (by decide))
      (q.not_mem_heading rfl (by decide) (by decide)) hchars
  obtain ⟨hlisting, houtcome⟩ := eq_of_cut_front (p.not_mem_listing rfl (by decide) (by decide))
    (q.not_mem_listing rfl (by decide) (by decide)) (List.append_cancel_left htail)
  rw [String.toList_inj] at hheading hlisting houtcome
  have hmode : p.mode = q.mode := by rw [← modeOf_heading, ← modeOf_heading, hheading]
  have hfaces := faces_eq_of_listing hp.faces_ne_nil hq.faces_ne_nil hlisting
  cases hp with
  | plain hne hds =>
    cases hq with
    | plain hne' hds' =>
      obtain rfl := Group.full_injective hheading
      rw [dice_eq_of_faces hds hds' hfaces]
    | _ => cases hmode
  | @critical g ds bonus hne hds =>
    cases hq with
    | @critical g' ds' bonus' hne' hds' =>
      obtain rfl := Group.full_injective ((String.append_right_inj _).1 hheading)
      obtain rfl := dice_eq_of_faces hds hds' hfaces
      -- the faces count the same, so what is left of the subtotal is the bonus
      obtain rfl : bonus = bonus' := Int.add_left_cancel (eq_of_arrow houtcome).2
      rfl
    | _ => cases hmode
  | advantage hds =>
    cases hq with
    | advantage hds' => rw [dice_eq_of_faces hds hds' hfaces]
    | _ => cases hmode
  | disadvantage hds =>
    cases hq with
    | disadvantage hds' => rw [dice_eq_of_faces hds hds' hfaces]
    | _ => cases hmode

theorem semicolon_not_mem_outcome (p : Part) : ';' ∉ p.outcome.toList := by
  have hnumber (n : Int) : ';' ∉ (toString n).toList := not_mem_toString rfl (by decide) n
  cases p with
  | plain g ds => exact not_mem_append (by decide) (hnumber _)
  | critical g ds bonus =>
    refine not_mem_append ?_ (not_mem_append (by decide) (hnumber _))
    split
    · decide
    · exact not_mem_append (by decide) (hnumber bonus)
  | advantage ds => exact not_mem_append (by decide) (Face.not_mem_written rfl (by decide) _)
  | disadvantage ds => exact not_mem_append (by decide) (hnumber _)

theorem semicolon_not_mem_explained (p : Part) : ';' ∉ p.explained.toList := by
  rw [toList_explained]
  simp only [List.mem_append, List.mem_cons, not_or]
  exact ⟨p.not_mem_heading rfl (by decide) (by decide), by decide, by decide,
    p.not_mem_listing rfl (by decide) (by decide), by decide, p.semicolon_not_mem_outcome⟩

theorem colon_mem_explained (p : Part) : ':' ∈ p.explained.toList := by
  rw [toList_explained]
  exact List.mem_append_right _ List.mem_cons_self

end Part

/-! ## Explanations -/

namespace Report

variable {parts parts' : List Part} {modifier modifier' total total' : Int}

/-- The pieces that an explanation is joined from: the parts in words, and the modifier if there
is one. -/
def pieces (parts : List Part) (modifier : Int) : List String :=
  parts.map Part.explained ++ if modifier = 0 then [] else [signed modifier]

theorem not_mem_signed {c : Char} (hdigit : c.isDigit = false) (hdash : c ≠ '-') (hplus : c ≠ '+')
    (n : Int) : c ∉ (signed n).toList := by
  have hnumber := not_mem_toString hdigit hdash n
  rw [signed]
  split
  · exact hnumber
  · exact not_mem_append (fun h => hplus (by simpa using h)) hnumber

/-- What is so of the modifier as it is written is so of every piece that it gives, none or one. -/
theorem forall_modifier {P : String → Prop} (h : P (signed modifier)) :
    ∀ piece ∈ if modifier = 0 then [] else [signed modifier], P piece := by
  split
  · exact List.forall_mem_nil _
  · exact List.forall_mem_singleton.2 h

theorem semicolon_not_mem_pieces (parts : List Part) (modifier : Int) :
    ∀ piece ∈ pieces parts modifier, ';' ∉ piece.toList :=
  List.forall_mem_append.2 ⟨List.forall_mem_map.2 fun p _ => p.semicolon_not_mem_explained,
    forall_modifier (not_mem_signed rfl (by decide) (by decide) modifier)⟩

/-- **The pieces with a colon** are the parts in words. -/
theorem filter_pieces (parts : List Part) (modifier : Int) :
    (pieces parts modifier).filter (fun piece => decide (':' ∈ piece.toList)) =
      parts.map Part.explained := by
  have hparts : ∀ piece ∈ parts.map Part.explained, decide (':' ∈ piece.toList) = true :=
    List.forall_mem_map.2 fun p _ => decide_eq_true p.colon_mem_explained
  have hmodifier : ∀ piece ∈ if modifier = 0 then [] else [signed modifier],
      ¬decide (':' ∈ piece.toList) = true := by
    refine forall_modifier ?_
    rw [decide_eq_true_eq]
    exact not_mem_signed rfl (by decide) (by decide) modifier
  rw [pieces, List.filter_append, List.filter_eq_self.2 hparts, List.filter_eq_nil_iff.2 hmodifier,
    List.append_nil]

/-- **An explanation tells the parts in words and the total**, if there are parts. -/
theorem explain_tells (hparts : parts ≠ []) (hparts' : parts' ≠ [])
    (h : explain parts modifier total = explain parts' modifier' total') :
    parts.map Part.explained = parts'.map Part.explained ∧ total = total' := by
  have hne {parts : List Part} (hparts : parts ≠ []) (modifier : Int) :
      pieces parts modifier ≠ [] :=
    List.append_ne_nil_of_left_ne_nil (mt List.map_eq_nil_iff.1 hparts) _
  have hexplain : "; ".intercalate (pieces parts modifier) ++ (" => " ++ toString total) =
    "; ".intercalate (pieces parts' modifier') ++ (" => " ++ toString total') := h
  obtain ⟨hjoined, htotal⟩ := eq_of_arrow hexplain
  have hpieces := strings_eq_of_intercalate (show "; ".toList = [';', ' '] from rfl)
    (hne hparts modifier) (hne hparts' modifier') (semicolon_not_mem_pieces parts modifier)
    (semicolon_not_mem_pieces parts' modifier') hjoined
  refine ⟨?_, htotal⟩
  rw [← filter_pieces parts modifier, hpieces, filter_pieces]

end Report

namespace HasShape

variable {gs : List Group} {mode : Mode} {parts : List Part}

theorem parts_ne_nil (h : HasShape gs mode parts) (hne : gs ≠ []) : parts ≠ [] := by
  rintro rfl
  exact hne h.groups_eq.symm

/-- **The last part tells the mode.** -/
theorem mode_getLast? (h : HasShape gs mode parts) (hne : gs ≠ []) :
    parts.getLast?.map Part.mode = some mode := by
  have hsame (hmode : ∀ p ∈ parts, p.mode = mode) : parts.getLast?.map Part.mode = some mode := by
    have hparts := h.parts_ne_nil hne
    rw [List.getLast?_eq_some_getLast hparts]
    exact congrArg some (hmode _ (List.getLast_mem hparts))
  have hdoubled {gs : List Group} {parts : List Part} (h : List.Forall₂ Part.IsDoubled gs parts) :
      ∀ p ∈ parts, p.mode = .critical :=
    forall_mem_of_forall₂ (by rintro g _ ⟨ds, rfl, -⟩; rfl) h
  cases mode with
  | normal => exact hsame (forall_mem_of_forall₂ (by rintro g _ ⟨ds, rfl, -⟩; rfl) h)
  | advantage =>
    obtain ⟨own, ds, rfl, -, -⟩ := h
    rw [List.getLast?_concat]
    rfl
  | disadvantage =>
    obtain ⟨own, ds, rfl, -, -⟩ := h
    rw [List.getLast?_concat]
    rfl
  | critical =>
    obtain hparts | ⟨g, gs', p, parts', rfl, rfl, ⟨ds, rfl, -⟩, hparts⟩ := h
    · exact hsame (hdoubled hparts)
    · exact hsame (List.forall_mem_cons.2 ⟨rfl, hdoubled hparts⟩)

end HasShape

namespace Roll

/-- **An explanation tells the whole roll.** Whatever was rolled and recast in whatever chain, if
each group had a die, two results that are explained alike are of the same mode, groups, modifier
and total, and have the same parts, with the same dice and the same bonuses. -/
theorem explanation_tells {e e' : Expression} (hcount : ∀ g ∈ e.groups, 1 ≤ g.count)
    (hcount' : ∀ g ∈ e'.groups, 1 ≤ g.count) {start start' : Attempt} {r r' : Roll}
    (hroll : start.roll? e = some r) (hroll' : start'.roll? e' = some r')
    (attempts attempts' : List Attempt)
    (h : (r.chain attempts).report.explanation = (r'.chain attempts').report.explanation) :
    let last := r.chain attempts
    let last' := r'.chain attempts'
    last.mode = last'.mode ∧ last.expression.groups = last'.expression.groups ∧
      last.parts = last'.parts ∧ last.expression.modifier = last'.expression.modifier ∧
      last.total = last'.total := by
  obtain ⟨rfl, hshape, -, -⟩ := chain_keeps_declared_dice hcount hroll attempts
  obtain ⟨rfl, hshape', -, -⟩ := chain_keeps_declared_dice hcount' hroll' attempts'
  intro last last'
  obtain ⟨hexplained, htotal⟩ := Report.explain_tells
    (hshape.parts_ne_nil last.expression.groups_ne_nil)
    (hshape'.parts_ne_nil last'.expression.groups_ne_nil) h
  have hparts : last.parts = last'.parts :=
    eq_of_map_eq_map (fun _ _ => Part.IsRolled.explained_injective) (hshape.isRolled hcount)
      (hshape'.isRolled hcount') hexplained
  have hmode : some last.mode = some last'.mode := by
    rw [← hshape.mode_getLast? last.expression.groups_ne_nil, hparts,
      hshape'.mode_getLast? last'.expression.groups_ne_nil]
  have hgroups : last.expression.groups = last'.expression.groups := by
    rw [← hshape.groups_eq, hparts, hshape'.groups_eq]
  -- the modifier is what the parts leave of the total
  have hmodifier : sumOf (last.parts.map Part.subtotal) + last.expression.modifier =
      sumOf (last.parts.map Part.subtotal) + last'.expression.modifier := by
    rw [hparts] at htotal ⊢
    exact htotal
  exact ⟨Option.some.inj hmode, hgroups, hparts, Int.add_left_cancel hmodifier, htotal⟩

/-- Two dice of six sides and one of four, rolled plainly and then recast on a critical hit that
grants the first group its second set, are explained as if they had been rolled as such a hit. -/
theorem explanation_tells_granted_set :
    let e : Expression := ⟨[⟨2, 6⟩, ⟨1, 4⟩], by decide, 1, "2D6 + d 4+1"⟩
    let e' : Expression := ⟨[⟨2, 6⟩, ⟨1, 4⟩], by decide, 1, "2d6+1d4+1"⟩
    let r : Roll := ⟨e, .normal,
      [.plain ⟨2, 6⟩ [⟨6, .number 3⟩, ⟨6, .number 5⟩], .plain ⟨1, 4⟩ [⟨4, .number 2⟩]]⟩
    let r' : Roll := ⟨e', .critical, [.critical ⟨2, 6⟩ [⟨6, .number 3⟩, ⟨6, .number 5⟩] 12,
      .critical ⟨1, 4⟩ [⟨4, .number 2⟩, ⟨4, .number 4⟩] 0]⟩
    let last := r.chain [.scripted [4] .critical .maxFace]
    (∀ g ∈ e.groups, 1 ≤ g.count) ∧ (∀ g ∈ e'.groups, 1 ≤ g.count) ∧
      (Attempt.scripted [3, 5, 2] .normal .double).roll? e = some r ∧
      (Attempt.scripted [3, 5, 2, 4] .critical .maxFace).roll? e' = some r' ∧
      last.report.explanation = "critical 2d6: rolls [3, 5] + max 12 => 20; " ++
        "critical 1d4: rolls [2, 4] => 6; +1 => 27" ∧
      r'.report.explanation = last.report.explanation ∧
      last.mode = r'.mode ∧ last.parts = r'.parts := by
  intro e e' r r' last
  have hcount : ∀ g ∈ e.groups, 1 ≤ g.count := by decide
  have hcount' : ∀ g ∈ e'.groups, 1 ≤ g.count := by decide
  have hroll : (Attempt.scripted [3, 5, 2] .normal .double).roll? e = some r := rfl
  have hroll' : (Attempt.scripted [3, 5, 2, 4] .critical .maxFace).roll? e' = some r' := rfl
  have hlast : last.report.explanation = "critical 2d6: rolls [3, 5] + max 12 => 20; " ++
      "critical 1d4: rolls [2, 4] => 6; +1 => 27" := by decide +kernel
  have hsame : r'.report.explanation = last.report.explanation := by decide +kernel
  obtain ⟨hmode, -, hparts, -, -⟩ := explanation_tells hcount hcount' hroll hroll'
    [.scripted [4] .critical .maxFace] [] hsame.symm
  exact ⟨hcount, hcount', hroll, hroll', hlast, hsame, hmode, hparts⟩

end Roll

end Tabletop
