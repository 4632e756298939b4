import Tabletop.Proofs.Advice.Tidying
import Tabletop.Proofs.Notation.Canonical
import Tabletop.Proofs.Roll.Chain
import Tabletop.Roll.Report

/-!
# What a report tells

A report is put together from the expression and from each part on its own, and
says most things twice: what a part counts and the faces that it counts, the
groups of the entries and the text they were read from. Nothing in the report
itself keeps these together.

They agree in the report of every roll, however often it was recast. What its
parts can be is little (`Part.IsRolled`), and of each of these the entry can be
checked from the entry alone (`Entry.Coheres`). The groups of the entries are
those of the expression, and so are those that its two texts are read as
(`Roll.report_coheres`).
-/

namespace Tabletop

open Text

/-! ## What the parts of a roll can be -/

namespace Part

/-- **What a part of a roll can be**: dice of a group, at least one and each of its sides, or two
bonus dice. -/
inductive IsRolled : Part → Prop
  /-- The dice of a group. -/
  | plain {g : Group} {ds : List Die} (hne : ds ≠ []) (hds : ∀ d ∈ ds, d.Fits g.sides) :
    IsRolled (.plain g ds)
  /-- The dice of a group on a critical hit. -/
  | critical {g : Group} {ds : List Die} {bonus : Int} (hne : ds ≠ [])
    (hds : ∀ d ∈ ds, d.Fits g.sides) : IsRolled (.critical g ds bonus)
  /-- Two bonus dice, the higher of which is added. -/
  | advantage {c d : Die} (hds : ∀ x ∈ [c, d], x.Fits bonusSides) : IsRolled (.advantage [c, d])
  /-- Two bonus dice, the lower of which is subtracted. -/
  | disadvantage {c d : Die} (hds : ∀ x ∈ [c, d], x.Fits bonusSides) :
    IsRolled (.disadvantage [c, d])

variable {g : Group} {p : Part}

theorem ne_nil_of_isHand {count sides : Int} {ds : List Die} (hcount : 1 ≤ count)
    (h : IsHand count sides ds) : ds ≠ [] := by
  rintro rfl
  rw [← h.length_eq] at hcount
  exact absurd hcount (by decide)

theorem IsPlain.isRolled (hcount : 1 ≤ g.count) (h : p.IsPlain g) : p.IsRolled := by
  obtain ⟨ds, rfl, hds⟩ := h
  exact .plain (ne_nil_of_isHand hcount hds) hds.fits

theorem IsDoubled.isRolled (hcount : 1 ≤ g.count) (h : p.IsDoubled g) : p.IsRolled := by
  obtain ⟨ds, rfl, hds⟩ := h
  exact .critical (ne_nil_of_isHand (by omega) hds) hds.fits

theorem IsMaxFaced.isRolled (hcount : 1 ≤ g.count) (h : p.IsMaxFaced g) : p.IsRolled := by
  obtain ⟨ds, rfl, hds⟩ := h
  exact .critical (ne_nil_of_isHand hcount hds) hds.fits

/-- The mode that a part is of: that of the dice of a group is the plain one. -/
def mode : Part → Mode
  | plain .. => .normal
  | critical .. => .critical
  | advantage _ => .advantage
  | disadvantage _ => .disadvantage

end Part

namespace HasShape

variable {gs : List Group} {mode : Mode} {parts : List Part}

theorem forall_mem {R : Group → Part → Prop} {P : Part → Prop} (hcount : ∀ g ∈ gs, 1 ≤ g.count)
    (hR : ∀ g p, 1 ≤ g.count → R g p → P p) (h : List.Forall₂ R gs parts) : ∀ p ∈ parts, P p :=
  forall_mem_of_forall₂ (fun g p hg => hR g p hg.1 hg.2)
    ((List.forall₂_and_left gs parts).2 ⟨hcount, h⟩)

/-- **The parts of any mode are parts of a roll.** -/
theorem isRolled (h : HasShape gs mode parts) (hcount : ∀ g ∈ gs, 1 ≤ g.count) :
    ∀ p ∈ parts, p.IsRolled := by
  have hplain {own : List Part} (hown : List.Forall₂ Part.IsPlain gs own) :
      ∀ p ∈ own, p.IsRolled :=
    forall_mem hcount (fun _ _ => Part.IsPlain.isRolled) hown
  cases mode with
  | normal => exact hplain h
  | advantage =>
    obtain ⟨own, ds, rfl, hown, hds⟩ := h
    obtain ⟨c, d, rfl⟩ := List.length_eq_two.1 (Int.ofNat_inj.1 hds.length_eq)
    exact List.forall_mem_append.2
      ⟨hplain hown, List.forall_mem_singleton.2 (.advantage hds.fits)⟩
  | disadvantage =>
    obtain ⟨own, ds, rfl, hown, hds⟩ := h
    obtain ⟨c, d, rfl⟩ := List.length_eq_two.1 (Int.ofNat_inj.1 hds.length_eq)
    exact List.forall_mem_append.2
      ⟨hplain hown, List.forall_mem_singleton.2 (.disadvantage hds.fits)⟩
  | critical =>
    obtain hdoubled | ⟨g, gs', p, parts', rfl, rfl, hp, hdoubled⟩ := h
    · exact forall_mem hcount (fun _ _ => Part.IsDoubled.isRolled) hdoubled
    · rw [List.forall_mem_cons] at hcount
      exact List.forall_mem_cons.2 ⟨hp.isRolled hcount.1,
        forall_mem hcount.2 (fun _ _ => Part.IsDoubled.isRolled) hdoubled⟩

theorem filterMap_group? {R : Group → Part → Prop} (hR : ∀ g p, R g p → p.group? = some g)
    (h : List.Forall₂ R gs parts) : parts.filterMap Part.group? = gs := by
  induction h with
  | nil => rfl
  | cons hp _ ih => rw [List.filterMap_cons_some (hR _ _ hp), ih]

/-- **The parts of any mode tell the groups.** -/
theorem groups_eq (h : HasShape gs mode parts) : parts.filterMap Part.group? = gs := by
  have hplain {own : List Part} (hown : List.Forall₂ Part.IsPlain gs own) :
      own.filterMap Part.group? = gs :=
    filterMap_group? (by rintro g _ ⟨ds, rfl, -⟩; rfl) hown
  have hdoubled {gs : List Group} {own : List Part} (hown : List.Forall₂ Part.IsDoubled gs own) :
      own.filterMap Part.group? = gs :=
    filterMap_group? (by rintro g _ ⟨ds, rfl, -⟩; rfl) hown
  cases mode with
  | normal => exact hplain h
  -- the bonus part belongs to no group
  | advantage =>
    obtain ⟨own, ds, rfl, hown, -⟩ := h
    rw [List.filterMap_append, hplain hown]
    exact List.append_nil gs
  | disadvantage =>
    obtain ⟨own, ds, rfl, hown, -⟩ := h
    rw [List.filterMap_append, hplain hown]
    exact List.append_nil gs
  | critical =>
    obtain hparts | ⟨g, gs', p, parts', rfl, rfl, ⟨ds, rfl, -⟩, hparts⟩ := h
    · exact hdoubled hparts
    · rw [List.filterMap_cons_some (show Part.group? _ = some g from rfl), hdoubled hparts]

end HasShape

/-! ## Entries -/

namespace Entry

/-- The number of sides of the dice of an entry: that of its group, or else of bonus dice. -/
def sides (x : Entry) : Int :=
  (x.group.map Group.sides).getD bonusSides

/-- **What an entry counts, told by the rest of it**: the sum of its faces, that sum and the bonus,
the face that is kept, or the same under a minus, each by the kind of the entry. -/
def recount? (x : Entry) : Option Int :=
  let sum := sumOf (x.rolls.map Face.count)
  if x.kind = "group" then some sum
  else if x.kind = "critical" then some (sum + x.bonus.getD 0)
  else if x.kind = "advantage" then x.kept.map Face.count
  else if x.kind = "disadvantage" then x.kept.map fun face => -face.count
  else none

/-- **Whether an entry coheres**: all of it can be told from the faces, the group and the bonus. -/
structure Coheres (x : Entry) : Prop where
  /-- It counts what the rest of it comes to. -/
  subtotal : x.recount? = some x.subtotal.count
  /-- The face that is kept, if one is, is the highest with advantage, and else the lowest. -/
  kept : ∀ k ∈ x.kept, k ∈ x.rolls ∧ ∀ face ∈ x.rolls,
    if x.kind = "advantage" then face.count ≤ k.count else k.count ≤ face.count
  /-- It has a group unless it is one of bonus dice. -/
  group : x.group.isSome = true ↔ x.kind = "group" ∨ x.kind = "critical"
  /-- The faces that are marked, one by one, are the lowest and the highest of a die. -/
  extremal : List.Forall₂ (fun (face : Face) mark => mark = true ↔
    face.count = 1 ∨ face.count = x.sides) x.rolls x.extremal

end Entry

namespace Part

theorem forall₂_isExtremal {sides : Int} {ds : List Die} (h : ∀ d ∈ ds, d.Fits sides) :
    List.Forall₂ (fun (face : Face) mark => mark = true ↔ face.count = 1 ∨ face.count = sides)
      (ds.map Die.face) (ds.map Die.isExtremal) := by
  rw [List.forall₂_map_left_iff, List.forall₂_map_right_iff, List.forall₂_same]
  intro d hd
  rw [Die.isExtremal, Bool.or_eq_true, decide_eq_true_eq, decide_eq_true_eq, (h d hd).sides_eq]

theorem max_face (a b : Face) :
    max a b ∈ [a, b] ∧ ∀ face ∈ [a, b], face.count ≤ (max a b).count := by
  constructor
  · show (if a.count < b.count then b else a) ∈ [a, b]
    split <;> simp
  · rw [List.forall_mem_cons, List.forall_mem_singleton, Face.count_max]
    omega

theorem min_face (a b : Face) :
    min a b ∈ [a, b] ∧ ∀ face ∈ [a, b], (min a b).count ≤ face.count := by
  constructor
  · show (if b.count < a.count then b else a) ∈ [a, b]
    split <;> simp
  · rw [List.forall_mem_cons, List.forall_mem_singleton, Face.count_min]
    omega

/-- **The entry of a part of a roll coheres.** -/
theorem IsRolled.coheres {p : Part} (h : p.IsRolled) : (Entry.ofPart p).Coheres := by
  cases h with
  | plain hne hds =>
    exact ⟨rfl, by rintro k ⟨⟩, iff_of_true rfl (.inl rfl), forall₂_isExtremal hds⟩
  | @critical g ds bonus hne hds =>
    have hbonus : (if bonus = 0 then none else some bonus).getD 0 = bonus := by
      split
      · next h => exact h.symm
      · rfl
    refine ⟨?_, by rintro k ⟨⟩, iff_of_true rfl (.inr rfl), forall₂_isExtremal hds⟩
    show some (_ + (if bonus = 0 then none else some bonus).getD 0) = some (_ + bonus)
    rw [hbonus]
    rfl
  | @advantage c d hds =>
    refine ⟨rfl, ?_, iff_of_false Bool.false_ne_true
      (show ¬("advantage" = "group" ∨ "advantage" = "critical") by decide), forall₂_isExtremal hds⟩
    rintro k ⟨⟩
    exact max_face c.face d.face
  | @disadvantage c d hds =>
    refine ⟨rfl, ?_, iff_of_false Bool.false_ne_true
      (show ¬("disadvantage" = "group" ∨ "disadvantage" = "critical") by decide),
      forall₂_isExtremal hds⟩
    rintro k ⟨⟩
    exact min_face c.face d.face

end Part

/-! ## Reports -/

namespace Expression

variable {limits : Limits} {text : String} {e : Expression}

/-- **The text that an expression keeps** is read as the expression again. -/
theorem parse_text (h : parse limits text = .ok e) : parse limits e.text = .ok e := by
  obtain ⟨-, -, -, -, -, htext⟩ := (parse_eq_ok_iff limits text e).1 h
  have hstrip : strip isBlank e.text.toList = strip isBlank text.toList := by
    rw [htext, String.toList_ofList]
    exact Tidy.strip_eq_self (beginsWith_strip isBlank _)
      (Tidy.beginsWith_reverse_strip isBlank _)
  rw [← h, parse, parse, read, read, hstrip]

end Expression

namespace Report

/-- **The groups that a report tells**: those of its entries. -/
def groups (x : Report) : List Group :=
  x.entries.filterMap Entry.group

theorem groups_ofParts (e : Expression) (mode : String) (parts : List Part) :
    (ofParts e mode parts).groups = parts.filterMap Part.group? := by
  show (parts.map Entry.ofPart).filterMap Entry.group = parts.filterMap Part.group?
  rw [List.filterMap_map]
  rfl

theorem total_ofParts (e : Expression) (mode : String) (parts : List Part) :
    (ofParts e mode parts).total =
      sumOf ((ofParts e mode parts).entries.map fun x => x.subtotal.count) + e.modifier := by
  have hcounts : (parts.map Entry.ofPart).map (fun x => x.subtotal.count) =
      parts.map Part.subtotal := by
    rw [List.map_map]
    exact List.map_congr_left fun p _ => p.count_shown
  show sumOf (parts.map Part.subtotal) + e.modifier =
    sumOf ((parts.map Entry.ofPart).map fun x => x.subtotal.count) + e.modifier
  rw [hcounts]

end Report

namespace Roll

/-- **A report agrees with itself.** Under limits of twelve digits, whatever was read as an
expression, rolled, and recast in whatever chain, the report of the latest result tells the sum of
what its entries and the modifier count for its total, each entry coheres, and the groups and the
modifier that it tells are those that its text is read as, and its canonical form too. -/
theorem report_coheres {limits : Limits} (hcount : limits.maxCount ≤ Numeral.ceiling)
    (hsides : limits.maxSides ≤ Numeral.ceiling)
    (hmodifier : limits.maxModifier ≤ Numeral.ceiling) {text : String} {e : Expression}
    (hparse : Expression.parse limits text = .ok e) {start : Attempt} {r : Roll}
    (hroll : start.roll? e = some r) (attempts : List Attempt) :
    let report := (r.chain attempts).report
    report.total = sumOf (report.entries.map fun x => x.subtotal.count) + report.modifier ∧
      (∀ x ∈ report.entries, x.Coheres) ∧
      (report.groups = e.groups ∧ report.modifier = e.modifier) ∧
      (∃ e', Expression.parse limits report.input = .ok e' ∧
        e'.groups = report.groups ∧ e'.modifier = report.modifier) ∧
      ∃ e', Expression.parse limits report.canonical = .ok e' ∧
        e'.groups = report.groups ∧ e'.modifier = report.modifier := by
  have hone : ∀ g ∈ e.groups, 1 ≤ g.count := fun g hg =>
    ((Expression.within_of_parse hparse).1 g hg).1.1
  obtain ⟨hexpression, hshape, -, -⟩ := chain_keeps_declared_dice hone hroll attempts
  generalize r.chain attempts = last at hexpression hshape ⊢
  obtain ⟨e', mode, parts⟩ := last
  obtain rfl : e' = e := hexpression
  intro report
  have hgroups : report.groups = e'.groups :=
    (Report.groups_ofParts e' mode.name parts).trans hshape.groups_eq
  have hcanonical := Expression.parse_canonical_of_parse hcount hsides hmodifier hparse
  refine ⟨Report.total_ofParts e' mode.name parts, ?_, ⟨hgroups, rfl⟩,
    ⟨e', Expression.parse_text hparse, hgroups.symm, rfl⟩, ⟨_, hcanonical, hgroups.symm, rfl⟩⟩
  exact List.forall_mem_map.2 fun p hp => (hshape.isRolled hone p hp).coheres

/-- Two dice of six sides and one of four, rolled plainly, with advantage, plainly again, and on a
critical hit that grants the first group its second set. -/
theorem report_coheres_with_granted_set :
    let text := " 2D6 + d 4+1"
    let e : Expression := ⟨[⟨2, 6⟩, ⟨1, 4⟩], by decide, 1, "2D6 + d 4+1"⟩
    let start : Attempt := .scripted [3, 5, 2] .normal .double
    let r : Roll := ⟨e, .normal,
      [.plain ⟨2, 6⟩ [⟨6, .number 3⟩, ⟨6, .number 5⟩], .plain ⟨1, 4⟩ [⟨4, .number 2⟩]]⟩
    let report := (r.chain [.scripted [6, 1] .advantage .double, .scripted [] .normal .double,
      .scripted [4] .critical .maxFace]).report
    Expression.parse {} text = .ok e ∧ start.roll? e = some r ∧ report.mode = "critical" ∧
      report.total = sumOf (report.entries.map fun x => x.subtotal.count) + report.modifier ∧
      (∀ x ∈ report.entries, x.Coheres) ∧
      (∃ e', Expression.parse {} report.input = .ok e' ∧ e'.groups = report.groups) ∧
      ∃ e', Expression.parse {} report.canonical = .ok e' ∧ e'.groups = report.groups := by
  intro text e start r report
  have hparse : Expression.parse {} text = .ok e := by decide +kernel
  have hroll : start.roll? e = some r := rfl
  obtain ⟨htotal, hentries, -, ⟨e₁, h₁, hgroups₁, -⟩, ⟨e₂, h₂, hgroups₂, -⟩⟩ :=
    report_coheres (by decide) (by decide) (by decide) hparse hroll
      [.scripted [6, 1] .advantage .double, .scripted [] .normal .double,
        .scripted [4] .critical .maxFace]
  exact ⟨hparse, hroll, rfl, htotal, hentries, ⟨e₁, h₁, hgroups₁⟩, e₂, h₂, hgroups₂⟩

end Roll

end Tabletop
