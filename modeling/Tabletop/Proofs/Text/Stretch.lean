import Tabletop.Notation.Lexeme
import Tabletop.Text.Alphanumeric

/-!
# Stretches of a class

Every reader of the library takes the longest stretch of some class of
characters off the front of a text. What it takes is known as soon as
the text is given as such a stretch and a rest that does not go on in
the class: `takeWhile_append_rest` and `dropWhile_append_rest`. The rest
never goes on where the next part of a notation begins, because the
classes that a notation is made of exclude each other.
-/

namespace Tabletop.Text

variable {p q : Char → Bool} {c : Char} {xs ys cs : List Char}

/-! ## What a text begins with -/

@[simp] theorem beginsWith_nil : beginsWith p [] = false := rfl

@[simp] theorem beginsWith_cons : beginsWith p (c :: cs) = p c := rfl

theorem beginsWith_append (h : xs ≠ []) : beginsWith p (xs ++ ys) = beginsWith p xs := by
  cases xs with
  | nil => exact absurd rfl h
  | cons x xs => rfl

theorem beginsWith_of_imp (hpq : ∀ c, p c = true → q c = true) (h : beginsWith q cs = false) :
    beginsWith p cs = false := by
  cases cs with
  | nil => rfl
  | cons c cs =>
    rw [beginsWith_cons] at h ⊢
    exact Bool.eq_false_iff.2 fun hc => Bool.eq_false_iff.1 h (hpq c hc)

/-- **A stretch keeps another class from the front**: if no character of
`q` is one of `p`, a stretch of `q` before a text that does not begin with
`p` leaves a text that does not either. -/
theorem beginsWith_stretch (hpq : ∀ c, q c = true → p c = false) (hxs : xs.all q = true)
    (hys : beginsWith p ys = false) : beginsWith p (xs ++ ys) = false := by
  cases xs with
  | nil => exact hys
  | cons x xs =>
    rw [List.all_cons, Bool.and_eq_true] at hxs
    exact hpq x hxs.1

theorem beginsWith_of_all (hpq : ∀ c, q c = true → p c = false) (hxs : xs.all q = true) :
    beginsWith p xs = false := by
  have h : beginsWith p (xs ++ []) = false := beginsWith_stretch hpq hxs rfl
  rwa [List.append_nil] at h

/-! ## Taking a stretch off a text -/

theorem takeWhile_of_beginsWith (h : beginsWith p cs = false) : cs.takeWhile p = [] := by
  cases cs with
  | nil => rfl
  | cons c cs =>
    rw [beginsWith_cons] at h
    rw [List.takeWhile_cons, h, if_neg Bool.false_ne_true]

theorem dropWhile_of_beginsWith (h : beginsWith p cs = false) : cs.dropWhile p = cs := by
  cases cs with
  | nil => rfl
  | cons c cs =>
    rw [beginsWith_cons] at h
    rw [List.dropWhile_cons, h, if_neg Bool.false_ne_true]

/-- **The stretch at the front** is taken off whole, if the rest does not go
on in its class. -/
theorem takeWhile_append_rest (hxs : xs.all p = true) (hys : beginsWith p ys = false) :
    (xs ++ ys).takeWhile p = xs := by
  rw [List.takeWhile_append_of_pos (List.all_eq_true.1 hxs), takeWhile_of_beginsWith hys,
    List.append_nil]

/-- **The rest after the stretch at the front**, if it does not go on in its
class. -/
theorem dropWhile_append_rest (hxs : xs.all p = true) (hys : beginsWith p ys = false) :
    (xs ++ ys).dropWhile p = ys := by
  rw [List.dropWhile_append_of_pos (List.all_eq_true.1 hxs), dropWhile_of_beginsWith hys]

theorem takeWhile_append_of_beginsWith (hys : beginsWith p ys = false) :
    (xs ++ ys).takeWhile p = xs.takeWhile p := by
  induction xs with
  | nil => exact takeWhile_of_beginsWith hys
  | cons x xs ih =>
    rw [List.cons_append, List.takeWhile_cons, List.takeWhile_cons, ih]

theorem dropWhile_append_of_beginsWith (hys : beginsWith p ys = false) :
    (xs ++ ys).dropWhile p = xs.dropWhile p ++ ys := by
  induction xs with
  | nil => exact dropWhile_of_beginsWith hys
  | cons x xs ih =>
    rw [List.cons_append, List.dropWhile_cons, List.dropWhile_cons, ih]
    split <;> rfl

/-- **A text is cut where a class begins** in only one way: if `xs` has none of
the class and `ys` nothing else, a cut before a character of the class that
does not follow one is the cut between them. -/
theorem eq_of_append_eq_append {as bs : List Char} (h : xs ++ ys = as ++ bs)
    (hxs : ∀ c ∈ xs, p c = false) (hys : ys.all p = true)
    (has : beginsWith p as.reverse = false) (hbs : beginsWith p bs = true) : xs = as ∧ ys = bs := by
  -- the two cuts lie apart by `zs`, which would have to hold a character of the class, or of none
  rcases List.append_eq_append_iff.1 h with ⟨zs, rfl, rfl⟩ | ⟨zs, rfl, rfl⟩
  · rcases List.eq_nil_or_concat zs with rfl | ⟨front, z, rfl⟩
    · exact ⟨(List.append_nil xs).symm, rfl⟩
    · have hz : p z = true := List.all_eq_true.1 hys z (by simp)
      simp [hz] at has
  · cases zs with
    | nil => exact ⟨List.append_nil as, rfl⟩
    | cons z rest =>
      have hz : p z = false := hxs z (by simp)
      rw [List.cons_append, beginsWith_cons, hz] at hbs
      cases hbs

/-! ## Taking stretches off both ends -/

/-- **What stripping takes off**: a stretch at either end. -/
theorem exists_append_strip (p : Char → Bool) (cs : List Char) :
    ∃ lead trail : List Char, lead.all p = true ∧ trail.all p = true ∧
      cs = lead ++ strip p cs ++ trail := by
  have hback := List.takeWhile_append_dropWhile (p := p) (l := (cs.dropWhile p).reverse)
  refine ⟨cs.takeWhile p, ((cs.dropWhile p).reverse.takeWhile p).reverse, List.all_takeWhile, ?_,
    ?_⟩
  · rw [List.all_reverse]
    exact List.all_takeWhile
  · rw [strip, List.append_assoc, ← List.reverse_append, hback, List.reverse_reverse,
      List.takeWhile_append_dropWhile]

/-- **Stripping stops at the first character on either side** that is not of
the class. -/
theorem strip_append_append {lead body trail : List Char} (hlead : lead.all p = true)
    (htrail : trail.all p = true) (hfront : beginsWith p body = false)
    (hback : beginsWith p body.reverse = false) (hne : body ≠ []) :
    strip p (lead ++ body ++ trail) = body := by
  have hfront' : beginsWith p (body ++ trail) = false := by rw [beginsWith_append hne, hfront]
  have htrail' : trail.reverse.all p = true := by rw [List.all_reverse, htrail]
  rw [strip, List.append_assoc, dropWhile_append_rest hlead hfront', List.reverse_append,
    dropWhile_append_rest htrail' hback, List.reverse_reverse]

theorem strip_append_left (hxs : xs.all p = true) : strip p (xs ++ ys) = strip p ys := by
  rw [strip, strip, List.dropWhile_append_of_pos (List.all_eq_true.1 hxs)]

/-- **Stripping a text that begins with none of the class** takes a stretch off its end. -/
theorem exists_strip_append (h : beginsWith p cs = false) :
    ∃ trail : List Char, trail.all p = true ∧ cs = strip p cs ++ trail := by
  obtain ⟨lead, trail, hlead, htrail, hcs⟩ := exists_append_strip p cs
  cases lead with
  | nil => exact ⟨trail, htrail, hcs⟩
  | cons c lead =>
    rw [hcs, List.append_assoc, List.cons_append, beginsWith_cons] at h
    rw [List.all_cons, h, Bool.false_and] at hlead
    cases hlead

/-- **What a text begins with behind a stretch** it begins with when it is stripped too, if
that leaves enough of it. -/
theorem prefix_strip {lead front : List Char} (hlead : lead.all p = true) (hne : front ≠ [])
    (hfront : beginsWith p front = false) (hcs : lead ++ front <+: cs)
    (hlength : front.length ≤ (strip p cs).length) : front <+: strip p cs := by
  obtain ⟨rest, rfl⟩ := hcs
  rw [List.append_assoc, strip_append_left hlead] at hlength ⊢
  obtain ⟨trail, -, htrail⟩ := exists_strip_append
    (show beginsWith p (front ++ rest) = false by rw [beginsWith_append hne, hfront])
  exact List.prefix_of_prefix_length_le (List.prefix_append front rest) ⟨trail, htrail.symm⟩
    hlength

/-- A stripped text begins with none of the class. -/
theorem beginsWith_strip (p : Char → Bool) (cs : List Char) :
    beginsWith p (strip p cs) = false := by
  have hprefix : strip p cs <+: cs.dropWhile p := by
    have h := List.reverse_prefix.2 (List.dropWhile_suffix (l := (cs.dropWhile p).reverse) p)
    rwa [List.reverse_reverse] at h
  obtain ⟨rest, hrest⟩ := hprefix
  have hhead := List.head?_dropWhile_not p cs
  rw [← hrest] at hhead
  cases hstrip : strip p cs with
  | nil => rfl
  | cons c front =>
    rw [hstrip] at hhead
    exact hhead

end Tabletop.Text

namespace Tabletop

open Text

variable {c : Char}

/-! ## The classes of a notation exclude each other -/

theorem isAlphanum_of_isDigit (h : c.isDigit = true) : c.isAlphanum = true := by
  rw [Char.isAlphanum, h, Bool.or_true]

theorem all_isAlphanum_of_isDigit {cs : List Char} (h : cs.all Char.isDigit = true) :
    cs.all Char.isAlphanum = true :=
  List.all_eq_true.2 fun c hc => isAlphanum_of_isDigit (List.all_eq_true.1 h c hc)

theorem eq_of_isDieLetter (h : isDieLetter c = true) : c = 'd' ∨ c = 'D' := by
  simpa [isDieLetter] using h

theorem eq_of_isSign (h : isSign c = true) : c = '+' ∨ c = '-' := by
  simpa [isSign] using h

@[simp] theorem isSign_char (s : Sign) : isSign s.char = true := by
  cases s <;> rfl

theorem isAlphanum_of_isDieLetter (h : isDieLetter c = true) : c.isAlphanum = true := by
  rcases eq_of_isDieLetter h with rfl | rfl <;> rfl

theorem isDigit_of_isDieLetter (h : isDieLetter c = true) : c.isDigit = false := by
  rcases eq_of_isDieLetter h with rfl | rfl <;> rfl

theorem isBlank_of_isDieLetter (h : isDieLetter c = true) : isBlank c = false := by
  rcases eq_of_isDieLetter h with rfl | rfl <;> decide

theorem isAlphanum_of_isSign (h : isSign c = true) : c.isAlphanum = false := by
  rcases eq_of_isSign h with rfl | rfl <;> rfl

theorem isSign_of_isAlphanum (h : c.isAlphanum = true) : isSign c = false :=
  Bool.eq_false_iff.2 fun hsign => by
    rw [isAlphanum_of_isSign hsign] at h
    cases h

theorem isBlank_of_isSign (h : isSign c = true) : isBlank c = false := by
  rcases eq_of_isSign h with rfl | rfl <;> decide

theorem isDieLetter_of_isSign (h : isSign c = true) : isDieLetter c = false := by
  rcases eq_of_isSign h with rfl | rfl <;> rfl

/-- An ASCII letter or digit lies above the signs and the space. -/
theorem le_toNat_of_isAlphanum (h : c.isAlphanum = true) : 0x30 ≤ c.toNat := by
  have hval : c.toNat = c.val.toNat := rfl
  have hclass : (decide (c.val ≥ 'A'.val ∧ c.val ≤ 'Z'.val) ||
      (decide (c.val ≥ 'a'.val) && decide (c.val ≤ 'z'.val)) ||
      (decide (c.val ≥ '0'.val) && decide (c.val ≤ '9'.val))) = true := h
  simp only [Bool.or_eq_true, Bool.and_eq_true, decide_eq_true_eq, ge_iff_le,
    UInt32.le_iff_toNat_le] at hclass
  rcases hclass with (⟨hle, -⟩ | ⟨hle, -⟩) | ⟨hle, -⟩
  · have : 65 ≤ c.val.toNat := hle
    omega
  · have : 97 ≤ c.val.toNat := hle
    omega
  · have : 48 ≤ c.val.toNat := hle
    omega

/-- **A blank is no ASCII letter or digit**: the blanks below U+0080 lie below
the digits. -/
theorem isAlphanum_of_isBlank (h : isBlank c = true) : c.isAlphanum = false := by
  rw [← Bool.not_eq_true]
  intro halnum
  have hlo := le_toNat_of_isAlphanum halnum
  have hhi := toNat_lt_of_isAlphanum halnum
  obtain ⟨range, hrange, h1, h2⟩ := CodePoints.has_iff.1 h
  simp only [blanks, List.mem_cons, List.not_mem_nil, or_false] at hrange
  rcases hrange with rfl | rfl | rfl | rfl | rfl | rfl | rfl | rfl | rfl | rfl <;>
    simp only at h1 h2 <;> omega

theorem isDigit_of_isBlank (h : isBlank c = true) : c.isDigit = false := by
  have halnum := isAlphanum_of_isBlank h
  rw [Char.isAlphanum, Bool.or_eq_false_iff] at halnum
  exact halnum.2

end Tabletop
