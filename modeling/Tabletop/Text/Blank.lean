import Tabletop.Text.CodePoints

/-!
# Blanks

The characters that separate without being read: the white space of the
Unicode standard together with the four information separators U+001C to
U+001F. Between the parts of a notation any number of them may stand, and
a text is read without those at its two ends.
-/

namespace Tabletop.Text

/-- The code points of the blanks. -/
def blanks : CodePoints :=
  [(0x09, 0x0D), (0x1C, 0x20), (0x85, 0x85), (0xA0, 0xA0), (0x1680, 0x1680), (0x2000, 0x200A),
   (0x2028, 0x2029), (0x202F, 0x202F), (0x205F, 0x205F), (0x3000, 0x3000)]

/-- Whether a character is a blank. -/
def isBlank (c : Char) : Bool :=
  blanks.has c

theorem isBlank_of_isDigit {c : Char} (h : c.isDigit = true) : isBlank c = false := by
  simp only [Char.isDigit, Bool.and_eq_true, decide_eq_true_eq, UInt32.le_iff_toNat_le] at h
  have hn : c.toNat = c.val.toNat := rfl
  simp only [isBlank, blanks, CodePoints.has, List.any_cons, List.any_nil, hn]
  have h1 : 48 ≤ c.val.toNat := h.1
  have h2 : c.val.toNat ≤ 57 := h.2
  simp
  omega

/-- A text without the blanks. -/
def withoutBlanks (cs : List Char) : List Char :=
  cs.filter fun c => !isBlank c

end Tabletop.Text
