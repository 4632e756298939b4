import Tabletop.Text.Blank
import Tabletop.Text.Piece

/-!
# Named variables

Variables are texts under names. Setting a name again changes its value
and not its place, and names that differ in the case of a letter are
different. A name is looked up without regard to case, and then the last
place decides.

A file of variables has a line for each, such as `DICE_MAX_COUNT=20`. Its
values may refer to variables set before them and to those of the
environment.
-/

namespace Tabletop

open Text

/-- **Named texts**, in the order in which the names came up. -/
abbrev Variables := List (String × String)

namespace Variables

/-- **Sets a name**: in its place if it is there, at the end if not. -/
def set (vars : Variables) (name value : String) : Variables :=
  if vars.any fun v => v.1 == name then
    vars.map fun v => if v.1 == name then (name, value) else v
  else vars ++ [(name, value)]

/-- The value under exactly this name. -/
def get? (vars : Variables) (name : String) : Option String :=
  (vars.find? fun v => v.1 == name).map Prod.snd

/-- A text in lowered letters. -/
def lowered (s : String) : String :=
  String.ofList (s.toList.map Char.toLower)

/-- **The value under a name in any case**, the name being given in lowered
letters. -/
def find? (vars : Variables) (name : String) : Option String :=
  (vars.reverse.find? fun v => lowered v.1 == name).map Prod.snd

/-- A name that was set has its value. -/
theorem get?_set (vars : Variables) (name value : String) :
    (vars.set name value).get? name = some value := by
  unfold set get?
  split
  · next h =>
    induction vars with
    | nil => simp at h
    | cons v vars ih =>
      by_cases hv : v.1 = name
      · simp [hv]
      · have hrest : (vars.any fun v => v.1 == name) = true := by simpa [hv] using h
        simpa [hv] using ih hrest
  · next h =>
    have hnone : List.find? (fun v => v.1 == name) vars = none := by
      rw [List.find?_eq_none]
      intro v hv heq
      exact h (List.any_eq_true.mpr ⟨v, hv, heq⟩)
    simp [List.find?_append, hnone]

/-- Setting a name leaves the values of the others. -/
theorem get?_set_of_ne (vars : Variables) {name other : String} (value : String)
    (h : other ≠ name) : (vars.set name value).get? other = vars.get? other := by
  have hne : (name == other) = false := by simpa using Ne.symm h
  have hmap (vars : Variables) :
      List.find? (fun v => v.1 == other)
          (vars.map fun v => if v.1 == name then (name, value) else v) =
        List.find? (fun v => v.1 == other) vars := by
    induction vars with
    | nil => rfl
    | cons v vars ih =>
      rw [List.map_cons, List.find?_cons, List.find?_cons, ih]
      by_cases hv : v.1 = name
      · simp [hv, hne]
      · simp [hv]
  unfold set get?
  split
  · rw [hmap]
  · cases hfind : List.find? (fun v => v.1 == other) vars <;>
      simp [List.find?_append, hfind, hne]

/-! ## References -/

/-- **The reference that a text goes on with** after a dollar sign and an
opening brace: a name, and a default after a colon and a dash or none, up
to the closing brace. -/
def reference? (cs : List Char) : Option (List Char × List Char × List Char) :=
  let name := cs.takeWhile fun c => c != '\x7d' && c != ':'
  match cs.dropWhile fun c => c != '\x7d' && c != ':' with
  | ':' :: '-' :: more =>
    match more.dropWhile (· != '\x7d') with
    | _ :: rest => some (name, more.takeWhile (· != '\x7d'), rest)
    | [] => none
  | '\x7d' :: rest => some (name, [], rest)
  | _ => none

theorem length_le_of_reference? {cs name default rest : List Char}
    (h : reference? cs = some (name, default, rest)) : rest.length ≤ cs.length := by
  have hle := (List.dropWhile_suffix (l := cs) fun c => c != '\x7d' && c != ':').length_le
  unfold reference? at h
  split at h
  · next more hmore =>
    rw [hmore, List.length_cons, List.length_cons] at hle
    have hmore := (List.dropWhile_suffix (l := more) (· != '\x7d')).length_le
    split at h
    · next c tail htail =>
      rw [htail, List.length_cons] at hmore
      cases h
      omega
    · cases h
  · next tail htail =>
    rw [htail, List.length_cons] at hle
    cases h
    omega
  · cases h

/-- **A value with its references replaced** by what they refer to; a name
without a value gives its default. -/
def resolved (lookup : String → Option String) : List Char → List Char
  | '$' :: '\x7b' :: cs =>
    match _h : reference? cs with
    | some (name, default, rest) =>
      ((lookup (String.ofList name)).map String.toList).getD default ++ resolved lookup rest
    | none => '$' :: '\x7b' :: resolved lookup cs
  | c :: cs => c :: resolved lookup cs
  | [] => []
termination_by cs => cs.length
decreasing_by
  · have := length_le_of_reference? _h
    simp only [List.length_cons]
    omega
  · simp only [List.length_cons]
    omega
  · exact Nat.lt_succ_self _

/-! ## Files -/

/-- Whether a character ends a line. -/
def isLineEnd (c : Char) : Bool :=
  c == '\n' || c == '\r'

/-- A value without the remark that follows it: a remark begins with a `#`
after a blank. -/
def withoutRemark : List Char → List Char
  | [] => []
  | c :: cs =>
    if isBlank c && beginsWith (· == '#') (cs.dropWhile isBlank) then []
    else c :: withoutRemark cs

/-- A line without the word `export` before it. -/
def withoutExport (line : List Char) : List Char :=
  let word := "export".toList
  let rest := line.drop word.length
  if word.isPrefixOf line && beginsWith isBlank rest then rest.dropWhile isBlank else line

/-- **The variable of a line**, a name and a value with `=` between them. An
empty line and a line that begins with `#` hold none. -/
def ofLine? (line : List Char) : Option (String × List Char) :=
  let line := withoutExport (line.dropWhile isBlank)
  match line.dropWhile (· != '=') with
  | [] => none
  | _ :: value =>
    if beginsWith (· == '#') line then none
    else
      some (String.ofList (strip isBlank (line.takeWhile (· != '='))),
        strip isBlank (withoutRemark (value.dropWhile isBlank)))

/-- **The variables of a file**, a line each. A reference is to the variables of
the lines before, or else to the environment. -/
def ofFile (environment : Variables) (text : String) : Variables :=
  let lines := (runs (fun c => !isLineEnd c) text.toList).filterMap ofLine?
  lines.foldl
    (fun vars line =>
      let lookup (name : String) := (vars.get? name).or (environment.get? name)
      vars.set line.1 (String.ofList (resolved lookup line.2))) []

end Variables

end Tabletop
