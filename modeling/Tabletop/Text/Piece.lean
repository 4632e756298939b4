/-!
# Pieces of a text

Texts are lists of characters. A piece of one is named by two positions,
by what it holds, or by what is taken off its ends.
-/

namespace Tabletop.Text

/-- **The piece between two positions**: from `start` up to but not
including `stop`. -/
def slice (cs : List Char) (start stop : Nat) : List Char :=
  (cs.drop start).take (stop - start)

theorem length_slice (cs : List Char) (start stop : Nat) :
    (slice cs start stop).length = min (stop - start) (cs.length - start) := by
  simp [slice]

theorem slice_append_append (before piece after : List Char) :
    slice (before ++ piece ++ after) before.length (before.length + piece.length) = piece := by
  simp [slice]

/-- **Two positions cut a text in three**: what precedes the piece between them, the piece,
and what follows it. -/
theorem exists_append_of_slice {cs piece : List Char} {start stop : Nat}
    (h : slice cs start stop = piece) (hne : piece ≠ []) (hstop : stop ≤ cs.length) :
    ∃ before after, cs = before ++ (piece ++ after) ∧ start = before.length ∧
      stop = before.length + piece.length := by
  subst h
  have hlength := length_slice cs start stop
  have hpos := List.length_pos_iff.2 hne
  refine ⟨cs.take start, cs.drop stop, ?_, ?_, ?_⟩
  · have hdrop : cs.drop stop = (cs.drop start).drop (stop - start) := by
      rw [List.drop_drop, show start + (stop - start) = stop by omega]
    rw [slice, hdrop, List.take_append_drop, List.take_append_drop]
  · rw [List.length_take]
    omega
  · rw [List.length_take, hlength]
    omega

theorem exists_mem_getElem? {before piece after : List Char} {i : Nat} (hle : before.length ≤ i)
    (hlt : i < before.length + piece.length) :
    ∃ c ∈ piece, (before ++ (piece ++ after))[i]? = some c := by
  have hi : i - before.length < piece.length := by omega
  refine ⟨piece[i - before.length], List.getElem_mem hi, ?_⟩
  rw [List.getElem?_append_right hle, List.getElem?_append_left hi, List.getElem?_eq_getElem hi]

/-- **Pieces that lie apart**, from left to right: two that hold one position are the same. -/
theorem eq_of_apart {α : Type} {start stop : α → Nat} {xs : List α} {x y : α} {i : Nat}
    (h : xs.Pairwise fun x y => stop x ≤ start y) (hx : x ∈ xs) (hy : y ∈ xs)
    (hxi : start x ≤ i ∧ i < stop x) (hyi : start y ≤ i ∧ i < stop y) : x = y := by
  have hapart : x = y ∨ stop x ≤ start y ∨ stop y ≤ start x :=
    List.Pairwise.forall_of_forall_of_flip
      (R := fun x y : α => x = y ∨ stop x ≤ start y ∨ stop y ≤ start x) (fun _ _ => .inl rfl)
      (h.imp fun h => .inr (.inl h)) (h.imp fun h => .inr (.inr h)) hx hy
  rcases hapart with heq | hle | hle
  · exact heq
  · omega
  · omega

/-- Whether a text begins with a character of a class. -/
def beginsWith (p : Char → Bool) (cs : List Char) : Bool :=
  cs.head?.any p

/-- **Stripping**: the text without the characters of a class at its two
ends. -/
def strip (p : Char → Bool) (cs : List Char) : List Char :=
  ((cs.dropWhile p).reverse.dropWhile p).reverse

@[simp] theorem strip_nil (p : Char → Bool) : strip p [] = [] := rfl

/-- Whether a text holds a piece. -/
def holds (piece : List Char) : List Char → Bool
  | [] => piece.isEmpty
  | c :: cs => piece.isPrefixOf (c :: cs) || holds piece cs

/-- A text holds a piece exactly when the piece is an infix of it. -/
theorem holds_iff {piece cs : List Char} : holds piece cs = true ↔ piece <:+: cs := by
  induction cs with
  | nil => simp [holds]
  | cons c cs ih => simp [holds, ih, List.infix_cons_iff]

/-- **The runs of a class**: the longest pieces whose characters all
satisfy `p`, from left to right. -/
def runs (p : Char → Bool) : List Char → List (List Char)
  | [] => []
  | c :: cs =>
    if p c then (c :: cs.takeWhile p) :: runs p (cs.dropWhile p) else runs p cs
termination_by cs => cs.length
decreasing_by
  · have := (List.dropWhile_suffix (l := cs) p).length_le
    rw [List.length_cons]; omega
  · exact Nat.lt_succ_self _

end Tabletop.Text
