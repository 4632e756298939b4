/-!
# Joined texts

Where a text is put together from pieces with a separator between them, the
pieces can be told from the text as long as the separator begins with a
character that stands in none of them. The first piece ends where this character
is first met (`Text.eq_of_cut_front`), and so on to the last one
(`Text.intercalate_injective`, and of strings `Text.strings_eq_of_intercalate`).
-/

namespace Tabletop.Text

variable {c : Char} {sep xs ys as bs : List Char}

/-- **The first place of a character** is the only place to cut a text before which it does not
stand. -/
theorem eq_of_cut_front (hxs : c ∉ xs) (hys : c ∉ ys) (h : xs ++ c :: as = ys ++ c :: bs) :
    xs = ys ∧ as = bs := by
  have hsplit := congrArg (List.splitOn c) h
  rw [List.splitOn_append_cons_self_of_not_mem hxs, List.splitOn_append_cons_self_of_not_mem hys,
    List.cons.injEq] at hsplit
  obtain ⟨rfl, -⟩ := hsplit
  exact ⟨rfl, (List.cons.inj (List.append_cancel_left h)).2⟩

/-- **The last place of a character** is the only place to cut a text behind which it does not
stand. -/
theorem eq_of_cut_back (has : c ∉ as) (hbs : c ∉ bs) (h : xs ++ c :: as = ys ++ c :: bs) :
    xs = ys ∧ as = bs := by
  have hreverse : as.reverse ++ c :: xs.reverse = bs.reverse ++ c :: ys.reverse := by
    simpa using congrArg List.reverse h
  obtain ⟨hback, hfront⟩ := eq_of_cut_front (by simpa using has) (by simpa using hbs) hreverse
  exact ⟨List.reverse_inj.1 hfront, List.reverse_inj.1 hback⟩

theorem not_mem_append {front back : String} (hfront : c ∉ front.toList)
    (hback : c ∉ back.toList) : c ∉ (front ++ back).toList := by
  rw [String.toList_append, List.mem_append]
  exact not_or.2 ⟨hfront, hback⟩

/-- A character that stands in no piece and not in the separator does not stand in the joined
text. -/
theorem not_mem_intercalate {pieces : List (List Char)} (hsep : c ∉ sep)
    (h : ∀ piece ∈ pieces, c ∉ piece) : c ∉ sep.intercalate pieces := by
  induction pieces with
  | nil => simp
  | cons piece pieces ih =>
    rw [List.forall_mem_cons] at h
    cases pieces with
    | nil =>
      rw [List.intercalate_singleton]
      exact h.1
    | cons next pieces =>
      rw [List.intercalate_cons_cons, List.mem_append, List.mem_append]
      exact fun hc => hc.elim (fun hc => hc.elim h.1 hsep) (ih h.2)

/-- **The pieces are told from the joined text**, if there are some and the separator begins with
a character that stands in none of them. -/
theorem intercalate_injective {pieces pieces' : List (List Char)}
    (hne : pieces ≠ []) (hne' : pieces' ≠ []) (h : ∀ piece ∈ pieces, c ∉ piece)
    (h' : ∀ piece ∈ pieces', c ∉ piece)
    (heq : (c :: sep).intercalate pieces = (c :: sep).intercalate pieces') : pieces = pieces' := by
  -- behind the last piece no separator stands
  have hlast {piece piece' next : List Char} {rest : List (List Char)} (hpiece : c ∉ piece) :
      piece ≠ (c :: sep).intercalate (piece' :: next :: rest) := by
    rintro rfl
    rw [List.intercalate_cons_cons] at hpiece
    exact hpiece (by simp)
  induction pieces generalizing pieces' with
  | nil => exact absurd rfl hne
  | cons piece pieces ih =>
    obtain ⟨piece', pieces', rfl⟩ := List.exists_cons_of_ne_nil hne'
    rw [List.forall_mem_cons] at h h'
    cases pieces with
    | nil =>
      cases pieces' with
      | nil =>
        rw [List.intercalate_singleton, List.intercalate_singleton] at heq
        rw [heq]
      | cons next' pieces' =>
        rw [List.intercalate_singleton] at heq
        exact absurd heq (hlast h.1)
    | cons next pieces =>
      cases pieces' with
      | nil =>
        rw [List.intercalate_singleton] at heq
        exact absurd heq.symm (hlast h'.1)
      | cons next' pieces' =>
        rw [List.intercalate_cons_cons, List.intercalate_cons_cons, List.append_assoc,
          List.append_assoc] at heq
        obtain ⟨rfl, hrest⟩ := eq_of_cut_front h.1 h'.1 heq
        rw [ih (List.cons_ne_nil _ _) (List.cons_ne_nil _ _) h.2 h'.2
          (List.append_cancel_left hrest)]

/-- **The strings are told from the joined one**, if there are some and the separator begins with
a character that stands in none of them. -/
theorem strings_eq_of_intercalate {joiner : String} (hjoiner : joiner.toList = c :: sep)
    {pieces pieces' : List String} (hne : pieces ≠ []) (hne' : pieces' ≠ [])
    (h : ∀ piece ∈ pieces, c ∉ piece.toList) (h' : ∀ piece ∈ pieces', c ∉ piece.toList)
    (heq : joiner.intercalate pieces = joiner.intercalate pieces') : pieces = pieces' := by
  have hchars := congrArg String.toList heq
  rw [String.toList_intercalate, String.toList_intercalate, hjoiner] at hchars
  have hmap := intercalate_injective (mt List.map_eq_nil_iff.1 hne)
    (mt List.map_eq_nil_iff.1 hne') (List.forall_mem_map.2 h) (List.forall_mem_map.2 h') hchars
  exact (List.map_inj_right fun _ _ => String.toList_inj.1).1 hmap

end Tabletop.Text
