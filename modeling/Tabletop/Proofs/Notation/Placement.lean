import Tabletop.Proofs.Notation.Acceptance

/-!
# Tokens in their places

Where the tokens of a text stand in it. Each token is the lexeme that is read
at its position (`Token.exists_read_of_scan_eq_cons`), so the piece of the
text between its positions is what it holds, and the tokens lie apart from
left to right (`Token.pairwise_scan`).

The tokens depend on the blanks at neither end of a text, but for their
positions: blanks at the end are never read as part of a lexeme
(`Token.scan_append_gap`), and those at the front only shift all tokens. So
the tokens of a text are those of the text stripped.
-/

namespace Tabletop

open Text

variable {c : Char} {cs rest : List Char} {start : Nat}

/-! ## Blanks at the end -/

theorem Gap.beginsWith (g : Gap) {p : Char → Bool} (hp : ∀ c, isBlank c = true → p c = false) :
    beginsWith p g.chars = false :=
  beginsWith_of_all hp g.all_blank

namespace DieText

/-- A die ends in a digit, so where blanks are put behind a text it keeps its place. -/
theorem read?_append_gap (cs : List Char) (g : Gap) :
    read? (cs ++ g.chars) = (read? cs).map fun found => (found.1, found.2 ++ g.chars) := by
  have hforward {d : DieText} {rest : List Char} (h : read? cs = some (d, rest)) :
      read? (cs ++ g.chars) = some (d, rest ++ g.chars) := by
    obtain ⟨hd, rfl, hrest⟩ := read?_eq_some_iff.1 h
    refine read?_eq_some_iff.2 ⟨hd, List.append_assoc .., ?_⟩
    cases rest with
    | nil => exact g.beginsWith fun c => isAlphanum_of_isBlank
    | cons c rest => exact hrest
  cases hread : read? cs with
  | some found => exact hforward hread
  | none =>
    rw [Option.map_none, Option.eq_none_iff_forall_ne_some]
    rintro ⟨d, rest⟩ h
    obtain ⟨hd, hcs, hrest⟩ := read?_eq_some_iff.1 h
    -- a die ends in no blank, so it does not reach into those behind the text
    have hbetween : ∃ between, cs = d.chars ++ between ∧ rest = between ++ g.chars := by
      rcases List.append_eq_append_iff.1 hcs with ⟨beyond, hchars, hg⟩ | ⟨between, hbetween, hr⟩
      · have hlast := Operand.beginsWith_reverse (.die d hd) []
        rw [List.nil_append, Operand.chars, hchars, List.reverse_append] at hlast
        have hblank : beyond.reverse.all isBlank = true := by
          have hall := g.all_blank
          rw [hg, List.all_append, Bool.and_eq_true] at hall
          rw [List.all_reverse, hall.1]
        cases hbeyond : beyond.reverse with
        | nil =>
          rw [List.reverse_eq_nil_iff] at hbeyond
          subst hbeyond
          exact ⟨[], by rw [hchars, List.append_nil, List.append_nil], hg.symm⟩
        | cons b back =>
          rw [hbeyond, List.cons_append, beginsWith_cons] at hlast
          rw [hbeyond, List.all_cons, hlast, Bool.false_and] at hblank
          cases hblank
      · exact ⟨between, hbetween, hr⟩
    obtain ⟨between, rfl, rfl⟩ := hbetween
    have hfree : beginsWith Char.isAlphanum between = false := by
      cases between with
      | nil => rfl
      | cons c between => exact hrest
    rw [read?_eq_some_iff.2 ⟨hd, rfl, hfree⟩] at hread
    cases hread

end DieText

namespace Lexeme

/-- Blanks put behind a text stay behind the lexeme that it begins with. -/
theorem read_append_gap (c : Char) (cs : List Char) (g : Gap) :
    read c (cs ++ g.chars) = ((read c cs).1, (read c cs).2 ++ g.chars) := by
  have hg : beginsWith Char.isAlphanum g.chars = false :=
    g.beginsWith fun c => isAlphanum_of_isBlank
  have hdie := DieText.read?_append_gap (c :: cs) g
  rw [List.cons_append] at hdie
  unfold read
  rw [hdie]
  cases DieText.read? (c :: cs) with
  | some found => rfl
  | none =>
    dsimp only [Option.map_none]
    rw [takeWhile_append_of_beginsWith hg, dropWhile_append_of_beginsWith hg]
    split
    · rfl
    · split <;> rfl

theorem eq_sign_of_chars_read {s : Sign} (h : (read c cs).1.chars = [s.char]) :
    (read c cs).1 = .sign s := by
  have happend := chars_append_read c cs
  rw [h, List.singleton_append, List.cons.injEq] at happend
  rw [← happend.1, read_sign]

end Lexeme

namespace Token

/-! ## What the tokens depend on -/

/-- **Blanks behind a text** leave its tokens as they are. -/
theorem scan_append_gap (g : Gap) : scan start (cs ++ g.chars) = scan start cs := by
  fun_induction scan start cs with
  | case1 start =>
    have hgap : scan start (g.chars ++ []) = _ := scan_gap g
    rw [List.append_nil, scan_nil] at hgap
    exact hgap
  | case2 start c cs hc ih => rw [List.cons_append, scan_blank hc, ih]
  | case3 start c cs hc piece ih =>
    rw [Bool.not_eq_true] at hc
    rw [List.cons_append, scan_cons hc, Lexeme.read_append_gap]
    exact congrArg _ ih

/-- **Stripping** a text that begins with no blank leaves its tokens as they are. -/
theorem scan_strip (h : beginsWith isBlank cs = false) :
    scan start (strip isBlank cs) = scan start cs := by
  obtain ⟨trail, htrail, hcs⟩ := exists_strip_append h
  have hscan : scan start (strip isBlank cs ++ trail) = scan start (strip isBlank cs) :=
    scan_append_gap ⟨trail, htrail⟩
  rw [← hscan, ← hcs]

/-! ## Where the tokens stand -/

/-- **Every token** is the lexeme that is read at its position, which is no blank. -/
theorem exists_read_of_mem_scan {t : Token} (h : t ∈ scan start cs) :
    ∃ (front : List Char) (c : Char) (rest : List Char), cs = front ++ c :: rest ∧
      isBlank c = false ∧ t = ⟨start + front.length, (Lexeme.read c rest).1⟩ := by
  fun_induction scan start cs with
  | case1 => cases h
  | case2 start c cs hc ih =>
    obtain ⟨front, c', rest, rfl, hc', rfl⟩ := ih h
    refine ⟨c :: front, c', rest, rfl, hc', ?_⟩
    rw [List.length_cons, Nat.add_assoc, Nat.add_comm 1]
  | case3 start c cs hc piece ih =>
    rw [Bool.not_eq_true] at hc
    rcases List.mem_cons.1 h with rfl | htail
    · exact ⟨[], c, cs, rfl, hc, rfl⟩
    · obtain ⟨front, c', rest, hrest, hc', rfl⟩ := ih htail
      refine ⟨piece.1.chars ++ front, c', rest, ?_, hc', ?_⟩
      · rw [← Lexeme.chars_append_read c cs, List.append_assoc]
        exact congrArg _ hrest
      · rw [List.length_append, Nat.add_assoc]

theorem wellFormed_of_mem_scan {t : Token} (h : t ∈ scan start cs) : t.lexeme.WellFormed := by
  obtain ⟨front, c, rest, -, -, rfl⟩ := exists_read_of_mem_scan h
  exact Lexeme.wellFormed_read c rest

/-- **Every token stands in the text** behind what its position says. -/
theorem exists_append_of_mem_scan {t : Token} (h : t ∈ scan start cs) :
    ∃ front after, cs = front ++ (t.chars ++ after) ∧ t.start = start + front.length ∧
      t.chars ≠ [] := by
  obtain ⟨front, c, rest, rfl, -, rfl⟩ := exists_read_of_mem_scan h
  exact ⟨front, (Lexeme.read c rest).2, congrArg _ (Lexeme.chars_append_read c rest).symm, rfl,
    Lexeme.chars_read_ne_nil c rest⟩

theorem start_lt_stop {t : Token} (h : t ∈ scan start cs) : t.start < t.stop := by
  obtain ⟨front, after, -, -, hne⟩ := exists_append_of_mem_scan h
  have hpos := List.length_pos_iff.2 hne
  rw [stop]
  omega

theorem stop_le {t : Token} (h : t ∈ scan 0 cs) : t.stop ≤ cs.length := by
  obtain ⟨front, after, rfl, hstart, -⟩ := exists_append_of_mem_scan h
  rw [stop, hstart, List.length_append, List.length_append]
  omega

/-- **A token holds the piece of the text** between its positions. -/
theorem slice_of_mem_scan {t : Token} (h : t ∈ scan 0 cs) :
    slice cs t.start t.stop = t.chars := by
  obtain ⟨front, after, rfl, hstart, -⟩ := exists_append_of_mem_scan h
  rw [stop, hstart, Nat.zero_add, ← List.append_assoc, slice_append_append]

/-- **The tokens lie apart**, from left to right. -/
theorem pairwise_scan (start : Nat) (cs : List Char) :
    (scan start cs).Pairwise fun t t' => t.stop ≤ t'.start := by
  fun_induction scan start cs with
  | case1 => exact List.Pairwise.nil
  | case2 start c cs hc ih => exact ih
  | case3 start c cs hc piece ih =>
    refine List.pairwise_cons.2 ⟨fun t ht => ?_, ih⟩
    obtain ⟨front, after, -, hstart, -⟩ := exists_append_of_mem_scan ht
    rw [hstart]
    exact Nat.le_add_right _ _

theorem eq_sign_of_chars {t : Token} (h : t ∈ scan start cs) {s : Sign}
    (hs : t.chars = [s.char]) : t.lexeme = .sign s := by
  obtain ⟨front, c, rest, -, -, rfl⟩ := exists_read_of_mem_scan h
  exact Lexeme.eq_sign_of_chars_read hs

end Token

end Tabletop
