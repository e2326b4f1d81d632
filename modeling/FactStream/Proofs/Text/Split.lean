import FactStream.Text.Blank

/-!
# Cutting at a separator

Every separator divides, so the pieces of a text are known from two facts: no
piece holds a separator, and with separators between them the pieces make up
the text.
-/

namespace FactStream.Text

variable {separator : Char}

theorem separator_not_mem {text piece : Text}
    (hpiece : piece ∈ text.splitOn separator) : separator ∉ piece := by
  induction text generalizing piece with
  | nil =>
      rw [List.splitOn_nil, List.mem_singleton] at hpiece
      rw [hpiece]
      exact List.not_mem_nil
  | cons character text ih =>
      rw [List.splitOn_cons_eq_if_modifyHead] at hpiece
      obtain ⟨first, pieces, hpieces⟩ :=
        List.exists_cons_of_ne_nil (List.splitOn_ne_nil separator text)
      rw [hpieces] at ih hpiece
      by_cases hcharacter : character = separator
      · rw [if_pos (beq_iff_eq.mpr hcharacter), List.mem_cons] at hpiece
        rcases hpiece with rfl | hpiece
        · exact List.not_mem_nil
        · exact ih hpiece
      · rw [if_neg (mt beq_iff_eq.mp hcharacter), List.modifyHead_cons,
          List.mem_cons] at hpiece
        rcases hpiece with rfl | hpiece
        · exact List.not_mem_cons_of_ne_of_not_mem (Ne.symm hcharacter)
            (ih List.mem_cons_self)
        · exact ih (List.mem_cons_of_mem first hpiece)

/-- A text has one piece more than it has separators. -/
theorem length_splitOn (text : Text) :
    (text.splitOn separator).length = text.count separator + 1 := by
  induction text with
  | nil => simp
  | cons character text ih =>
      rw [List.splitOn_cons_eq_if_modifyHead]
      by_cases hcharacter : character = separator
      · rw [if_pos (beq_iff_eq.mpr hcharacter), List.length_cons, ih,
          hcharacter, List.count_cons_self]
      · rw [if_neg (mt beq_iff_eq.mp hcharacter), List.length_modifyHead, ih,
          List.count_cons_of_ne hcharacter]

/-- The pieces of a text bring no new characters. -/
theorem mem_of_mem_piece {text piece : Text}
    (hpiece : piece ∈ text.splitOn separator) {character : Char}
    (hmem : character ∈ piece) : character ∈ text := by
  have htext : [separator].intercalate (text.splitOn separator) = text :=
    List.intercalate_splitOn separator
  obtain ⟨index, hindex⟩ := List.getElem?_of_mem hpiece
  have hbetween : piece ∈
      (text.splitOn separator).intersperse [separator] := by
    apply List.mem_of_getElem?
    rw [List.getElem?_intersperse_two_mul, hindex]
  rw [← htext]
  exact List.mem_flatten_of_mem hbetween hmem

/-- The pieces of a text, without mention of how it is cut. -/
theorem splitOn_eq_iff {text : Text} {pieces : List Text} (hne : pieces ≠ []) :
    text.splitOn separator = pieces ↔
      (∀ piece ∈ pieces, separator ∉ piece) ∧
        [separator].intercalate pieces = text := by
  constructor
  · rintro rfl
    exact ⟨fun piece => separator_not_mem, List.intercalate_splitOn separator⟩
  · rintro ⟨hpieces, rfl⟩
    exact List.splitOn_intercalate separator hpieces hne

end FactStream.Text
