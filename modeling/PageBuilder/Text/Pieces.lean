/-! Texts as the pieces between separators. -/
namespace PageBuilder.Text

/-- The pieces between the separators of a text; a text without one is one piece. -/
def pieces (separator : Char) : List Char → List (List Char)
  | [] => [[]]
  | c :: rest =>
    if c = separator then [] :: pieces separator rest
    else
      match pieces separator rest with
      | [] => [[c]]
      | first :: others => (c :: first) :: others

theorem pieces_ne_nil (separator : Char) (text : List Char) : pieces separator text ≠ [] := by
  cases text with
  | nil => simp [pieces]
  | cons c rest =>
    rw [pieces]
    split
    · simp
    · split <;> simp

theorem pieces_cons_of_ne {separator c : Char} (h : c ≠ separator) (text : List Char) :
    ∃ first others, pieces separator text = first :: others ∧
      pieces separator (c :: text) = (c :: first) :: others := by
  obtain ⟨first, others, hp⟩ := List.exists_cons_of_ne_nil (pieces_ne_nil separator text)
  exact ⟨first, others, hp, by simp [pieces, h, hp]⟩

/-- A separator parts the pieces before it from those behind it. -/
theorem pieces_append (separator : Char) (before behind : List Char) :
    pieces separator (before ++ separator :: behind) =
      pieces separator before ++ pieces separator behind := by
  induction before with
  | nil => simp [pieces]
  | cons c rest ih =>
    by_cases h : c = separator
    · simp [pieces, h, ih]
    · obtain ⟨first, others, hp, hc⟩ := pieces_cons_of_ne h rest
      have hall : pieces separator (rest ++ separator :: behind) =
          first :: (others ++ pieces separator behind) := by rw [ih, hp]; rfl
      rw [hc, List.cons_append, pieces, if_neg h, hall]
      rfl

theorem pieces_of_not_mem {separator : Char} {text : List Char} (h : separator ∉ text) :
    pieces separator text = [text] := by
  induction text with
  | nil => rfl
  | cons c rest ih =>
    obtain ⟨differs, h⟩ := List.ne_and_not_mem_of_not_mem_cons h
    rw [pieces, if_neg differs.symm, ih h]

theorem not_mem_of_mem_pieces {separator : Char} {text piece : List Char}
    (h : piece ∈ pieces separator text) : separator ∉ piece := by
  induction text generalizing piece with
  | nil =>
    rw [List.mem_singleton.mp h]
    exact List.not_mem_nil
  | cons c rest ih =>
    by_cases same : c = separator
    · rw [pieces, if_pos same] at h
      rcases List.mem_cons.mp h with rfl | h
      · exact List.not_mem_nil
      · exact ih h
    · obtain ⟨first, others, before, after⟩ := pieces_cons_of_ne same rest
      rw [before] at ih
      rw [after] at h
      rcases List.mem_cons.mp h with rfl | h
      · exact List.not_mem_cons_of_ne_of_not_mem (Ne.symm same) (ih (List.mem_cons_self ..))
      · exact ih (List.mem_cons_of_mem _ h)

end PageBuilder.Text
