import PageBuilder.Text.Lines
/-! Documents, which are lines with a line feed behind each, and the lines that are read
from them again. -/
namespace PageBuilder.Text

theorem document_cons (line : String) (rest : List String) :
    document (line :: rest) = line ++ "\n" ++ document rest := by
  simp [document]

theorem document_append (lines more : List String) :
    document (lines ++ more) = document lines ++ document more := by
  simp [document]

theorem document_eq_unlines {lines : List String} (h : lines ≠ []) :
    document lines = unlines lines ++ "\n" := by
  induction lines with
  | nil => exact absurd rfl h
  | cons line rest ih =>
    rw [document_cons]
    cases rest with
    | nil => simp [unlines, document]
    | cons next others =>
      rw [ih (by simp)]
      simp [unlines, String.append_assoc]

/-! ### Reading lines -/

/-- A reader finds the text as one line, wherever a line feed ends it. -/
def isLine (text : String) : Bool :=
  text.toList.all fun c => c ≠ '\n' && c ≠ '\r'

@[simp] theorem isLine_append (text more : String) :
    isLine (text ++ more) = (isLine text && isLine more) := by
  simp [isLine]

theorem splitLines_append {line : List Char} (h : '\n' ∉ line) (current rest : List Char) :
    splitLines current (line ++ '\n' :: rest) =
      dropReturn (current.reverse ++ line) :: splitLines [] rest := by
  induction line generalizing current with
  | nil => simp [splitLines]
  | cons c line ih =>
    have hc : c ≠ '\n' := fun same => h (same ▸ List.mem_cons_self)
    rw [List.cons_append, splitLines, if_neg hc, ih fun later => h (List.mem_cons_of_mem c later)]
    simp

theorem lines_append {line : String} (h : isLine line = true) (rest : String) :
    lines (line ++ "\n" ++ rest) = line :: lines rest := by
  have free : ∀ c ∈ line.toList, c ≠ '\n' ∧ c ≠ '\r' := by simpa [isLine] using h
  have feed : '\n' ∉ line.toList := fun hc => (free _ hc).1 rfl
  have kept : dropReturn line.toList = line.toList :=
    if_neg fun last => (free _ (List.mem_of_getLast? last)).2 rfl
  have chars : (line ++ "\n" ++ rest).toList = line.toList ++ '\n' :: rest.toList := by
    simp
  rw [lines, chars, splitLines_append feed, List.reverse_nil, List.nil_append, kept,
    List.map_cons, String.ofList_toList, lines]

theorem lines_document_append {written : List String} (h : ∀ line ∈ written, isLine line = true)
    (rest : String) : lines (document written ++ rest) = written ++ lines rest := by
  induction written with
  | nil => simp [document]
  | cons line written ih =>
    obtain ⟨hline, hwritten⟩ := List.forall_mem_cons.mp h
    rw [document_cons, String.append_assoc, lines_append hline, ih hwritten, List.cons_append]

theorem lines_document {written : List String} (h : ∀ line ∈ written, isLine line = true) :
    lines (document written) = written := by
  have read := lines_document_append h ""
  rwa [String.append_empty, show lines "" = [] from rfl, List.append_nil] at read

theorem splitLines_append_feed (current text rest : List Char) :
    splitLines current (text ++ '\n' :: rest) =
      splitLines current (text ++ ['\n']) ++ splitLines [] rest := by
  induction text generalizing current with
  | nil => simp [splitLines]
  | cons c text ih =>
    rw [List.cons_append, List.cons_append, splitLines, splitLines]
    split
    · rw [ih, List.cons_append]
    · exact ih _

/-- Whatever the other texts are, a line among them is read. -/
theorem mem_lines_document {line : String} (h : isLine line = true) {written : List String}
    (held : line ∈ written) : line ∈ lines (document written) := by
  induction written with
  | nil => cases held
  | cons text rest ih =>
    rw [document_cons]
    rcases List.mem_cons.mp held with rfl | later
    · rw [lines_append h]
      exact List.mem_cons_self
    · have parted : (text ++ "\n" ++ document rest).toList =
          text.toList ++ '\n' :: (document rest).toList := by simp
      rw [lines, parted, splitLines_append_feed, List.map_append]
      exact List.mem_append_right _ (ih later)

end PageBuilder.Text
