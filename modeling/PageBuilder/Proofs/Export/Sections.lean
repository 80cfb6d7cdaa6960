import PageBuilder.Export.Section
import PageBuilder.Proofs.Text.Words
import Mathlib.Data.List.Nodup
/-! The sections of a page, and the names of their components. A name is a word, and the
digits at its end give the position of its section back, so no two sections share one. -/
namespace PageBuilder

namespace PageSection

variable {make : Nat → PlacedBlock → PageSection}

theorem getElem?_number (position : Nat) (blocks : List PlacedBlock) (i : Nat) :
    (number make position blocks)[i]? = blocks[i]?.map (make (position + i)) := by
  induction blocks generalizing position i with
  | nil => rfl
  | cons block rest ih =>
    cases i with
    | zero => rfl
    | succ i =>
      rw [number, List.getElem?_cons_succ, List.getElem?_cons_succ, ih]
      simp [Nat.add_assoc, Nat.add_comm 1 i]

theorem length_number (position : Nat) (blocks : List PlacedBlock) :
    (number make position blocks).length = blocks.length := by
  induction blocks generalizing position with
  | nil => rfl
  | cons block rest ih => rw [number, List.length_cons, List.length_cons, ih]

theorem number_ne_nil {position : Nat} {blocks : List PlacedBlock} (h : blocks ≠ []) :
    number make position blocks ≠ [] := by
  cases blocks with
  | nil => exact absurd rfl h
  | cons => exact List.cons_ne_nil _ _

theorem map_position_number (h : ∀ position block, (make position block).position = position)
    (position : Nat) (blocks : List PlacedBlock) :
    (number make position blocks).map PageSection.position =
      List.range' position blocks.length := by
  induction blocks generalizing position with
  | nil => rfl
  | cons block rest ih =>
    rw [number, List.map_cons, ih, h, List.length_cons, List.range'_succ]

end PageSection

/-! ### Names -/

theorem isAlphanum_of_mem_pascalChars {starting : Bool} {text : List Char} :
    ∀ c ∈ pascalChars starting text, c.isAlphanum = true := by
  induction text generalizing starting with
  | nil => intro c hc; cases hc
  | cons first rest ih =>
    intro c hc
    rw [pascalChars] at hc
    split at hc
    · rename_i alnum
      rcases List.mem_cons.mp hc with rfl | hc
      · split
        · exact Text.isAlphanum_toUpper alnum
        · exact alnum
      · exact ih c hc
    · exact ih c hc

theorem isAlphanum_of_mem_pascalCase (id : String) :
    ∀ c ∈ (pascalCase id).toList, c.isAlphanum = true := by
  unfold pascalCase
  split
  · exact List.all_eq_true.mp (by decide)
  · intro c hc
    rw [String.toList_ofList] at hc
    exact isAlphanum_of_mem_pascalChars c ((List.dropWhile_suffix _).subset hc)

namespace PageSection

/-- The name is that of the id, a word and a number. -/
theorem toList_componentName (s : PageSection) :
    s.componentName.toList =
      (pascalCase s.blockId).toList ++ ("Block".toList ++ (toString (s.position + 1)).toList) := by
  simp [componentName]

theorem isWord_componentName (s : PageSection) : Text.isWord s.componentName = true := by
  have all : ∀ c ∈ s.componentName.toList, c.isAlphanum = true := by
    intro c hc
    rw [toList_componentName, List.mem_append, List.mem_append] at hc
    rcases hc with hc | hc | hc
    · exact isAlphanum_of_mem_pascalCase s.blockId c hc
    · exact List.all_eq_true.mp (show "Block".toList.all Char.isAlphanum = true by decide) c hc
    · simp [Char.isAlphanum, Text.isDigit_of_mem_toString _ c hc]
  have given : s.componentName.toList ≠ [] := by
    rw [toList_componentName]
    simp
  simp only [Text.isWord, Bool.and_eq_true, List.all_eq_true]
  exact ⟨by simpa using given, all⟩

theorem isWord_of_mem_componentNames (sections : List PageSection) :
    ∀ n ∈ sections.map componentName, Text.isWord n = true :=
  List.forall_mem_map.mpr fun s _ => s.isWord_componentName

/-- The position that the digits at the end of a name count. -/
def positionOf (name : String) : Nat :=
  Nat.ofDigitChars 10 (name.toList.rtakeWhile Char.isDigit) 0 - 1

/-- Digits of the id do not matter, as a word without digits stands behind them. -/
theorem positionOf_componentName (s : PageSection) : positionOf s.componentName = s.position := by
  have digits : s.componentName.toList.rtakeWhile Char.isDigit =
      (toString (s.position + 1)).toList := by
    have number : ∀ c ∈ (toString (s.position + 1)).toList.reverse, c.isDigit = true :=
      fun c hc => Text.isDigit_of_mem_toString _ c (List.mem_reverse.mp hc)
    rw [toList_componentName, List.rtakeWhile, List.reverse_append, List.reverse_append,
      List.append_assoc, List.takeWhile_append_of_pos number]
    simp
  rw [positionOf, digits, Text.ofDigitChars_toString, Nat.add_sub_cancel]

end PageSection

theorem Canvas.nodup_componentNames (canvas : Canvas) (sources : List DataSource) :
    ((canvas.sections sources).map PageSection.componentName).Nodup := by
  have positions : ((canvas.sections sources).map PageSection.componentName).map
      PageSection.positionOf = List.range' 0 canvas.blocks.length :=
    calc _ = (canvas.sections sources).map PageSection.position := by
          rw [List.map_map]
          exact List.map_congr_left fun s _ => s.positionOf_componentName
      _ = List.range' 0 canvas.blocks.length :=
          PageSection.map_position_number (fun _ _ => rfl) 0 canvas.blocks
  exact List.Nodup.of_map PageSection.positionOf (positions ▸ List.nodup_range')

theorem Canvas.componentNames_eq_mapIdx (canvas : Canvas) (sources : List DataSource) :
    (canvas.sections sources).map PageSection.componentName = canvas.blocks.mapIdx fun i block =>
      pascalCase block.blockId ++ "Block" ++ toString (i + 1) := by
  apply List.ext_getElem?
  intro i
  rw [List.getElem?_map, sections, PageSection.getElem?_number, List.getElem?_mapIdx,
    Option.map_map, Nat.zero_add]
  rfl

end PageBuilder
