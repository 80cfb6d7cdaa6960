import PageBuilder.Proofs.Export.FileSet
/-! What JSX makes of the names of components. An element whose name starts with a capital is a
component, any other is taken for an element of HTML. Digits at the front of an id are left
out after the capitals are set, so a small letter behind them comes to the front of the name. -/
namespace PageBuilder

open Text (isAlpha_iff isDigit_eq_false_of_isAlpha isUpper_eq_not_isLower
  isUpper_toUpper_of_isAlpha toUpper_of_not_isLower)

/-- Letters and digits of ASCII, the first of them a capital. -/
def isComponentName (name : String) : Bool :=
  name.toList.head?.any Char.isUpper && name.toList.all Char.isAlphanum

/-- Whether the first letter is a small one right behind a digit. -/
def hasSmallBehindDigit (id : String) : Bool :=
  (id.toList.takeWhile fun c => !c.isAlpha).getLast?.any Char.isDigit &&
    (id.toList.dropWhile fun c => !c.isAlpha).head?.any Char.isLower

/-- Behind a digit a letter stays as it is, and elsewhere it becomes a capital. -/
theorem all_isUpper_head?_pascalChars (digit : Bool) (text : List Char) :
    ((pascalChars (!digit) text).dropWhile Char.isDigit).head?.all Char.isUpper =
      !(((text.takeWhile fun c => !c.isAlpha).getLast?.map Char.isDigit).getD digit &&
        (text.dropWhile fun c => !c.isAlpha).head?.any Char.isLower) := by
  induction text generalizing digit with
  | nil => simp [pascalChars]
  | cons c rest ih =>
    cases letter : c.isAlpha with
    | true =>
      have alnum : c.isAlphanum = true := by rw [Char.isAlphanum, letter, Bool.true_or]
      rw [pascalChars, if_pos alnum]
      cases digit with
      | true =>
        simp [isDigit_eq_false_of_isAlpha letter, letter, isUpper_eq_not_isLower letter]
      | false =>
        have capital := isUpper_toUpper_of_isAlpha letter
        have alpha : c.toUpper.isAlpha = true := isAlpha_iff.mpr (.inl capital)
        simp [isDigit_eq_false_of_isAlpha alpha, letter, capital]
    | false =>
      have last :
          (((c :: rest).takeWhile fun c => !c.isAlpha).getLast?.map Char.isDigit).getD digit =
          ((rest.takeWhile fun c => !c.isAlpha).getLast?.map Char.isDigit).getD c.isDigit := by
        rw [List.takeWhile_cons_of_pos (by simp [letter]), List.getLast?_cons]
        cases (rest.takeWhile fun c => !c.isAlpha).getLast? <;> rfl
      have left :
          ((c :: rest).dropWhile fun c => !c.isAlpha) = rest.dropWhile fun c => !c.isAlpha :=
        List.dropWhile_cons_of_pos (by simp [letter])
      rw [last, left, ← ih c.isDigit, pascalChars, Char.isAlphanum, letter, Bool.false_or]
      cases number : c.isDigit with
      | true =>
        have kept : c.toUpper = c := toUpper_of_not_isLower (Bool.or_eq_false_iff.mp letter).2
        simp [kept, number]
      | false => rfl

/-! ### Names -/

theorem isUpper_head?_pascalCase (id : String) :
    (pascalCase id).toList.head?.any Char.isUpper = !hasSmallBehindDigit id := by
  have known (last : Option Char) :
      (last.map Char.isDigit).getD false = last.any Char.isDigit := by cases last <;> rfl
  have chars := all_isUpper_head?_pascalChars false id.toList
  rw [known, Bool.not_false] at chars
  rw [hasSmallBehindDigit, ← chars, pascalCase]
  split
  case h_1 none => rw [none]; rfl
  case h_2 given =>
    rw [String.toList_ofList]
    cases read : (pascalChars true id.toList).dropWhile Char.isDigit with
    | nil => exact absurd read given
    | cons => rfl

theorem toList_pascalCase_ne_nil (id : String) : (pascalCase id).toList ≠ [] := by
  unfold pascalCase
  split
  case h_1 => decide
  case h_2 given => rwa [String.toList_ofList]

namespace PageSection

theorem all_isAlphanum_componentName (s : PageSection) :
    s.componentName.toList.all Char.isAlphanum = true :=
  (Bool.and_eq_true_iff.mp s.isWord_componentName).2

theorem isComponentName_componentName (s : PageSection) :
    isComponentName s.componentName = !hasSmallBehindDigit s.blockId := by
  have first : s.componentName.toList.head? = (pascalCase s.blockId).toList.head? := by
    rw [toList_componentName, List.head?_append_of_ne_nil _ (toList_pascalCase_ne_nil s.blockId)]
  rw [isComponentName, s.all_isAlphanum_componentName, Bool.and_true, first,
    isUpper_head?_pascalCase]

end PageSection

theorem Canvas.getElem?_sections {canvas : Canvas} {i : Nat} {block : PlacedBlock}
    (placed : canvas.blocks[i]? = some block) (sources : List DataSource) :
    (canvas.sections sources)[i]? = some (.ofBlock sources i block) := by
  rw [sections, PageSection.getElem?_number, placed, Option.map_some, Nat.zero_add]

namespace Export

/-- The name under which a project imports a block, shows it and declares its component is made
of letters and digits. It is one of a component just if the first letter of the block's id is
no small one right behind a digit. -/
theorem component_names_iff {format : ExportFormat} (project : format ≠ .html) (canvas : Canvas)
    (name : String) (sources : List DataSource) (settings : ExportSettings) :
    let result := generate format canvas name sources settings
    ∃ root, result.file? format.entryPoint = some root ∧
      ∀ (i : Nat) (block : PlacedBlock), canvas.blocks[i]? = some block → ∃ used f,
        root.elements[i]? = some used ∧ root.imports[i]? = some (used, f.path) ∧
        result.file? f.path = some f ∧ f.default? = some used ∧
        used.toList.all Char.isAlphanum = true ∧
        (isComponentName used = true ↔ hasSmallBehindDigit block.blockId = false) := by
  intro result
  obtain ⟨root, held, path, imports, elements⟩ :=
    exists_root_of_project project (canvas.sections sources) name settings
  have distinct := nodup_paths_generate format canvas name sources settings
  refine ⟨root, path ▸ file?_of_mem distinct held, fun i block placed => ?_⟩
  have shown := Canvas.getElem?_sections placed sources
  obtain ⟨f, hf, filed, declared⟩ :=
    exists_component_of_project project _ name settings (List.mem_of_getElem? shown)
  let s := PageSection.ofBlock sources i block
  refine ⟨s.componentName, f, ?_, ?_, file?_of_mem distinct hf, declared,
    s.all_isAlphanum_componentName, ?_⟩
  · rw [elements, List.getElem?_map, shown]
    rfl
  · rw [imports, filed, List.getElem?_map, List.getElem?_map, shown]
    rfl
  · rw [s.isComponentName_componentName, Bool.not_eq_true']
    rfl

/-- Ids without a letter, with a capital behind a digit, with a small letter behind a digit and
a hyphen, and with a letter that is none of ASCII. -/
theorem component_names_sound_ids :
    let block (blockId : String) : PlacedBlock := ⟨"block", blockId, .null, none, none⟩
    let canvas : Canvas := ⟨[block "42", block "3D", block "1-up", block "héros"], none⟩
    let result := generate .nextjs canvas "Site" [] {}
    ExportFormat.nextjs ≠ .html ∧ canvas.blocks[2]? = some (block "1-up") ∧
      ∃ root, result.file? "src/app/page.tsx" = some root ∧
        ∃ (used : String) (f : ExportFile), root.elements[2]? = some used ∧
          root.imports[2]? = some (used, f.path) ∧ f.default? = some used ∧
          isComponentName used = true := by
  intro block canvas result
  have project : ExportFormat.nextjs ≠ .html := by decide
  obtain ⟨root, found, names⟩ := component_names_iff project canvas "Site" [] {}
  obtain ⟨used, f, shown, imported, -, declared, -, usable⟩ := names 2 (block "1-up") rfl
  exact ⟨project, rfl, root, found, used, f, shown, imported, declared, usable.mpr (by decide)⟩

/-- The digit is left out, and the letter behind it is as small as before. -/
theorem component_name_small_first :
    let block : PlacedBlock := ⟨"block-1", "3d-viewer", .null, none, none⟩
    let result := generate .react ⟨[block], none⟩ "Site" [] {}
    ∃ root, result.file? "src/App.tsx" = some root ∧ root.elements = ["dViewerBlock1"] ∧
      isComponentName "dViewerBlock1" = false := by
  intro block result
  let canvas : Canvas := ⟨[block], none⟩
  obtain ⟨root, held, path, -, elements⟩ :=
    exists_root_of_project (show ExportFormat.react ≠ .html by decide) (canvas.sections [])
      "Site" {}
  have distinct := nodup_paths_generate .react canvas "Site" [] {}
  have found : result.file? root.path = some root := file?_of_mem distinct held
  rw [path] at found
  refine ⟨root, found, ?_, by decide⟩
  rw [elements]
  decide

end Export

end PageBuilder
