import PageBuilder.Proofs.Export.FileSet
import PageBuilder.Proofs.Text.Lines
import PageBuilder.Text.Blank
/-! The script of a static export, as the language of scripts reads it. A comment with the name
of the generator opens it. Only line feeds are taken out of the name, and what stands behind
another character that ends a line is read as code. -/
namespace PageBuilder.Export

namespace Script

/-! ### Comments at the head of a script -/

/-- What ends a line, and a comment with it. -/
def isLineEnd (c : Char) : Bool :=
  c ∈ ['\n', '\r', '\u2028', '\u2029']

/-- To a script the byte order mark is white space, and the next line control is not. -/
def isSpace (c : Char) : Bool :=
  c = '\ufeff' || (Text.isSpace c && c ≠ '\u0085')

def isComment (script : List Char) : Bool :=
  ['/', '/'].isPrefixOf script

theorem isComment_append (text rest : List Char) :
    isComment (text ++ '\n' :: rest) = isComment text := by
  match text with
  | [] => rfl
  | [c] => simp [isComment, List.isPrefixOf]
  | c :: d :: text => simp [isComment, List.isPrefixOf]

theorem isLineEnd_of_isComment {c : Char} {rest : List Char}
    (h : isComment (c :: rest) = true) : isLineEnd c = false := by
  obtain ⟨rfl, -⟩ : '/' = c ∧ _ := by simpa [isComment, List.isPrefixOf] using h
  decide

mutual

/-- What is left of a script behind the comments that open it and the white space around them. -/
def code (script : List Char) : List Char :=
  match script with
  | [] => []
  | c :: rest =>
    if isComment (c :: rest) then pastComment rest
    else if isSpace c then code rest
    else c :: rest

/-- The same from within a comment. -/
def pastComment (script : List Char) : List Char :=
  match script with
  | [] => []
  | c :: rest => if isLineEnd c then code rest else pastComment rest

end

/-- The text of the comment that a script begins with. -/
def comment? : List Char → Option (List Char)
  | '/' :: '/' :: rest => some (rest.takeWhile fun c => !isLineEnd c)
  | _ => none

/-- What is left of a script, if this is left of its first lines. -/
def resume (left rest : List Char) : List Char :=
  if left = [] then code rest else left ++ '\n' :: rest

/-- A line feed ends whatever was begun before it, except for code. -/
theorem code_append (text rest : List Char) :
    code (text ++ '\n' :: rest) = resume (code text) rest ∧
      pastComment (text ++ '\n' :: rest) = resume (pastComment text) rest := by
  -- Where a comment is opened, the induction goes on with the reading from within it.
  induction text with
  | nil => exact ⟨rfl, rfl⟩
  | cons c text ih =>
    have opened : isComment (c :: (text ++ '\n' :: rest)) = isComment (c :: text) :=
      isComment_append (c :: text) rest
    rw [List.cons_append, code, code, pastComment, pastComment, opened, ih.1, ih.2]
    refine ⟨?_, by split <;> rfl⟩
    split
    · rfl
    · split
      · rfl
      · rw [resume, if_neg (List.cons_ne_nil c text), List.cons_append]

/-! ### Texts that stay within a comment -/

/-- There is a comment behind the white space, if anything. -/
def opensComment : List Char → Bool
  | [] => true
  | c :: rest => isComment (c :: rest) || (isSpace c && opensComment rest)

/-- Whatever follows the end of a line is a comment again. -/
def isHidden : List Char → Bool
  | [] => true
  | c :: rest => (!isLineEnd c || opensComment rest) && isHidden rest

theorem isHidden_of_forall {text : List Char} (h : ∀ c ∈ text, isLineEnd c = false) :
    isHidden text = true := by
  induction text with
  | nil => rfl
  | cons c text ih =>
    obtain ⟨hc, h⟩ := List.forall_mem_cons.mp h
    rw [isHidden, hc, ih h]
    rfl

theorem code_eq_nil_iff (text : List Char) :
    (code text = [] ↔ opensComment text = true ∧ isHidden text = true) ∧
      (pastComment text = [] ↔ isHidden text = true) := by
  induction text with
  | nil => exact ⟨iff_of_true rfl ⟨rfl, rfl⟩, iff_of_true rfl rfl⟩
  | cons c text ih =>
    rw [code, pastComment, opensComment, isHidden]
    constructor
    · split
      case isTrue opened => simp [opened, isLineEnd_of_isComment opened, ih.2]
      case isFalse other =>
        split
        case isTrue space => cases opens : opensComment text <;> simp [other, space, opens, ih.1]
        case isFalse => simp [*]
    · split
      case isTrue ends => simp [ends, ih.1]
      case isFalse inside => simp [inside, ih.2]

theorem length_code_le (script : List Char) :
    (code script).length ≤ script.length ∧ (pastComment script).length ≤ script.length := by
  induction script with
  | nil => exact ⟨le_rfl, le_rfl⟩
  | cons c rest ih =>
    rw [code, pastComment, List.length_cons]
    constructor
    · split
      · omega
      · split
        · omega
        · rfl
    · split <;> omega

theorem code_of_head? {script : List Char} {c : Char} (first : script.head? = some c)
    (plain : c ≠ '/') (visible : isSpace c = false) : code script = script := by
  obtain ⟨rest, rfl⟩ := List.head?_eq_some_iff.mp first
  have other : isComment (c :: rest) = false := by
    simp [isComment, List.isPrefixOf, plain.symm]
  rw [code, other, visible]
  rfl

/-! ### Banners -/

/-- A script with a comment in its first line. -/
def under (banner script : String) : String :=
  "//" ++ banner ++ "\n" ++ script

/-- The banner is in the comment that opens the script, and beside comments there is just the
code. -/
structure IsUnder (banner body script : String) : Prop where
  comment : comment? script.toList = some banner.toList
  code : code script.toList = body.toList

variable {banner script body : String}

theorem toList_under (banner script : String) :
    (under banner script).toList =
      '/' :: '/' :: (banner.toList ++ '\n' :: script.toList) := by
  simp [under]

theorem code_under (banner script : String) :
    code (under banner script).toList = resume (pastComment banner.toList) script.toList := by
  rw [toList_under, code]
  exact (code_append _ _).2

theorem code_under_eq_iff (h : code script.toList = body.toList) :
    code (under banner script).toList = body.toList ↔ isHidden banner.toList = true := by
  rw [code_under, resume, ← (code_eq_nil_iff _).2]
  split
  case isTrue none => exact iff_of_true h none
  case isFalse left =>
    refine iff_of_false (fun same => ?_) left
    have longer := congrArg List.length same
    have shorter := (length_code_le script.toList).1
    rw [h] at shorter
    rw [List.length_append, List.length_cons] at longer
    omega

theorem comment?_under_eq_iff :
    comment? (under banner script).toList = some banner.toList ↔
      ∀ c ∈ banner.toList, isLineEnd c = false := by
  rw [toList_under, comment?, Option.some_inj]
  constructor
  · intro whole c hc
    rw [← whole] at hc
    simpa using List.mem_takeWhile_imp hc
  · intro inside
    rw [List.takeWhile_append_of_pos fun c hc => by simp [inside c hc],
      List.takeWhile_cons_of_neg (by decide), List.append_nil]

theorem isUnder_iff (h : code script.toList = body.toList) :
    IsUnder banner body (under banner script) ↔ ∀ c ∈ banner.toList, isLineEnd c = false := by
  refine ⟨fun held => comment?_under_eq_iff.mp held.comment, fun inside => ?_⟩
  exact ⟨comment?_under_eq_iff.mpr inside, (code_under_eq_iff h).mpr (isHidden_of_forall inside)⟩

end Script

/-! ### The script of an export -/

/-- What is written behind the slashes of the first line. -/
def banner (settings : ExportSettings) : String :=
  " " ++ bannerName settings.generatorName ++ " - generated code"

/-- The script from its second line on. -/
def scriptBody (body : String) : String :=
  Script.under " Add your custom interactions below." ("\n" ++ body)

theorem pageScript_eq_under (settings : ExportSettings) :
    pageScript settings = Script.under (banner settings) (scriptBody Assets.tabScript) := by
  rw [pageScript]
  generalize Assets.tabScript = body
  refine String.toList_inj.mp ?_
  simp [Script.under, banner, scriptBody]

theorem code_tabScript : Script.code Assets.tabScript.toList = Assets.tabScript.toList := by
  have first : Assets.tabScript.toList.head? = some 'd' := by
    rw [Assets.tabScript, Text.document_cons]
    simp
  exact Script.code_of_head? first (by decide) (by decide)

theorem code_scriptBody {body : String} (h : Script.code body.toList = body.toList) :
    Script.code (scriptBody body).toList = body.toList := by
  have blank : Script.code ("\n" ++ body).toList = body.toList := by
    rw [String.toList_append]
    exact h
  exact (Script.code_under_eq_iff blank).mpr (by decide)

theorem toList_bannerName (name : String) :
    (bannerName name).toList = name.toList.map fun c => if c = '\n' then ' ' else c :=
  String.toList_ofList

theorem isLineEnd_banner_iff (settings : ExportSettings) :
    (∀ c ∈ (banner settings).toList, Script.isLineEnd c = false) ↔
      ∀ c ∈ settings.generatorName.toList, c ∉ ['\r', '\u2028', '\u2029'] := by
  have feeds (c : Char) : Script.isLineEnd (if c = '\n' then ' ' else c) = false ↔
      c ∉ ['\r', '\u2028', '\u2029'] := by
    split
    case isTrue feed => simp [feed, Script.isLineEnd]
    case isFalse other => simp [other, Script.isLineEnd]
  have before : ∀ c ∈ " ".toList, Script.isLineEnd c = false := by simp [Script.isLineEnd]
  have behind : ∀ c ∈ " - generated code".toList, Script.isLineEnd c = false := by
    simp [Script.isLineEnd]
  rw [banner, String.toList_append, String.toList_append, List.forall_mem_append,
    List.forall_mem_append, toList_bannerName, List.forall_mem_map]
  exact ⟨fun h c hc => (feeds c).mp (h.1.2 c hc),
    fun h => ⟨⟨before, fun c hc => (feeds c).mpr (h c hc)⟩, behind⟩⟩

theorem file?_script (canvas : Canvas) (name : String) (sources : List DataSource)
    (settings : ExportSettings) :
    (generate .html canvas name sources settings).file? "script.js" =
      some ⟨"script.js", pageScript settings⟩ := by
  have held : ⟨"script.js", pageScript settings⟩ ∈
      (generate .html canvas name sources settings).files := by
    simp [generate, filesFor, htmlFiles]
  exact file?_of_mem (nodup_paths_generate ..) held

/-- The script of a static export has no code but its own just if all that follows a line end in
its banner is a comment again. The whole of the generator's name is in the comment of the banner
just if it has no line ends but line feeds. -/
theorem script_banner_iff (canvas : Canvas) (name : String) (sources : List DataSource)
    (settings : ExportSettings) :
    ∃ f, (generate .html canvas name sources settings).file? "script.js" = some f ∧
      (Script.code f.content.toList = Assets.tabScript.toList ↔
        Script.isHidden (banner settings).toList = true) ∧
      (Script.IsUnder (banner settings) Assets.tabScript f.content ↔
        ∀ c ∈ settings.generatorName.toList, c ∉ ['\r', '\u2028', '\u2029']) := by
  have body := code_scriptBody code_tabScript
  refine ⟨_, file?_script canvas name sources settings, ?_, ?_⟩
  · rw [pageScript_eq_under]
    exact Script.code_under_eq_iff body
  · rw [pageScript_eq_under, ← isLineEnd_banner_iff]
    exact Script.isUnder_iff body

/-- Behind a carriage return, a call in the name of the generator is one of the script. -/
theorem script_banner_left :
    let settings : ExportSettings := { generatorName := "Pagesmith\ralert(1)" }
    ∃ f, (generate .html .empty "Site" [] settings).file? "script.js" = some f ∧
      Script.code f.content.toList =
        "alert(1) - generated code".toList ++ '\n' :: (scriptBody Assets.tabScript).toList ∧
      ¬Script.IsUnder (banner settings) Assets.tabScript f.content := by
  intro settings
  have left : Script.pastComment (banner settings).toList =
      "alert(1) - generated code".toList := by decide
  refine ⟨_, file?_script .empty "Site" [] settings, ?_, fun under => ?_⟩
  · rw [pageScript_eq_under, Script.code_under, left]
    rfl
  · rw [pageScript_eq_under] at under
    exact absurd (Script.comment?_under_eq_iff.mp under.comment '\r') (by decide)

end PageBuilder.Export
