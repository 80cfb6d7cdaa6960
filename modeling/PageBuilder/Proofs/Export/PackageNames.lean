import PageBuilder.Proofs.Export.FileSet
import PageBuilder.Proofs.Text.Slug
/-! Names that are made of slugs: those of archives, and those that projects have in their
`package.json`, where a slug needs no escape. -/
namespace PageBuilder.Export

open Json (Value)
open Text (hyphenated lowerAlphabet lowered runs slug slugPattern)

theorem mem_lowerAlphabet_of_mem_slug {text : String} :
    ∀ c ∈ (slug text).toList, c ∈ lowerAlphabet ∨ c = '-' := by
  obtain ⟨words, given, small, written⟩ := Text.exists_words_slug text
  obtain ⟨word, words, rfl⟩ := List.exists_cons_of_ne_nil given
  obtain ⟨first, later⟩ := List.forall_mem_cons.mp small
  intro c hc
  rw [written, Text.hyphenated_cons, List.mem_append, List.mem_flatMap] at hc
  rcases hc with hc | ⟨next, hn, hc⟩
  · exact .inl (first.small c hc)
  · rcases List.mem_cons.mp hc with rfl | hc
    · exact .inr rfl
    · exact .inl ((later next hn).small c hc)

theorem literal_slug (text : String) : Json.literal (slug text) = "\"" ++ slug text ++ "\"" := by
  have plain : ∀ c ∈ '-' :: lowerAlphabet, Json.escapeChar c = [c] :=
    List.all_iff_forall_prop.mp (by decide)
  have same : (slug text).toList.flatMap Json.escapeChar = (slug text).toList := by
    have each : ∀ c ∈ (slug text).toList, Json.escapeChar c = [c] := by
      intro c hc
      rcases mem_lowerAlphabet_of_mem_slug c hc with small | rfl
      · exact plain c (List.mem_cons_of_mem _ small)
      · exact plain _ List.mem_cons_self
    rw [List.flatMap_def, List.map_congr_left each, ← List.flatMap_def, ← List.map_eq_flatMap,
      List.map_id']
  rw [← String.toList_inj, Json.literal, String.toList_ofList, Json.literalChars, same]
  simp

/-- The first line inside an object that has another member behind its first one. -/
theorem exists_jsonDocument_eq (key text : String) (next : String × Value) (rest : Json.Members) :
    ∃ behind, jsonDocument (.object (textMember key text :: next :: rest)) =
      "\x7b\n  " ++ Json.literal key ++ ": " ++ Json.literal text ++ ",\n" ++ behind := by
  obtain ⟨nextKey, nextValue⟩ := next
  simp only [jsonDocument, Value.pretty, Value.prettyAt, textMember, Json.prettyMembers,
    Json.bracketed, Value.compact, List.isEmpty_cons, String.intercalate_cons_cons]
  generalize String.intercalate _ _ = later
  refine ⟨"  " ++ later ++ "\n\x7d\n", ?_⟩
  rw [← String.toList_inj]
  simp [Text.indent]

/-- The first member of a `package.json` is the name of the project, which is a slug. -/
theorem exists_packageJson {format : ExportFormat} (project : format ≠ .html)
    (sections : List PageSection) (name : String) (settings : ExportSettings) :
    ∃ behind, ⟨"package.json", "\x7b\n  \"name\": \"" ++ slug name ++ "\",\n" ++ behind⟩ ∈
      filesFor format sections name settings := by
  have member (next : String × Value) (rest : Json.Members) :
      ∃ behind, jsonDocument (.object (textMember "name" (slug name) :: next :: rest)) =
        "\x7b\n  \"name\": \"" ++ slug name ++ "\",\n" ++ behind := by
    obtain ⟨behind, written⟩ := exists_jsonDocument_eq "name" (slug name) next rest
    refine ⟨behind, written.trans ?_⟩
    rw [literal_slug, ← String.toList_inj]
    simp [Json.literal, Json.literalChars, Json.escapeChar]
  cases format with
  | html => exact absurd rfl project
  | react =>
    obtain ⟨behind, written⟩ : ∃ behind, jsonDocument (React.packageJson name) =
      "\x7b\n  \"name\": \"" ++ slug name ++ "\",\n" ++ behind := member _ _
    have held : ⟨"package.json", jsonDocument (React.packageJson name)⟩ ∈
      React.files sections name settings := List.mem_append_right _ (by simp)
    exact ⟨behind, written ▸ held⟩
  | nextjs =>
    obtain ⟨behind, written⟩ : ∃ behind, jsonDocument (Next.packageJson name) =
      "\x7b\n  \"name\": \"" ++ slug name ++ "\",\n" ++ behind := member _ _
    have held : ⟨"package.json", jsonDocument (Next.packageJson name)⟩ ∈
      Next.files sections name settings := List.mem_append_right _ (by simp)
    exact ⟨behind, written ▸ held⟩

/-- A slug is made of the runs of letters and digits in a text, in lower case and joined by
hyphens, or it is `project` if there are none. So it matches the pattern of slugs, is the slug
of itself, and is what archives and projects have in their names. -/
theorem slug_names (text : String) :
    slug text = (if runs text.toList = [] then "project"
        else String.ofList (hyphenated (lowered (runs text.toList)))) ∧
      (slug text).toList ∈ slugPattern.matches' ∧ slug (slug text) = slug text ∧
      (∀ c ∈ (slug text).toList, c ∈ lowerAlphabet ∨ c = '-') ∧
      (∀ format, archiveName text format = slug text ++ "-" ++ format.id ++ "-export.zip") ∧
      ∀ format ≠ ExportFormat.html, ∀ canvas sources settings, ∃ behind,
        (generate format canvas text sources settings).file? "package.json" =
          some ⟨"package.json", "\x7b\n  \"name\": \"" ++ slug text ++ "\",\n" ++ behind⟩ := by
  have pattern : (slug text).toList ∈ slugPattern.matches' :=
    Text.mem_slugPattern_iff.mpr (Text.exists_words_slug text)
  refine ⟨?_, pattern, Text.slug_eq_self_iff.mpr pattern, mem_lowerAlphabet_of_mem_slug,
    fun _ => rfl, fun format project canvas sources settings => ?_⟩
  · rw [← String.toList_inj, Text.toList_slug]
    split
    · rfl
    · exact String.toList_ofList.symm
  · obtain ⟨behind, held⟩ :=
      exists_packageJson project (canvas.sections sources) text settings
    exact ⟨behind, file?_of_mem (nodup_paths_generate format canvas text sources settings) held⟩

/-- Blanks at both ends, several in a row, and a letter that is not of ASCII. -/
theorem slug_names_blanks :
    let name := "  Hello, Wörld 2 "
    slug name = "hello-w-rld-2" ∧ slug "hello-w-rld-2" = "hello-w-rld-2" ∧
      "hello-w-rld-2".toList ∈ slugPattern.matches' ∧ ExportFormat.react ≠ .html ∧
      ∃ behind, (generate .react .empty name [] {}).file? "package.json" =
        some ⟨"package.json", "\x7b\n  \"name\": \"hello-w-rld-2\",\n" ++ behind⟩ := by
  intro name
  have slugIs : slug name = "hello-w-rld-2" := by decide
  have project : ExportFormat.react ≠ .html := by decide
  obtain ⟨-, pattern, same, -, -, named⟩ := slug_names name
  have file := named .react project .empty [] {}
  rw [slugIs] at pattern same file
  exact ⟨slugIs, same, pattern, project, file⟩

end PageBuilder.Export
