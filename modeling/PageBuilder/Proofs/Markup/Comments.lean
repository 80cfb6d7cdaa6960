import PageBuilder.Markup.Writer
import PageBuilder.Proofs.Text.Comment
/-! Comments as they are written. The delimiter that the writer puts behind a text is the first
one that a reader finds behind the opening, whatever the text begins or ends with. -/
namespace PageBuilder.Markup

open Text (Parted blockComment closeless htmlComment indent occursFrom
  occursFrom_eq_false_of_not_mem occursFrom_pair_append parted_htmlCommentChars
  parted_partStarSlash splitFirst? splitFirst?_append)

theorem splitFirst?_htmlComment (text : String) :
    splitFirst? "-->".toList (" " ++ htmlComment text ++ " -->").toList =
      some ((" " ++ htmlComment text ++ " ").toList, []) := by
  have parted : (" " ++ htmlComment text ++ " -->").toList =
      (" " ++ htmlComment text ++ " ").toList ++ ("-->".toList ++ []) := by simp
  -- Only the last character of the delimiter is one that the text cannot hold.
  have free : '>' ∉ (" " ++ htmlComment text ++ " ").toList ++ "-->".toList.dropLast := by
    simp [htmlComment, Text.not_mem_htmlCommentChars]
  rw [parted, splitFirst?_append (by simp) (occursFrom_eq_false_of_not_mem (by simp) free)]

theorem splitFirst?_blockComment (text : String) :
    splitFirst? "*/".toList (" " ++ blockComment text ++ " */\x7d").toList =
      some ((" " ++ blockComment text ++ " ").toList, ['\x7d']) := by
  have parted : (" " ++ blockComment text ++ " */\x7d").toList =
      (" " ++ blockComment text ++ " ").toList ++ ("*/".toList ++ ['\x7d']) := by simp
  have inner : occursFrom ['*', '/'] ((blockComment text).toList ++ [' ', '*']) = false := by
    refine occursFrom_pair_append ?_ (by decide) (by decide)
    rw [blockComment, String.toList_ofList]
    exact (parted_partStarSlash text.toList).free
  have free : occursFrom "*/".toList
      ((" " ++ blockComment text ++ " ").toList ++ "*/".toList.dropLast) = false := by
    simpa [occursFrom, List.isPrefixOf] using inner
  rw [parted, splitFirst?_append (by simp) free]

/-- The passes that make a text safe for a comment end. In HTML their result holds neither `>`
nor `--`, in JSX no `*/`, and it is the text but for spaces and the entities for `>`. Behind the
opening of a written comment the first closing delimiter is the one that the writer put. -/
theorem comments_contained (text : String) (depth : Nat) :
    Parted '-' '-' (closeless text.toList) (htmlComment text).toList ∧
      '>' ∉ (htmlComment text).toList ∧
      Parted '*' '/' text.toList (blockComment text).toList ∧
      (∃ inside : String,
        writeNode .html depth (.comment text) = [indent depth ++ "<!--" ++ inside] ∧
        splitFirst? "-->".toList inside.toList =
          some ((" " ++ htmlComment text ++ " ").toList, [])) ∧
      ∃ inside : String,
        writeNode .jsx depth (.comment text) = [indent depth ++ "\x7b/*" ++ inside] ∧
        splitFirst? "*/".toList inside.toList =
          some ((" " ++ blockComment text ++ " ").toList, ['\x7d']) := by
  refine ⟨?_, ?_, ?_, ⟨_, ?_, splitFirst?_htmlComment text⟩, _, ?_, splitFirst?_blockComment text⟩
  · rw [htmlComment, String.toList_ofList]
    exact parted_htmlCommentChars text.toList
  · rw [htmlComment, String.toList_ofList]
    exact Text.not_mem_htmlCommentChars text.toList
  · rw [blockComment, String.toList_ofList]
    exact parted_partStarSlash text.toList
  · simp [writeNode, Dialect.comment, ← String.toList_inj]
  · simp [writeNode, Dialect.comment, braced, ← String.toList_inj]

end PageBuilder.Markup
