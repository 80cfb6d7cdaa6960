import PageBuilder.Markup.Writer
import PageBuilder.Proofs.Json.Literals
import PageBuilder.Proofs.Text.Entities
/-! The text that an element shows. Between the tags of an element that holds nothing but texts
stand their entities in HTML and their literals in JSX, and both are read as the texts again. -/
namespace PageBuilder.Markup

/-- The texts of literals that stand in braces, one right behind the other. -/
def bracedTexts? (source : List Char) : Option (List Char) :=
  match source with
  | [] => some []
  | '\x7b' :: rest =>
    match _h : Json.literalText? rest with
    | some (text, '\x7d' :: behind) => (bracedTexts? behind).map (text ++ ·)
    | _ => none
  | _ => none
termination_by source.length
decreasing_by
  have shorter := Json.length_lt_of_literalText? _h
  simp only [List.length_cons] at shorter ⊢
  omega

theorem bracedTexts?_append (text : String) (rest : List Char) :
    bracedTexts? ((braced (Json.literal text)).toList ++ rest) =
      (bracedTexts? rest).map (text.toList ++ ·) := by
  have opened : (braced (Json.literal text)).toList ++ rest =
      '\x7b' :: ((Json.literal text).toList ++ '\x7d' :: rest) := by
    simp [braced]
  have read := Json.literalText?_append text ('\x7d' :: rest)
  rw [opened, bracedTexts?]
  split
  case h_1 _ _ found =>
    obtain ⟨rfl, same⟩ := Prod.mk.inj (Option.some.inj (found.symm.trans read))
    rw [(List.cons.inj same).2]
  case h_2 none => exact absurd read (none _ _)

/-- The text of an element, as it is read from what stands between its tags. In HTML a bracket
would begin something else than text. -/
def Dialect.shown? (dialect : Dialect) (inner : String) : Option String :=
  match dialect with
  | .html => if '<' ∈ inner.toList then none else some (Text.unescape inner)
  | .jsx => (bracedTexts? inner.toList).map String.ofList

namespace Dialect

theorem inlineTexts_html (texts : List String) :
    html.inlineTexts (texts.map Node.text) = Text.escape (String.join texts) := by
  induction texts with
  | nil => rfl
  | cons t rest ih =>
    rw [List.map_cons, inlineTexts, ih, String.join_cons, Text.escape_append]
    rfl

theorem bracedTexts?_inlineTexts (texts : List String) :
    bracedTexts? (jsx.inlineTexts (texts.map Node.text)).toList =
      some (String.join texts).toList := by
  induction texts with
  | nil => simp [inlineTexts, bracedTexts?]
  | cons t rest ih =>
    rw [List.map_cons, inlineTexts, String.toList_append, text, bracedTexts?_append, ih,
      String.join_cons, String.toList_append, Option.map_some]

theorem shown?_inlineTexts (dialect : Dialect) (texts : List String) :
    dialect.shown? (dialect.inlineTexts (texts.map Node.text)) = some (String.join texts) := by
  cases dialect with
  | html =>
    have bracket : '<' ∉ (Text.escape (String.join texts)).toList := fun held =>
      absurd (Text.isSpecial_of_mem_escape _ held) (by decide)
    rw [inlineTexts_html, shown?, if_neg bracket, Text.unescape_escape]
  | jsx =>
    rw [shown?, bracedTexts?_inlineTexts, Option.map_some, String.ofList_toList]

end Dialect

theorem render_texts {texts : List String} (given : texts ≠ []) (dialect : Dialect) (depth : Nat)
    (tag : String) (attrs : Attrs) :
    render [.element tag attrs (texts.map Node.text)] dialect depth =
      Text.indent depth ++ "<" ++ dialect.opening tag attrs ++ ">" ++
        dialect.inlineTexts (texts.map Node.text) ++ "</" ++ tag ++ ">" := by
  have held : (texts.map Node.text).isEmpty = false := by simpa using given
  have inline : (texts.map Node.text).all Node.isText = true := by simp [Node.isText]
  rw [render, writeNodes, writeNodes, writeNode, if_neg (by simp [held]), if_pos inline]
  simp [Text.unlines]

theorem render_childless (dialect : Dialect) (depth : Nat) (tag : String) (attrs : Attrs) :
    render [.element tag attrs []] dialect depth =
      Text.indent depth ++ dialect.childless tag attrs := by
  simp [render, writeNodes, writeNode, Text.unlines]

/-- A reader gets the texts back, whatever they are and however they are put together: from the
entities that are written for them, from their literals, and from what stands between the tags
of an element that holds them. An element without texts may be written as a single tag. -/
theorem texts_shown (text more : String) (dialect : Dialect) (depth : Nat) (tag : String)
    (attrs : Attrs) (texts : List String) :
    Text.IsEscaped (Text.escape text) text ∧
      Text.escape (text ++ more) = Text.escape text ++ Text.escape more ∧
      Json.IsLiteral (Json.literal text) text ∧
      let written := render [.element tag attrs (texts.map Node.text)] dialect depth
      let opened := Text.indent depth ++ "<" ++ dialect.opening tag attrs
      (∃ inner, written = opened ++ ">" ++ inner ++ "</" ++ tag ++ ">" ∧
          dialect.shown? inner = some (String.join texts)) ∨
        texts = [] ∧ (written = opened ++ ">" ∨ written = opened ++ " />") := by
  refine ⟨Text.isEscaped_escape text, Text.escape_append text more, Json.isLiteral_literal text, ?_⟩
  intro written opened
  cases texts with
  | cons t rest =>
    exact .inl ⟨_, render_texts (List.cons_ne_nil t rest) dialect depth tag attrs,
      dialect.shown?_inlineTexts (t :: rest)⟩
  | nil =>
    have single : written = Text.indent depth ++ dialect.childless tag attrs :=
      render_childless dialect depth tag attrs
    cases dialect with
    | jsx =>
      refine .inr ⟨rfl, .inr ?_⟩
      rw [single, Dialect.childless]
      simp only [opened, String.append_assoc]
    | html =>
      simp only [Dialect.childless] at single
      split at single
      case isTrue =>
        refine .inr ⟨rfl, .inl ?_⟩
        rw [single]
        simp only [opened, String.append_assoc]
      case isFalse =>
        refine .inl ⟨"", ?_, Dialect.html.shown?_inlineTexts []⟩
        rw [single]
        simp only [opened, String.append_assoc, String.empty_append]
        rfl

end PageBuilder.Markup
