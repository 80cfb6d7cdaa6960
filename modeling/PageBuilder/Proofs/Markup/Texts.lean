import Mathlib.Tactic.SplitIfs
import PageBuilder.Proofs.Markup.Reading
import PageBuilder.Proofs.Text.Entities
import PageBuilder.Proofs.Text.Words
/-! The pieces that the writer makes of a text. Escaped, as a literal or as a comment, it
leaves the same whatever it is. Names and numbers leave themselves. -/
namespace PageBuilder.Markup

theorem isMark_of_mem_escape {text : String} :
    ∀ c ∈ (Text.escape text).toList, isMark c = false := by
  intro c held
  have inert := Text.isSpecial_of_mem_escape c held
  simp only [Text.isSpecial, List.mem_cons, decide_eq_false_iff_not, not_or] at inert
  simp [isMark, inert]

theorem leaves_escape (text : String) : Dialect.html.Leaves (Text.escape text).toList [] :=
  Dialect.leaves_unmarked isMark_of_mem_escape

theorem passLiteral_digitChar {n : Nat} (h : n < 16) (rest : List Char) :
    passLiteral (Nat.digitChar n :: rest) = passLiteral rest := by
  have plain : ∀ n < 16, Nat.digitChar n ≠ '"' ∧ Nat.digitChar n ≠ '\\' := by decide
  exact passLiteral_cons (plain n h).1 (plain n h).2 rest

theorem passLiteral_escapeChar (c : Char) (rest : List Char) :
    passLiteral (Json.escapeChar c ++ rest) = passLiteral rest := by
  unfold Json.escapeChar
  split
  case h_8 hq hs _ _ _ _ _ =>
    split
    · simp only [List.cons_append, List.nil_append]
      rw [passLiteral, passLiteral_cons (by decide) (by decide),
        passLiteral_cons (by decide) (by decide), passLiteral_digitChar (by omega),
        passLiteral_digitChar (by omega)]
    · exact passLiteral_cons hq hs rest
  all_goals rfl

theorem leaves_literal (text : String) : Dialect.jsx.Leaves (Json.literal text).toList [] := by
  have inside (chars rest : List Char) :
      passLiteral (chars.flatMap Json.escapeChar ++ '"' :: rest) = cutLiterals rest := by
    induction chars with
    | nil => rfl
    | cons c others ih => rw [List.flatMap_cons, List.append_assoc, passLiteral_escapeChar, ih]
  intro rest
  simp only [Json.literal, String.toList_ofList, Json.literalChars, Dialect.skeleton,
    List.cons_append, List.append_assoc, List.nil_append]
  exact inside text.toList rest

/-- A constant that needs no braces is a literal that holds no escape. -/
theorem leaves_quotedAttr {value : String} (h : Dialect.isPlainAttr value = true) :
    Dialect.jsx.Leaves (quotedAttr value).toList [] := by
  have inside (chars rest : List Char) (hc : ∀ c ∈ chars, c ≠ '"' ∧ c ≠ '\\') :
      passLiteral (chars ++ '"' :: rest) = cutLiterals rest := by
    induction chars with
    | nil => rfl
    | cons c others ih =>
      have hd := hc c (List.mem_cons_self ..)
      rw [List.cons_append, passLiteral_cons hd.1 hd.2,
        ih fun d hd => hc d (List.mem_cons_of_mem _ hd)]
  intro rest
  simp only [quotedAttr, String.toList_append, Dialect.skeleton, List.append_assoc,
    List.nil_append]
  refine inside value.toList rest fun c hc => ?_
  have := List.all_eq_true.mp h c hc
  simp only [decide_eq_true_eq, List.mem_cons, not_or] at this
  exact ⟨this.1, this.2.1⟩

theorem cutComments_comment (text : String) (rest : List Char) :
    cutComments ((Dialect.html.comment text).toList ++ rest) = cutComments rest := by
  have entered : passComment (' ' :: (Text.htmlCommentChars text.toList ++
      ' ' :: '-' :: '-' :: '>' :: rest)) = cutComments rest := by
    rw [passComment, passComment_append (Text.not_mem_htmlCommentChars _)]
    · rfl
    · simp
  simp only [Dialect.comment, Text.htmlComment, String.toList_append, String.toList_ofList,
    List.append_assoc]
  exact entered

theorem leaves_htmlComment (text : String) :
    Dialect.html.Leaves (Dialect.html.comment text).toList [] := by
  intro rest
  rw [Dialect.skeleton, cutComments_comment]
  rfl

theorem leaves_blockComment (text : String) :
    Dialect.jsx.Leaves ("/* " ++ Text.blockComment text ++ " */").toList [] := by
  intro rest
  have entered : passBlock (' ' :: (Text.partStarSlash text.toList ++
      ' ' :: '*' :: '/' :: rest)) = cutLiterals rest := by
    rw [passBlock, passBlock_append (Text.occursFrom_partStarSlash _)]
    · rfl
    · simp
  simp only [Text.blockComment, String.toList_append, String.toList_ofList,
    Dialect.skeleton, List.append_assoc, List.nil_append]
  exact entered

theorem alike_braced {one other : String} (h : Dialect.jsx.Alike one.toList other.toList) :
    Dialect.jsx.Alike (braced one).toList (braced other).toList := by
  have opened : Dialect.jsx.Alike ['\x7b'] ['\x7b'] := Dialect.alike_inert_char rfl
  have closed : Dialect.jsx.Alike ['\x7d'] ['\x7d'] := Dialect.alike_inert_char rfl
  simp only [braced, String.toList_append]
  exact (opened.append h).append closed

variable {dialect : Dialect}

theorem alike_text (one other : String) :
    dialect.Alike (dialect.text one).toList (dialect.text other).toList := by
  cases dialect with
  | html => exact ⟨_, leaves_escape one, leaves_escape other⟩
  | jsx => exact alike_braced ⟨_, leaves_literal one, leaves_literal other⟩

theorem alike_comment (one other : String) :
    dialect.Alike (dialect.comment one).toList (dialect.comment other).toList := by
  cases dialect with
  | html => exact ⟨_, leaves_htmlComment one, leaves_htmlComment other⟩
  | jsx => exact alike_braced ⟨_, leaves_blockComment one, leaves_blockComment other⟩

/-! ### Names and numbers -/

/-- Letters, digits and hyphens; beyond ASCII every character passes for a letter. -/
def isNameChar (c : Char) : Bool :=
  c.isAlphanum || c = '-' || 128 ≤ c.toNat

def isName (name : String) : Bool :=
  name.toList.all isNameChar

theorem isInert_of_isNameChar {c : Char} (h : isNameChar c = true) : Dialect.isInert c = true := by
  have ne (d : Char) (hd : isNameChar d = false) : c ≠ d := by
    rintro rfl
    simp [h] at hd
  simp [Dialect.isInert, isMark, ne '<' rfl, ne '>' rfl, ne '"' rfl, ne '/' rfl]

theorem isName_attrName {name : String} (h : isName name = true) :
    isName (dialect.attrName name) = true := by
  cases dialect with
  | html => exact h
  | jsx =>
    simp only [Dialect.attrName]
    split_ifs
    · decide
    · decide
    · exact h

theorem isInert_of_mem_name {name : String} (h : isName name = true) :
    ∀ c ∈ name.toList, Dialect.isInert c = true := fun c hc =>
  isInert_of_isNameChar (List.all_eq_true.mp h c hc)

theorem isInert_of_mem_toString (n : Nat) : ∀ c ∈ (toString n).toList, Dialect.isInert c = true := by
  intro c hc
  have hd := Text.isDigit_of_mem_toString n c hc
  exact isInert_of_isNameChar (by simp [isNameChar, Char.isAlphanum, hd])

end PageBuilder.Markup
