import PageBuilder.Markup.Writer
import PageBuilder.Proofs.Text.Comment
/-! The structure of written markup, as a reader finds it that scans from left to
right. In HTML it is the brackets and quotes outside comments, in JSX all that is
neither inside a string literal nor inside a comment. Pieces of a text are read
one after the other, which is what the laws here are about. -/
namespace PageBuilder.Markup

mutual

/-- HTML without its comments: each is cut from `<!--` to the first `-->` behind it. -/
def cutComments : List Char → List Char
  | '<' :: '!' :: '-' :: '-' :: rest => passComment rest
  | c :: rest => c :: cutComments rest
  | [] => []

/-- The same from inside a comment on. -/
def passComment : List Char → List Char
  | '-' :: '-' :: '>' :: rest => cutComments rest
  | _ :: rest => passComment rest
  | [] => []

end

mutual

/-- JSX without its string literals and its comments. -/
def cutLiterals : List Char → List Char
  | '"' :: rest => passLiteral rest
  | '/' :: '*' :: rest => passBlock rest
  | c :: rest => c :: cutLiterals rest
  | [] => []

/-- The same from inside a literal on, where a backslash hides the next character. -/
def passLiteral : List Char → List Char
  | '\\' :: _ :: rest => passLiteral rest
  | '"' :: rest => cutLiterals rest
  | _ :: rest => passLiteral rest
  | [] => []

/-- The same from inside a comment on. -/
def passBlock : List Char → List Char
  | '*' :: '/' :: rest => cutLiterals rest
  | _ :: rest => passBlock rest
  | [] => []

end

/-- The characters that make up the tags of HTML. -/
def isMark (c : Char) : Bool :=
  c = '<' || c = '>' || c = '"'

/-- What a reader takes for structure. -/
def Dialect.skeleton (dialect : Dialect) (text : List Char) : List Char :=
  match dialect with
  | .html => (cutComments text).filter isMark
  | .jsx => cutLiterals text

/-! ### Steps of the readers -/

theorem cutComments_cons {c : Char} (h : c ≠ '<') (rest : List Char) :
    cutComments (c :: rest) = c :: cutComments rest := by
  rw [cutComments]
  intro _ hc _
  exact h hc

theorem cutComments_lt {rest : List Char} (h : rest.head? ≠ some '!') :
    cutComments ('<' :: rest) = '<' :: cutComments rest := by
  rw [cutComments]
  rintro _ _ rfl
  exact h rfl

theorem cutComments_append {text : List Char} (h : '<' ∉ text) (rest : List Char) :
    cutComments (text ++ rest) = text ++ cutComments rest := by
  induction text with
  | nil => rfl
  | cons c others ih =>
    obtain ⟨ne, h⟩ := List.ne_and_not_mem_of_not_mem_cons h
    rw [List.cons_append, cutComments_cons ne.symm, ih h, List.cons_append]

/-- A text without `>` does not end the comment it is in, nor does it begin the end. -/
theorem passComment_append {text : List Char} (h : '>' ∉ text) (rest : List Char) :
    passComment (text ++ ' ' :: rest) = passComment (' ' :: rest) := by
  induction text with
  | nil => rfl
  | cons c others ih =>
    have htail : '>' ∉ others := fun hm => h (List.mem_cons_of_mem _ hm)
    rw [List.cons_append, passComment, ih htail]
    intro behind _ hb
    match others, hb with
    | [], hb => simp at hb
    | [_], hb => simp at hb
    | _ :: d :: _, hb =>
      simp only [List.cons_append, List.cons.injEq] at hb
      exact htail (by simp [hb.2.1])

theorem cutLiterals_cons {c : Char} (hq : c ≠ '"') (hs : c ≠ '/') (rest : List Char) :
    cutLiterals (c :: rest) = c :: cutLiterals rest := by
  rw [cutLiterals]
  · exact hq
  · intro _ hc _
    exact hs hc

theorem cutLiterals_slash {rest : List Char} (h : rest.head? ≠ some '*') :
    cutLiterals ('/' :: rest) = '/' :: cutLiterals rest := by
  rw [cutLiterals]
  · decide
  · rintro _ _ rfl
    exact h rfl

theorem passLiteral_cons {c : Char} (hq : c ≠ '"') (hs : c ≠ '\\') (rest : List Char) :
    passLiteral (c :: rest) = passLiteral rest := by
  rw [passLiteral]
  · intro _ _ hc _
    exact hs hc
  · exact hq

theorem passBlock_append {text : List Char} (h : Text.occursFrom ['*', '/'] text = false)
    (rest : List Char) : passBlock (text ++ ' ' :: rest) = passBlock (' ' :: rest) := by
  induction text with
  | nil => rfl
  | cons c others ih =>
    obtain ⟨hp, ht⟩ := Text.occursFrom_cons_eq_false.mp h
    rw [List.cons_append, passBlock, ih ht]
    rintro behind rfl hb
    cases others with
    | nil => simp at hb
    | cons d others =>
      simp only [List.cons_append, List.cons.injEq] at hb
      simp [List.isPrefixOf, hb.1] at hp

/-! ### Pieces -/

namespace Dialect

/-- Wherever the piece stands outside texts, it leaves `left` of itself, and what
is behind it is read as if it were not there. -/
def Leaves (dialect : Dialect) (piece left : List Char) : Prop :=
  ∀ rest, dialect.skeleton (piece ++ rest) = left ++ dialect.skeleton rest

/-- Two pieces that leave the same, so that no reader can tell one from the other. -/
def Alike (dialect : Dialect) (one other : List Char) : Prop :=
  ∃ left, dialect.Leaves one left ∧ dialect.Leaves other left

variable {dialect : Dialect} {one other piece left : List Char}

theorem Leaves.append {piece' left' : List Char} (h : dialect.Leaves piece left)
    (h' : dialect.Leaves piece' left') : dialect.Leaves (piece ++ piece') (left ++ left') := by
  intro rest
  rw [List.append_assoc, h, h', List.append_assoc]

theorem Alike.skeleton_eq (h : dialect.Alike one other) :
    dialect.skeleton one = dialect.skeleton other := by
  obtain ⟨left, ho, ht⟩ := h
  rw [← List.append_nil one, ← List.append_nil other, ho, ht]

theorem Alike.append {one' other' : List Char} (h : dialect.Alike one other)
    (h' : dialect.Alike one' other') : dialect.Alike (one ++ one') (other ++ other') := by
  obtain ⟨left, ho, ht⟩ := h
  obtain ⟨left', ho', ht'⟩ := h'
  exact ⟨left ++ left', ho.append ho', ht.append ht'⟩

theorem alike_nil : dialect.Alike [] [] :=
  ⟨[], fun _ => rfl, fun _ => rfl⟩

theorem Leaves.alike (h : dialect.Leaves piece left) : dialect.Alike piece piece :=
  ⟨left, h, h⟩

/-- Outside literals and comments these mean nothing to either reader. -/
def isInert (c : Char) : Bool :=
  !isMark c && c ≠ '/'

theorem isMark_of_isInert {c : Char} (h : isInert c = true) : isMark c = false := by
  simp only [isInert, Bool.and_eq_true, Bool.not_eq_eq_eq_not, Bool.not_true] at h
  exact h.1

theorem leaves_unmarked (h : ∀ c ∈ piece, isMark c = false) : html.Leaves piece [] := by
  intro rest
  induction piece with
  | nil => rfl
  | cons c others ih =>
    have hc := h c (List.mem_cons_self ..)
    have hlt : c ≠ '<' := by rintro rfl; exact absurd hc (by decide)
    have ht := ih fun d hd => h d (List.mem_cons_of_mem _ hd)
    simp only [skeleton, List.nil_append, List.cons_append] at ht ⊢
    rw [cutComments_cons hlt, List.filter_cons_of_neg (by simp [hc]), ht]

theorem leaves_inert (h : ∀ c ∈ piece, isInert c = true) : jsx.Leaves piece piece := by
  intro rest
  induction piece with
  | nil => rfl
  | cons c others ih =>
    have hc := h c (List.mem_cons_self ..)
    have hq : c ≠ '"' := by rintro rfl; exact absurd hc (by decide)
    have hs : c ≠ '/' := by rintro rfl; exact absurd hc (by decide)
    have ht := ih fun d hd => h d (List.mem_cons_of_mem _ hd)
    simp only [skeleton, List.cons_append] at ht ⊢
    rw [cutLiterals_cons hq hs, ht]

theorem alike_inert (h : ∀ c ∈ piece, isInert c = true) : dialect.Alike piece piece := by
  cases dialect with
  | html => exact (leaves_unmarked fun c hc => isMark_of_isInert (h c hc)).alike
  | jsx => exact (leaves_inert h).alike

theorem alike_inert_char {c : Char} (h : isInert c = true) : dialect.Alike [c] [c] :=
  alike_inert (by simpa using h)

theorem leaves_gt : dialect.Leaves ['>'] ['>'] := by
  intro rest
  cases dialect with
  | html => simp [skeleton, cutComments_cons (show '>' ≠ '<' by decide), isMark]
  | jsx => exact cutLiterals_cons (by decide) (by decide) rest

/-- An opening bracket begins a comment only before an exclamation mark. -/
theorem Leaves.lt (h : dialect.Leaves piece left)
    (hp : ∀ rest, (piece ++ rest).head? ≠ some '!') :
    dialect.Leaves ('<' :: piece) ('<' :: left) := by
  intro rest
  have hr := h rest
  cases dialect with
  | html =>
    simp only [skeleton, List.cons_append] at hr ⊢
    rw [cutComments_lt (hp rest), List.filter_cons_of_pos (by decide), hr]
  | jsx =>
    simp only [skeleton, List.cons_append] at hr ⊢
    rw [cutLiterals_cons (by decide) (by decide), hr]

/-- A slash begins a comment only before an asterisk. -/
theorem Leaves.slash (h : jsx.Leaves piece left) (hp : ∀ rest, (piece ++ rest).head? ≠ some '*') :
    jsx.Leaves ('/' :: piece) ('/' :: left) := by
  intro rest
  have hr := h rest
  simp only [skeleton, List.cons_append] at hr ⊢
  rw [cutLiterals_slash (hp rest), hr]

end Dialect

end PageBuilder.Markup
