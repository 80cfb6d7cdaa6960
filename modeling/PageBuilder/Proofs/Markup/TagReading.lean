import PageBuilder.Proofs.Markup.Tags
/-! The tags of HTML, as a reader finds them once the comments are cut. Values of attributes
and texts are escaped, so every piece that the writer makes is read as the tags that were
meant by it, wherever it stands. -/
namespace PageBuilder.Markup

inductive Tag where
  | opening (name : String)
  | closing (name : String)
  deriving DecidableEq, Repr

namespace Tag

/-- The name of a tag ends at a blank, a slash or the bracket. -/
def endsName (c : Char) : Bool :=
  c ∈ [' ', '\t', '\n', '/', '>']

def nameAt (text : List Char) : String :=
  String.ofList (text.takeWhile fun c => !endsName c)

/-- The tag that starts with the text behind an opening bracket. -/
def startingWith : List Char → Tag
  | '/' :: rest => .closing (nameAt rest)
  | text => .opening (nameAt text)

def opened? : Tag → Option String
  | opening name => some name
  | closing _ => none

end Tag

mutual

/-- The tags of HTML without comments, from left to right. A tag ends at the first `>`
outside quotes. -/
def readTags : List Char → List Tag
  | '<' :: rest => .startingWith rest :: passTag rest
  | _ :: rest => readTags rest
  | [] => []

/-- The same from inside a tag on. -/
def passTag : List Char → List Tag
  | '>' :: rest => readTags rest
  | '"' :: rest => passValue rest
  | _ :: rest => passTag rest
  | [] => []

/-- The same from inside the value of an attribute on. -/
def passValue : List Char → List Tag
  | '"' :: rest => passTag rest
  | _ :: rest => passValue rest
  | [] => []

end

/-- The tags of HTML outside its comments. -/
def tagsIn (html : String) : List Tag :=
  readTags (cutComments html.toList)

/-! ### Steps of the reader -/

theorem readTags_append {text : List Char} (h : '<' ∉ text) (rest : List Char) :
    readTags (text ++ rest) = readTags rest := by
  induction text with
  | nil => rfl
  | cons c others ih =>
    obtain ⟨ne, h⟩ := List.ne_and_not_mem_of_not_mem_cons h
    rw [List.cons_append, readTags, ih h]
    exact fun same => ne same.symm

theorem passTag_append {text : List Char} (h : ∀ c ∈ text, isMark c = false)
    (rest : List Char) : passTag (text ++ rest) = passTag rest := by
  induction text with
  | nil => rfl
  | cons c others ih =>
    obtain ⟨hc, h⟩ := List.forall_mem_cons.mp h
    rw [List.cons_append, passTag, ih h]
    · rintro rfl
      exact absurd hc (by decide)
    · rintro rfl
      exact absurd hc (by decide)

theorem passValue_append {text : List Char} (h : ∀ c ∈ text, isMark c = false)
    (rest : List Char) : passValue (text ++ rest) = passValue rest := by
  induction text with
  | nil => rfl
  | cons c others ih =>
    obtain ⟨hc, h⟩ := List.forall_mem_cons.mp h
    rw [List.cons_append, passValue, ih h]
    rintro rfl
    exact absurd hc (by decide)

theorem nameAt_append {name : String} (h : isName name = true) {c : Char} (rest : List Char)
    (ends : Tag.endsName c = true) : Tag.nameAt (name.toList ++ c :: rest) = name := by
  have inside : ∀ d ∈ name.toList, (!Tag.endsName d) = true := by
    intro d hd
    have named := List.all_eq_true.mp h d hd
    by_contra held
    have none : ∀ d ∈ [' ', '\t', '\n', '/', '>'], isNameChar d = false := by
      simp [isNameChar]
    simp only [Tag.endsName, Bool.not_eq_true, Bool.not_eq_false', decide_eq_true_eq] at held
    rw [none d held] at named
    cases named
  rw [Tag.nameAt, List.takeWhile_append_of_pos inside, List.takeWhile_cons_of_neg (by simp [ends]),
    List.append_nil, String.ofList_toList]

theorem startingWith_of_head? {text : List Char} (h : text.head? ≠ some '/') :
    Tag.startingWith text = .opening (Tag.nameAt text) := by
  rw [Tag.startingWith]
  rintro rest rfl
  exact h rfl

/-! ### Pieces -/

/-- Wherever the piece stands outside tags, it is read as these tags, and what is behind it
as if it were not there. -/
def Reads (piece : List Char) (tags : List Tag) : Prop :=
  ∀ rest, readTags (cutComments (piece ++ rest)) = tags ++ readTags (cutComments rest)

/-- Inside a tag the piece neither ends it nor opens a value that it does not close. -/
structure Inside (piece : List Char) : Prop where
  bracket : '<' ∉ piece
  pass : ∀ rest, passTag (piece ++ rest) = passTag rest

section Pieces

variable {piece more : List Char} {tags others : List Tag}

theorem reads_nil : Reads [] [] :=
  fun _ => rfl

theorem Reads.append (h : Reads piece tags) (h' : Reads more others) :
    Reads (piece ++ more) (tags ++ others) := by
  intro rest
  rw [List.append_assoc, h, h', List.append_assoc]

theorem reads_of_not_mem (h : '<' ∉ piece) : Reads piece [] := by
  intro rest
  rw [cutComments_append h, readTags_append h, List.nil_append]

theorem Inside.append (h : Inside piece) (h' : Inside more) : Inside (piece ++ more) where
  bracket := by
    rw [List.mem_append, not_or]
    exact ⟨h.bracket, h'.bracket⟩
  pass rest := by rw [List.append_assoc, h.pass, h'.pass]

theorem inside_unmarked (h : ∀ c ∈ piece, isMark c = false) : Inside piece where
  bracket held := absurd (h _ held) (by decide)
  pass := passTag_append h

theorem inside_quotedAttr {value : String} (h : ∀ c ∈ value.toList, isMark c = false) :
    Inside (quotedAttr value).toList where
  bracket := by
    have bracket : '<' ∉ value.toList := fun held => absurd (h _ held) (by decide)
    simpa [quotedAttr] using bracket
  pass rest := by
    simp only [quotedAttr, String.toList_append, List.append_assoc]
    exact passValue_append h _

/-- A tag in its brackets. Before an exclamation mark a bracket could open a comment. -/
theorem Inside.reads {tag : Tag} (h : Inside piece)
    (first : ∀ rest, (piece ++ '>' :: rest).head? ≠ some '!')
    (starts : ∀ rest, Tag.startingWith (piece ++ '>' :: rest) = tag) :
    Reads ('<' :: (piece ++ ['>'])) [tag] := by
  intro rest
  have cut : cutComments ('<' :: (piece ++ '>' :: rest)) =
      '<' :: (piece ++ '>' :: cutComments rest) := by
    rw [cutComments_lt (first rest), cutComments_append h.bracket, cutComments_cons (by decide)]
  rw [List.cons_append, List.append_assoc, List.cons_append, List.nil_append, cut, readTags,
    starts, h.pass, passTag]
  rfl

end Pieces

/-! ### What the writer makes -/

theorem isMark_of_mem_name {name : String} (h : isName name = true) :
    ∀ c ∈ name.toList, isMark c = false := fun c hc =>
  Dialect.isMark_of_isInert (isInert_of_mem_name h c hc)

theorem isMark_of_mem_toString (n : Nat) : ∀ c ∈ (toString n).toList, isMark c = false :=
  fun c hc => Dialect.isMark_of_isInert (isInert_of_mem_toString n c hc)

theorem reads_text (text : String) : Reads (Dialect.html.text text).toList [] :=
  reads_of_not_mem fun held => absurd (isMark_of_mem_escape _ held) (by decide)

theorem reads_comment (text : String) : Reads (Dialect.html.comment text).toList [] := by
  intro rest
  rw [cutComments_comment, List.nil_append]

theorem reads_indent (depth : Nat) : Reads (Text.indent depth).toList [] := by
  refine reads_of_not_mem fun held => ?_
  rw [Text.indent, String.toList_ofList] at held
  exact absurd (List.eq_of_mem_replicate held) (by decide)

theorem inside_attr {name : String} (h : isName name = true) (value : AttrValue) :
    Inside (Dialect.html.attr name value).toList := by
  have named : Inside (" " ++ name).toList := by
    rw [String.toList_append]
    exact (inside_unmarked (by simp [isMark])).append (inside_unmarked (isMark_of_mem_name h))
  have given {content : String} (h : ∀ c ∈ content.toList, isMark c = false) :
      Inside (" " ++ name ++ "=" ++ quotedAttr content).toList := by
    rw [String.toList_append, String.toList_append (t := "=")]
    exact (named.append (inside_unmarked (by simp [isMark]))).append (inside_quotedAttr h)
  cases value with
  | flag => exact named
  | fixed v => exact given isMark_of_mem_escape
  | text v => exact given isMark_of_mem_escape
  | number n => exact given (isMark_of_mem_toString n)
  | expr source => exact inside_unmarked (by simp [Dialect.attr])

/-- Whether the attributes have names for names. -/
def areNamed (attrs : Attrs) : Bool :=
  attrs.all fun a => isName a.1

theorem inside_attrChars {attrs : Attrs} (h : areNamed attrs = true) :
    Inside (Dialect.html.attrChars attrs) := by
  induction attrs with
  | nil => exact inside_unmarked (by simp [Dialect.attrChars])
  | cons a others ih =>
    simp only [areNamed, List.all_cons, Bool.and_eq_true] at h
    exact (inside_attr h.1 a.2).append (ih h.2)

theorem reads_opened {tag : String} {attrs : Attrs} (ht : isName tag = true)
    (ha : areNamed attrs = true) :
    Reads ("<" ++ Dialect.html.opening tag attrs ++ ">").toList [.opening tag] := by
  have inner : Inside (tag.toList ++ Dialect.html.attrChars attrs) :=
    (inside_unmarked (isMark_of_mem_name ht)).append (inside_attrChars ha)
  have behind (rest : List Char) := head?_attrChars .html attrs '>' rest
  have first {c : Char} (hc : isNameChar c = false) (blank : c ≠ ' ') (bracket : c ≠ '>')
      (rest : List Char) :
      (tag.toList ++ Dialect.html.attrChars attrs ++ '>' :: rest).head? ≠ some c := by
    rw [List.append_assoc]
    refine head?_name_ne ht hc ?_
    rcases behind rest with h | h <;> simp [h, blank.symm, bracket.symm]
  have starts (rest : List Char) :
      Tag.startingWith (tag.toList ++ Dialect.html.attrChars attrs ++ '>' :: rest) =
        .opening tag := by
    rw [startingWith_of_head? (first (by decide) (by decide) (by decide) rest), List.append_assoc]
    rcases behind rest with h | h <;>
    · obtain ⟨tail, split⟩ := List.head?_eq_some_iff.mp h
      rw [split, nameAt_append ht tail (by decide)]
  have whole := inner.reads (first (by decide) (by decide) (by decide)) starts
  simpa [toList_opening] using whole

theorem reads_closed {tag : String} (ht : isName tag = true) :
    Reads ("</" ++ tag ++ ">").toList [.closing tag] := by
  have inner : Inside ('/' :: tag.toList) :=
    inside_unmarked (List.forall_mem_cons.mpr ⟨by decide, isMark_of_mem_name ht⟩)
  have starts (rest : List Char) :
      Tag.startingWith ('/' :: tag.toList ++ '>' :: rest) = .closing tag :=
    congrArg Tag.closing (nameAt_append ht rest (by decide))
  have whole := inner.reads (fun rest => by simp) starts
  simpa using whole

end PageBuilder.Markup
