import PageBuilder.Text.Escape
/-! Entities, read from left to right. A reader of escaped text gets the text back, since each
`&` that is left in it begins an entity that was written for one character. -/
namespace PageBuilder.Text

/-- The text with each of the five entities replaced by its character, in one pass. -/
def unescapeChars : List Char → List Char
  | '&' :: 'a' :: 'm' :: 'p' :: ';' :: rest => '&' :: unescapeChars rest
  | '&' :: 'l' :: 't' :: ';' :: rest => '<' :: unescapeChars rest
  | '&' :: 'g' :: 't' :: ';' :: rest => '>' :: unescapeChars rest
  | '&' :: 'q' :: 'u' :: 'o' :: 't' :: ';' :: rest => '"' :: unescapeChars rest
  | '&' :: '#' :: '3' :: '9' :: ';' :: rest => '\'' :: unescapeChars rest
  | c :: rest => c :: unescapeChars rest
  | [] => []

def unescape (text : String) : String :=
  String.ofList (unescapeChars text.toList)

theorem unescapeChars_cons {c : Char} (h : c ≠ '&') (rest : List Char) :
    unescapeChars (c :: rest) = c :: unescapeChars rest := by
  rw [unescapeChars]
  all_goals exact fun _ same _ => h same

theorem unescapeChars_entity (c : Char) (rest : List Char) :
    unescapeChars (entity c ++ rest) = c :: unescapeChars rest := by
  unfold entity
  split
  case h_6 other _ _ _ _ => exact unescapeChars_cons other rest
  all_goals rfl

theorem unescapeChars_escapeChars (text : List Char) : unescapeChars (escapeChars text) = text := by
  induction text with
  | nil => rfl
  | cons c rest ih => rw [escapeChars_cons, unescapeChars_entity, ih]

@[simp] theorem toList_escape (text : String) : (escape text).toList = escapeChars text.toList :=
  String.toList_ofList

theorem unescape_escape (text : String) : unescape (escape text) = text := by
  rw [unescape, toList_escape, unescapeChars_escapeChars, String.ofList_toList]

theorem escape_append (text more : String) : escape (text ++ more) = escape text ++ escape more := by
  rw [escape, String.toList_append, escapeChars_append, String.ofList_append]
  rfl

/-! ### What is left of the characters that have entities -/

def entities : List String :=
  ["&amp;", "&lt;", "&gt;", "&quot;", "&#39;"]

def startsEntity (text : List Char) : Bool :=
  entities.any fun written => written.toList.isPrefixOf text

/-- Whether every `&` begins an entity. -/
def refersOnly : List Char → Bool
  | [] => true
  | c :: rest => (c ≠ '&' || startsEntity (c :: rest)) && refersOnly rest

theorem startsEntity_append {text : List Char} (h : startsEntity text = true) (rest : List Char) :
    startsEntity (text ++ rest) = true := by
  simp only [startsEntity, List.any_eq_true, List.isPrefixOf_iff_prefix] at h ⊢
  obtain ⟨written, held, start⟩ := h
  exact ⟨written, held, start.trans (List.prefix_append ..)⟩

theorem refersOnly_append {text rest : List Char} (h : refersOnly text = true)
    (h' : refersOnly rest = true) : refersOnly (text ++ rest) = true := by
  induction text with
  | nil => exact h'
  | cons c others ih =>
    simp only [refersOnly, Bool.and_eq_true, Bool.or_eq_true] at h
    rw [List.cons_append, refersOnly, ih h.2, Bool.and_true, Bool.or_eq_true]
    exact h.1.imp_right fun start => startsEntity_append start rest

theorem refersOnly_entity (c : Char) : refersOnly (entity c) = true := by
  unfold entity
  split
  case h_6 other _ _ _ _ =>
    have plain : c ≠ '&' := other
    simp [refersOnly, plain]
  all_goals decide

theorem refersOnly_escapeChars (text : List Char) : refersOnly (escapeChars text) = true := by
  induction text with
  | nil => rfl
  | cons c rest ih => exact refersOnly_append (refersOnly_entity c) ih

/-- The characters that mean something in HTML, beside the ampersand. -/
def isSpecial (c : Char) : Bool :=
  c ∈ ['<', '>', '"', '\'']

theorem isSpecial_entity (c : Char) : ∀ d ∈ entity c, isSpecial d = false := by
  unfold entity
  split
  case h_6 _ lt gt quote apostrophe =>
    intro d held
    obtain rfl := List.mem_singleton.mp held
    simpa [isSpecial] using ⟨lt, gt, quote, apostrophe⟩
  all_goals simp [isSpecial]

theorem isSpecial_of_mem_escape {text : String} :
    ∀ c ∈ (escape text).toList, isSpecial c = false := by
  intro d held
  rw [toList_escape] at held
  obtain ⟨c, _, held⟩ := List.mem_flatMap.mp held
  exact isSpecial_entity c d held

/-- What is written stands for the text, and means nothing else to a reader of HTML. -/
structure IsEscaped (written text : String) : Prop where
  read : unescape written = text
  inert : ∀ c ∈ written.toList, isSpecial c = false
  refers : refersOnly written.toList = true

theorem isEscaped_escape (text : String) : IsEscaped (escape text) text where
  read := unescape_escape text
  inert := isSpecial_of_mem_escape
  refers := by
    rw [toList_escape]
    exact refersOnly_escapeChars text.toList

end PageBuilder.Text
