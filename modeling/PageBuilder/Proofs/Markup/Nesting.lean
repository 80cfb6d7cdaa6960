import PageBuilder.Proofs.Markup.TagReading
/-! Written HTML is well nested. A reader finds the tags of the elements of a tree, each
element's own around those inside it, whatever its texts are. -/
namespace PageBuilder.Markup

/-! ### Well nested tags -/

/-- The elements that are open behind some tags, the innermost first, if `opened` are before
them. There is no result if a tag closes another element than the innermost. -/
def openBehind : List String → List Tag → Option (List String)
  | opened, [] => some opened
  | opened, .opening name :: rest =>
    openBehind (if name ∈ voidTags then opened else name :: opened) rest
  | innermost :: opened, .closing name :: rest =>
    if name = innermost then openBehind opened rest else none
  | [], .closing _ :: _ => none

/-- Each element is closed by its own name before those around it, and none is left open. -/
def WellNested (tags : List Tag) : Prop :=
  openBehind [] tags = some []

/-- Tags that leave open what was open, wherever they stand. -/
def Balanced (tags : List Tag) : Prop :=
  ∀ opened rest, openBehind opened (tags ++ rest) = openBehind opened rest

theorem balanced_nil : Balanced [] :=
  fun _ _ => rfl

theorem Balanced.append {tags more : List Tag} (h : Balanced tags) (h' : Balanced more) :
    Balanced (tags ++ more) := by
  intro opened rest
  rw [List.append_assoc, h, h']

theorem Balanced.wellNested {tags : List Tag} (h : Balanced tags) : WellNested tags := by
  have whole := h [] []
  rwa [List.append_nil] at whole

theorem balanced_void {name : String} (h : name ∈ voidTags) : Balanced [.opening name] := by
  intro opened rest
  rw [List.singleton_append, openBehind, if_pos h]

theorem Balanced.within {name : String} (h : name ∉ voidTags) {tags : List Tag}
    (inside : Balanced tags) : Balanced (.opening name :: (tags ++ [.closing name])) := by
  intro opened rest
  rw [List.cons_append, List.append_assoc, openBehind, if_neg h, inside, List.singleton_append,
    openBehind, if_pos rfl]

/-! ### The tags of a tree -/

namespace Node

mutual

/-- The tags that are meant by a tree. -/
def tags : Node → List Tag
  | .element tag _ children =>
    if tag ∈ voidTags then [.opening tag]
    else .opening tag :: (tagsAll children ++ [.closing tag])
  | _ => []

def tagsAll : List Node → List Tag
  | [] => []
  | node :: rest => tags node ++ tagsAll rest

end

mutual

/-- Whether names are names, void elements are empty, and nothing is raw. -/
def isProper : Node → Bool
  | .element tag attrs children =>
    isName tag && areNamed attrs && (tag ∉ voidTags || children.isEmpty) && allProper children
  | .raw _ => false
  | _ => true

def allProper : List Node → Bool
  | [] => true
  | node :: rest => node.isProper && allProper rest

end

mutual

theorem balanced_tags : ∀ node : Node, Balanced node.tags
  | .text _ => balanced_nil
  | .comment _ => balanced_nil
  | .raw _ => balanced_nil
  | .element tag _ children => by
    rw [tags]
    split
    case isTrue void => exact balanced_void void
    case isFalse nonvoid => exact (balanced_tagsAll children).within nonvoid

theorem balanced_tagsAll : ∀ nodes : List Node, Balanced (tagsAll nodes)
  | [] => balanced_nil
  | node :: rest => (balanced_tags node).append (balanced_tagsAll rest)

end

mutual

theorem opened_tags : ∀ node : Node, node.isProper = true →
    node.tags.filterMap Tag.opened? = node.walk.map Prod.fst
  | .text _, _ => rfl
  | .comment _, _ => rfl
  | .raw _, _ => rfl
  | .element tag attrs children, h => by
    simp only [isProper, Bool.and_eq_true, Bool.or_eq_true, decide_eq_true_eq] at h
    obtain ⟨⟨-, empty⟩, inside⟩ := h
    rw [tags, walk, List.map_cons, ← opened_tagsAll children inside]
    split
    case isTrue void =>
      obtain rfl := List.isEmpty_iff.mp (empty.resolve_left (not_not_intro void))
      rfl
    case isFalse => simp [Tag.opened?]

theorem opened_tagsAll : ∀ nodes : List Node, allProper nodes = true →
    (tagsAll nodes).filterMap Tag.opened? = (walkAll nodes).map Prod.fst
  | [], _ => rfl
  | node :: rest, h => by
    simp only [allProper, Bool.and_eq_true] at h
    rw [tagsAll, walkAll, List.filterMap_append, List.map_append, opened_tags node h.1,
      opened_tagsAll rest h.2]

end

theorem tagsAll_of_isText {nodes : List Node} (h : nodes.all isText = true) :
    tagsAll nodes = [] := by
  induction nodes with
  | nil => rfl
  | cons node rest ih =>
    simp only [List.all_cons, Bool.and_eq_true] at h
    rw [tagsAll, ih h.2]
    cases node with
    | text => rfl
    | element | comment | raw => exact absurd h.1 Bool.false_ne_true

end Node

/-! ### Lines -/

/-- Lines outside tags that are read as these tags. -/
inductive ReadsLines : List String → List Tag → Prop
  | nil : ReadsLines [] []
  | cons {line : String} {rest : List String} {tags more : List Tag} :
    Reads line.toList tags → ReadsLines rest more → ReadsLines (line :: rest) (tags ++ more)

namespace ReadsLines

variable {lines others : List String} {line : String} {tags more : List Tag}

theorem single (h : Reads line.toList tags) : ReadsLines [line] tags :=
  List.append_nil tags ▸ cons h nil

theorem append (h : ReadsLines lines tags) (h' : ReadsLines others more) :
    ReadsLines (lines ++ others) (tags ++ more) := by
  induction h with
  | nil => exact h'
  | cons first _ ih =>
    rw [List.append_assoc]
    exact cons first ih

theorem unlines (h : ReadsLines lines tags) : Reads (Text.unlines lines).toList tags := by
  have feed : Reads ['\n'] [] := reads_of_not_mem (by decide)
  induction h with
  | nil => exact reads_nil
  | cons first behind ih =>
    cases behind with
    | nil => simpa [Text.unlines] using first
    | cons _ _ => simpa [Text.unlines] using (first.append feed).append ih

end ReadsLines

theorem reads_inlineTexts (children : List Node) :
    Reads (Dialect.html.inlineTexts children).toList [] := by
  induction children with
  | nil => exact reads_nil
  | cons node rest ih =>
    cases node with
    | text t =>
      rw [Dialect.inlineTexts, String.toList_append]
      exact (reads_text t).append ih
    | element | comment | raw => exact ih

theorem reads_childless {tag : String} {attrs : Attrs} (ht : isName tag = true)
    (ha : areNamed attrs = true) :
    Reads (Dialect.html.childless tag attrs).toList (Node.tags (.element tag attrs [])) := by
  simp only [Dialect.childless, Node.tags, Node.tagsAll]
  split
  case isTrue => exact reads_opened ht ha
  case isFalse => simpa using (reads_opened ht ha).append (reads_closed ht)

mutual

theorem reads_writeNode (depth : Nat) : ∀ node : Node, node.isProper = true →
    ReadsLines (writeNode .html depth node) node.tags
  | .text t, _ => by
    rw [writeNode]
    refine .single ?_
    rw [String.toList_append]
    exact (reads_indent depth).append (reads_text t)
  | .comment t, _ => by
    rw [writeNode]
    refine .single ?_
    rw [String.toList_append]
    exact (reads_indent depth).append (reads_comment t)
  | .raw _, h => by simp [Node.isProper] at h
  | .element tag attrs children, h => by
    simp only [Node.isProper, Bool.and_eq_true, Bool.or_eq_true, decide_eq_true_eq] at h
    obtain ⟨⟨⟨named, attrsNamed⟩, empty⟩, inside⟩ := h
    have opened := (reads_indent depth).append (reads_opened named attrsNamed)
    have closed := reads_closed named
    rw [writeNode]
    split
    case isTrue childless =>
      obtain rfl := List.isEmpty_iff.mp childless
      refine .single ?_
      rw [String.toList_append]
      exact (reads_indent depth).append (reads_childless named attrsNamed)
    case isFalse given =>
      rw [Node.tags, if_neg (empty.resolve_right given)]
      split
      case isTrue texts =>
        rw [Node.tagsAll_of_isText texts]
        refine .single ?_
        simpa using (opened.append (reads_inlineTexts children)).append closed
      case isFalse =>
        have first : ReadsLines [Text.indent depth ++ "<" ++ Dialect.html.opening tag attrs ++ ">"]
          [.opening tag] := .single (by simpa using opened)
        have last : ReadsLines [Text.indent depth ++ "</" ++ tag ++ ">"] [.closing tag] :=
          .single (by simpa using (reads_indent depth).append closed)
        exact first.append ((reads_writeNodes (depth + 1) children inside).append last)

theorem reads_writeNodes (depth : Nat) : ∀ nodes : List Node, Node.allProper nodes = true →
    ReadsLines (writeNodes .html depth nodes) (Node.tagsAll nodes)
  | [], _ => .nil
  | node :: rest, h => by
    simp only [Node.allProper, Bool.and_eq_true] at h
    exact (reads_writeNode depth node h.1).append (reads_writeNodes depth rest h.2)

end

theorem Reads.readTags_cutComments {text : List Char} {tags : List Tag} (h : Reads text tags) :
    readTags (cutComments text) = tags := by
  have whole := h []
  rwa [List.append_nil, show readTags (cutComments []) = [] from rfl, List.append_nil] at whole

theorem tagsIn_render {nodes : List Node} (h : Node.allProper nodes = true) (depth : Nat) :
    tagsIn (render nodes .html depth) = Node.tagsAll nodes :=
  (reads_writeNodes depth nodes h).unlines.readTags_cutComments

/-- The tags of written HTML, read from left to right outside comments, are well nested, and
those that open elements are the elements of the trees in the order of their walks. -/
theorem render_wellNested {nodes : List Node} (proper : Node.allProper nodes = true)
    (depth : Nat) :
    WellNested (tagsIn (render nodes .html depth)) ∧
      (tagsIn (render nodes .html depth)).filterMap Tag.opened? =
        (nodes.flatMap Node.walk).map Prod.fst := by
  rw [tagsIn_render proper]
  refine ⟨(Node.balanced_tagsAll nodes).wellNested, ?_⟩
  rw [Node.opened_tagsAll nodes proper, Node.walkAll_eq_flatMap]

/-- Void elements beside an empty one, below a line break; and tags in each place that a text
can have. -/
def gallery : List Node := [
  .comment "</figure><br>",
  .element "figure" [("title", .text "\"></figure>"), ("hidden", .flag)] [
    .element "img" [("src", .text "a>b.png"), ("width", .number 8)] [],
    .element "figcaption" [] [.text "<br>", .text "\n</figcaption>"],
    .element "map-pin" [("onClick", .expr "() => 1")] [],
    .text "<p>"],
  .element "hr" [] []]

theorem render_wellNested_gallery :
    Node.allProper gallery = true ∧
      WellNested (tagsIn (render gallery .html 1)) ∧
      (tagsIn (render gallery .html 1)).filterMap Tag.opened? =
        ["figure", "img", "figcaption", "map-pin", "hr"] := by
  have proper : Node.allProper gallery = true := by decide
  exact ⟨proper, render_wellNested proper 1⟩

end PageBuilder.Markup
