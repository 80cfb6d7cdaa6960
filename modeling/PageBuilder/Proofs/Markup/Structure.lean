import Mathlib.Data.List.Forall2
import PageBuilder.Proofs.Markup.Tags
/-! Texts cannot change the structure of the markup they stand in. Each line of a tree
leaves the same whatever the texts in it are, so two trees that differ in texts alone
have one structure. -/
namespace PageBuilder.Markup

/-! ### Trees apart from their texts -/

mutual

/-- The tree with every text, text attribute and comment in it emptied. -/
def Node.bare : Node → Node
  | .element tag attrs children => .element tag (bareAttrs attrs) (bareAll children)
  | .text _ => .text ""
  | .comment _ => .comment ""
  | .raw source => .raw source

def Node.bareAll : List Node → List Node
  | [] => []
  | node :: rest => node.bare :: bareAll rest

end

mutual

/-- Whether names are names, expressions are tame, and nothing is raw. -/
def Node.isTame : Node → Bool
  | .element tag attrs children => isName tag && areTame attrs && allTame children
  | .raw _ => false
  | _ => true

def Node.allTame : List Node → Bool
  | [] => true
  | node :: rest => node.isTame && allTame rest

end

variable {dialect : Dialect}

/-! ### Lines -/

theorem alike_indent (depth : Nat) :
    dialect.Alike (Text.indent depth).toList (Text.indent depth).toList := by
  refine Dialect.alike_inert fun c hc => ?_
  rw [Text.indent, String.toList_ofList] at hc
  obtain rfl := List.eq_of_mem_replicate hc
  decide

/-- Lines that a reader cannot tell apart, and that stand outside all texts. -/
def Dialect.AlikeLines (dialect : Dialect) : List String → List String → Prop :=
  List.Forall₂ fun one other => dialect.Alike one.toList other.toList

theorem alike_inlineTexts (children : List Node) :
    dialect.Alike (dialect.inlineTexts children).toList
      (dialect.inlineTexts (Node.bareAll children)).toList := by
  induction children with
  | nil => exact Dialect.alike_nil
  | cons node rest ih =>
    cases node with
    | text t =>
      simp only [Node.bareAll, Node.bare, Dialect.inlineTexts, String.toList_append]
      exact (alike_text t "").append ih
    | element | comment | raw => exact ih

theorem isText_bare (node : Node) : node.bare.isText = node.isText := by
  cases node <;> rfl

theorem all_isText_bareAll (nodes : List Node) :
    (Node.bareAll nodes).all Node.isText = nodes.all Node.isText := by
  induction nodes with
  | nil => rfl
  | cons node rest ih => rw [Node.bareAll, List.all_cons, List.all_cons, isText_bare, ih]

theorem isEmpty_bareAll (nodes : List Node) : (Node.bareAll nodes).isEmpty = nodes.isEmpty := by
  cases nodes <;> rfl

mutual

theorem alike_writeNode (depth : Nat) : ∀ node : Node, node.isTame = true →
    dialect.AlikeLines (writeNode dialect depth node) (writeNode dialect depth node.bare)
  | .text t, _ => by
    simp only [writeNode, Node.bare]
    refine .cons ?_ .nil
    rw [String.toList_append, String.toList_append]
    exact (alike_indent depth).append (alike_text t "")
  | .comment t, _ => by
    simp only [writeNode, Node.bare]
    refine .cons ?_ .nil
    rw [String.toList_append, String.toList_append]
    exact (alike_indent depth).append (alike_comment t "")
  | .raw _, h => by simp [Node.isTame] at h
  | .element tag attrs children, h => by
    simp only [Node.isTame, Bool.and_eq_true] at h
    obtain ⟨⟨ht, ha⟩, hc⟩ := h
    have opened : dialect.Alike _ _ :=
      alike_opened (c := '>') (by decide) ht ha Dialect.leaves_gt.alike
    simp only [writeNode, Node.bare, isEmpty_bareAll, all_isText_bareAll]
    split_ifs
    · refine .cons ?_ .nil
      rw [String.toList_append, String.toList_append]
      exact (alike_indent depth).append (alike_childless ht ha)
    · refine .cons ?_ .nil
      simpa using (((alike_indent depth).append opened).append
        (alike_inlineTexts children)).append (alike_closing ht)
    · refine .cons ?_ (List.rel_append (alike_writeNodes (depth + 1) children hc) (.cons ?_ .nil))
      · simpa using (alike_indent depth).append opened
      · simpa using (alike_indent depth).append (alike_closing ht)

theorem alike_writeNodes (depth : Nat) : ∀ nodes : List Node, Node.allTame nodes = true →
    dialect.AlikeLines (writeNodes dialect depth nodes)
      (writeNodes dialect depth (Node.bareAll nodes))
  | [], _ => .nil
  | node :: rest, h => by
    simp only [Node.allTame, Bool.and_eq_true] at h
    exact List.rel_append (alike_writeNode depth node h.1) (alike_writeNodes depth rest h.2)

end

theorem alike_unlines {lines others : List String} (h : dialect.AlikeLines lines others) :
    dialect.Alike (Text.unlines lines).toList (Text.unlines others).toList := by
  have feed : dialect.Alike ['\n'] ['\n'] := Dialect.alike_inert_char rfl
  induction h with
  | nil => exact Dialect.alike_nil
  | cons first behind ih =>
    cases behind with
    | nil => simpa [Text.unlines] using first
    | cons _ _ => simpa [Text.unlines] using (first.append feed).append ih

theorem skeleton_render_bare {nodes : List Node} (h : Node.allTame nodes = true) (depth : Nat) :
    dialect.skeleton (render nodes dialect depth).toList =
      dialect.skeleton (render (Node.bareAll nodes) dialect depth).toList :=
  (alike_unlines (alike_writeNodes depth nodes h)).skeleton_eq

/-! ### Two trees -/

theorem areTame_bareAttrs (attrs : Attrs) : areTame (bareAttrs attrs) = areTame attrs := by
  have isTame_bare (value : AttrValue) : value.bare.isTame = value.isTame := by
    cases value <;> rfl
  simp [areTame, bareAttrs, List.all_map, Function.comp_def, isTame_bare]

mutual

theorem isTame_bare : ∀ node : Node, node.bare.isTame = node.isTame
  | .text _ => rfl
  | .comment _ => rfl
  | .raw _ => rfl
  | .element tag attrs children => by
    simp only [Node.bare, Node.isTame, areTame_bareAttrs, allTame_bareAll children]

theorem allTame_bareAll : ∀ nodes : List Node,
    Node.allTame (Node.bareAll nodes) = Node.allTame nodes
  | [] => rfl
  | node :: rest => by
    simp only [Node.bareAll, Node.allTame, isTame_bare node, allTame_bareAll rest]

end

/-- Two trees that are the same apart from their texts are written with the same
brackets and quotes in HTML, and with the same source around the texts in JSX. -/
theorem skeleton_render_congr {one other : List Node} (tame : Node.allTame one = true)
    (same : Node.bareAll one = Node.bareAll other) (depth : Nat) :
    (cutComments (render one .html depth).toList).filter isMark =
        (cutComments (render other .html depth).toList).filter isMark ∧
      cutLiterals (render one .jsx depth).toList = cutLiterals (render other .jsx depth).toList := by
  have tame' : Node.allTame other = true := by
    rw [← allTame_bareAll, ← same, allTame_bareAll, tame]
  have both (dialect : Dialect) : dialect.skeleton (render one dialect depth).toList =
      dialect.skeleton (render other dialect depth).toList := by
    rw [skeleton_render_bare tame, skeleton_render_bare tame', same]
  exact ⟨both .html, both .jsx⟩

/-- A link with a text in each place that takes one, beside a constant and an expression. -/
def link (address label remark : String) : List Node :=
  [.element "a" [("href", .text address), ("rel", .fixed "\"next\""), ("onClick", .expr "go('/')")]
    [.text label, .comment remark]]

/-- Each of the texts would end what it stands in if it were written as it is. -/
def breakout : List Node :=
  link "\"><b x='" "</a><!--\\" "--> */ \""

theorem skeleton_render_breakout :
    Node.allTame breakout = true ∧ Node.bareAll breakout = Node.bareAll (link "/" "Home" "") ∧
      (cutComments (render breakout .html 1).toList).filter isMark =
        (cutComments (render (link "/" "Home" "") .html 1).toList).filter isMark ∧
      cutLiterals (render breakout .jsx 1).toList =
        cutLiterals (render (link "/" "Home" "") .jsx 1).toList := by
  have tame : Node.allTame breakout = true := by decide
  have same : Node.bareAll breakout = Node.bareAll (link "/" "Home" "") := rfl
  exact ⟨tame, same, skeleton_render_congr tame same 1⟩

end PageBuilder.Markup
