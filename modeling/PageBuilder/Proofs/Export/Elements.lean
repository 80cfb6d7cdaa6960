import PageBuilder.Export.KitMarkup
import PageBuilder.Proofs.Markup.Nesting
/-! The elements that sections are made of. -/
namespace PageBuilder

namespace Markup

/-! ### Names of attributes -/

@[simp] theorem areNamed_nil : areNamed [] = true := rfl

@[simp] theorem areNamed_cons (a : String × AttrValue) (rest : Attrs) :
    areNamed (a :: rest) = (isName a.1 && areNamed rest) := rfl

section

variable (name value : String)

@[simp] theorem fst_classAttr : (classAttr value).1 = "class" := rfl
@[simp] theorem fst_fixedAttr : (fixedAttr name value).1 = name := rfl
@[simp] theorem fst_textAttr : (textAttr name value).1 = name := rfl
@[simp] theorem fst_numberAttr (n : Nat) : (numberAttr name n).1 = name := rfl
@[simp] theorem fst_exprAttr : (exprAttr name value).1 = name := rfl
@[simp] theorem fst_flagAttr : (flagAttr name).1 = name := rfl

end

/-! ### Trees made of some elements -/

namespace Node

mutual

/-- Whether the tree is proper and all its elements have one of the tags. -/
def isMadeOf (allowed : List String) : Node → Bool
  | .element tag attrs children =>
    tag ∈ allowed && areNamed attrs && (tag ∉ voidTags || children.isEmpty) &&
      allMadeOf allowed children
  | .raw _ => false
  | _ => true

def allMadeOf (allowed : List String) : List Node → Bool
  | [] => true
  | node :: rest => node.isMadeOf allowed && allMadeOf allowed rest

end

section Steps

variable {allowed : List String}

@[simp] theorem isMadeOf_text (text : String) : (Node.text text).isMadeOf allowed = true := rfl

@[simp] theorem isMadeOf_el (tag : String) (attrs : Attrs) (children : List Node) :
    (el tag attrs children).isMadeOf allowed =
      (tag ∈ allowed && areNamed attrs && (tag ∉ voidTags || children.isEmpty) &&
        allMadeOf allowed children) := rfl

@[simp] theorem isMadeOf_label (tag : String) (attrs : Attrs) (text : String) :
    (label tag attrs text).isMadeOf allowed =
      (tag ∈ allowed && areNamed attrs && tag ∉ voidTags) := by
  simp [label, isMadeOf, allMadeOf]

@[simp] theorem allMadeOf_nil : allMadeOf allowed [] = true := rfl

@[simp] theorem allMadeOf_cons (node : Node) (rest : List Node) :
    allMadeOf allowed (node :: rest) = (node.isMadeOf allowed && allMadeOf allowed rest) := rfl

theorem allMadeOf_iff {nodes : List Node} :
    allMadeOf allowed nodes = true ↔ ∀ node ∈ nodes, node.isMadeOf allowed = true := by
  induction nodes with
  | nil => simp [allMadeOf]
  | cons node rest ih => simp [allMadeOf, ih]

@[simp] theorem allMadeOf_append (nodes more : List Node) :
    allMadeOf allowed (nodes ++ more) = (allMadeOf allowed nodes && allMadeOf allowed more) := by
  induction nodes with
  | nil => rfl
  | cons node rest ih =>
    rw [List.cons_append, allMadeOf_cons, allMadeOf_cons, ih, Bool.and_assoc]

theorem allMadeOf_map {α : Type} {f : α → Node} (h : ∀ a, (f a).isMadeOf allowed = true)
    (items : List α) : allMadeOf allowed (items.map f) = true :=
  allMadeOf_iff.mpr (List.forall_mem_map.mpr fun a _ => h a)

theorem allMadeOf_mapIdx {α : Type} {f : Nat → α → Node}
    (h : ∀ i a, (f i a).isMadeOf allowed = true) (items : List α) :
    allMadeOf allowed (items.mapIdx f) = true := by
  refine allMadeOf_iff.mpr fun node hn => ?_
  obtain ⟨i, hi, rfl⟩ := List.mem_mapIdx.mp hn
  exact h i items[i]

end Steps

section Consequences

variable {allowed : List String}

mutual

theorem isProper_of_isMadeOf (names : ∀ tag ∈ allowed, isName tag = true) :
    ∀ node : Node, node.isMadeOf allowed = true → node.isProper = true
  | .text _, _ => rfl
  | .comment _, _ => rfl
  | .raw _, h => h
  | .element tag attrs children, h => by
    simp only [isMadeOf, Bool.and_eq_true, decide_eq_true_eq] at h
    obtain ⟨⟨⟨held, named⟩, empty⟩, inside⟩ := h
    simp only [isProper, Bool.and_eq_true]
    exact ⟨⟨⟨names tag held, named⟩, empty⟩, allProper_of_allMadeOf names children inside⟩

theorem allProper_of_allMadeOf (names : ∀ tag ∈ allowed, isName tag = true) :
    ∀ nodes : List Node, allMadeOf allowed nodes = true → allProper nodes = true
  | [], _ => rfl
  | node :: rest, h => by
    simp only [allMadeOf, Bool.and_eq_true] at h
    simp only [allProper, Bool.and_eq_true]
    exact ⟨isProper_of_isMadeOf names node h.1, allProper_of_allMadeOf names rest h.2⟩

end

mutual

theorem mem_of_mem_walk : ∀ node : Node, node.isMadeOf allowed = true →
    ∀ e ∈ node.walk, e.1 ∈ allowed
  | .text _, _ => by simp [walk]
  | .comment _, _ => by simp [walk]
  | .raw _, _ => by simp [walk]
  | .element tag attrs children, h => by
    simp only [isMadeOf, Bool.and_eq_true, decide_eq_true_eq] at h
    obtain ⟨⟨⟨held, -⟩, -⟩, inside⟩ := h
    exact List.forall_mem_cons.mpr ⟨held, mem_of_mem_walkAll children inside⟩

theorem mem_of_mem_walkAll : ∀ nodes : List Node, allMadeOf allowed nodes = true →
    ∀ e ∈ walkAll nodes, e.1 ∈ allowed
  | [], _ => by simp [walkAll]
  | node :: rest, h => by
    simp only [allMadeOf, Bool.and_eq_true] at h
    exact List.forall_mem_append.mpr ⟨mem_of_mem_walk node h.1, mem_of_mem_walkAll rest h.2⟩

end

theorem opening_notMem_tagsAll (names : ∀ tag ∈ allowed, isName tag = true) {nodes : List Node}
    (made : allMadeOf allowed nodes = true) {name : String} (other : name ∉ allowed) :
    .opening name ∉ tagsAll nodes := by
  intro held
  have opened : name ∈ (tagsAll nodes).filterMap Tag.opened? :=
    List.mem_filterMap.mpr ⟨_, held, rfl⟩
  rw [opened_tagsAll nodes (allProper_of_allMadeOf names nodes made)] at opened
  obtain ⟨e, he, rfl⟩ := List.mem_map.mp opened
  exact other (mem_of_mem_walkAll nodes made e he)

end Consequences

end Node

end Markup

namespace Export

open Block (Metric Stage)
open Markup
open Markup.Node (allMadeOf_map allMadeOf_mapIdx)

/-! ### Plain sections -/

namespace Plain

/-- The tags inside plain sections. -/
def innerTags : List String :=
  ["button", "div", "form", "h1", "h2", "h3", "input", "label", "p", "pre", "span", "textarea"]

theorem isMadeOf_metric (m : Metric) : (metric m).isMadeOf innerTags = true := rfl

theorem isMadeOf_tab (mode : TabMode) (index : Nat) (s : Stage) :
    (tab mode index s).isMadeOf innerTags = true := by
  cases mode <;> simp [tab, tabAttrs, innerTags, voidTags, isName, isNameChar]

theorem isMadeOf_stage (mode : TabMode) (index : Nat) (s : Stage) :
    (stage mode index s).isMadeOf innerTags = true := by
  have tags : Node.allMadeOf innerTags (s.tags.map (label "span" [classAttr "tag"])) = true :=
    allMadeOf_map (fun _ => rfl) s.tags
  have held : "div" ∈ innerTags ∧ "h3" ∈ innerTags ∧ "p" ∈ innerTags := by decide
  cases mode <;> simp [stage, stageAttrs, tags, held, voidTags, isName, isNameChar]

theorem allMadeOf_content (mode : TabMode) (position : Nat) (settings : ExportSettings)
    (props : Block.Props) :
    Node.allMadeOf innerTags (content mode position settings props).2 = true := by
  have held : "div" ∈ innerTags := by decide
  cases props with
  | hero p => rfl
  | stats metrics =>
    simp [content, allMadeOf_map isMadeOf_metric, held, voidTags, isName, isNameChar]
  | workflow stages =>
    simp [content, allMadeOf_mapIdx (isMadeOf_tab mode), allMadeOf_mapIdx (isMadeOf_stage mode),
      held, voidTags, isName, isNameChar]
  | cta p => rfl
  | form f => simp [content, formFields, innerTags, voidTags, isName, isNameChar]

theorem isMadeOf_dataPanel (settings : ExportSettings) (data : Json.Value) :
    (dataPanel settings data).isMadeOf innerTags = true := rfl

/-- A section is one element with others inside. -/
theorem exists_render_eq (mode : TabMode) (settings : ExportSettings) (s : PageSection) :
    ∃ attrs children, render mode settings s = el "section" attrs children ∧
      areNamed attrs = true ∧ Node.allMadeOf innerTags children = true := by
  unfold render
  split
  case h_1 => exact ⟨_, _, rfl, rfl, rfl⟩
  case h_2 props _ =>
    refine ⟨[classAttr (content mode s.position settings props).1],
      (content mode s.position settings props).2 ++ (s.data.map (dataPanel settings)).toList, rfl,
      by simp [isName, isNameChar], ?_⟩
    have panel : Node.allMadeOf innerTags (s.data.map (dataPanel settings)).toList = true := by
      cases s.data with
      | none => rfl
      | some data => simp [isMadeOf_dataPanel]
    rw [Node.allMadeOf_append, allMadeOf_content, panel]
    rfl

end Plain

/-! ### Sections made of the kit -/

namespace Kit

/-- The names that the modules of the kit export. -/
def componentNames : List String :=
  kitByName.flatMap KitModule.components

/-- The tags in sections made of the kit. -/
def usedTags : List String :=
  ["div", "h3", "p", "pre", "textarea"] ++ componentNames

theorem isMadeOf_metric (m : Metric) : (metric m).isMadeOf usedTags = true := rfl

theorem isMadeOf_trigger (s : Stage) : (trigger s).isMadeOf usedTags = true := by
  have held : "TabsTrigger" ∈ usedTags := by decide
  simp [trigger, held, voidTags, isName, isNameChar]

theorem isMadeOf_stage (s : Stage) : (stage s).isMadeOf usedTags = true := by
  have tags (look : String) : Node.allMadeOf usedTags (s.tags.map (text "Badge" look)) = true := by
    have held : "Badge" ∈ usedTags := by decide
    exact allMadeOf_map (fun _ => by simp [text, held, voidTags, isName, isNameChar]) s.tags
  have held : "TabsContent" ∈ usedTags ∧ "div" ∈ usedTags ∧ "h3" ∈ usedTags ∧ "p" ∈ usedTags ∧
    "Separator" ∈ usedTags := by decide
  simp [stage, text, tags, held, voidTags, isName, isNameChar]

theorem isMadeOf_body (position : Nat) (settings : ExportSettings) (props : Block.Props) :
    (body position settings props).isMadeOf usedTags = true := by
  cases props with
  | hero p => rfl
  | stats metrics =>
    have held : "div" ∈ usedTags := by decide
    simp [body, allMadeOf_map isMadeOf_metric, held, voidTags, isName, isNameChar]
  | workflow stages =>
    have held : "Tabs" ∈ usedTags ∧ "TabsList" ∈ usedTags := by decide
    simp [body, workflow, allMadeOf_map isMadeOf_trigger, allMadeOf_map isMadeOf_stage, held,
      voidTags, isName, isNameChar]
  | cta p => rfl
  | form f =>
    have held : "Card" ∈ usedTags ∧ "CardHeader" ∈ usedTags ∧ "CardTitle" ∈ usedTags ∧
      "CardDescription" ∈ usedTags ∧ "CardContent" ∈ usedTags ∧ "div" ∈ usedTags ∧
      "Label" ∈ usedTags ∧ "Input" ∈ usedTags ∧ "textarea" ∈ usedTags ∧
      "Button" ∈ usedTags := by decide
    simp [body, form, fieldLabel, text, held, voidTags, isName, isNameChar]

theorem isMadeOf_render (settings : ExportSettings) (s : PageSection) :
    (render settings s).isMadeOf usedTags = true := by
  have held : "div" ∈ usedTags := by decide
  unfold render
  split
  case h_1 => rfl
  case h_2 => exact isMadeOf_body ..
  case h_3 data _ _ =>
    have panel : (dataPanel settings data).isMadeOf usedTags = true := rfl
    simp [isMadeOf_body, panel, held, voidTags, isName, isNameChar]

end Kit

end Export

end PageBuilder
