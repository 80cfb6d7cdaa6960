import PageBuilder.Proofs.Export.FileSet
/-! Ids of elements, and labels that are for them. Only forms have both, and the ids of a form
are made from its position on the page, so no two elements share one and each label is for one
element, which is in the same block. -/
namespace PageBuilder

namespace Markup

/-- What an attribute says; of an expression only a running component knows it. -/
def AttrValue.said? : AttrValue → Option String
  | .fixed value | .text value => some value
  | .number value => some (toString value)
  | .expr _ => none
  | .flag => some ""

/-- What the attributes of a name say. -/
def saidOf (name : String) (attrs : Attrs) : List (Option String) :=
  (attrs.filter fun a => a.1 = name).map fun a => a.2.said?

/-- Labels of HTML and of the kit. -/
def labelTags : List String :=
  ["label", "Label"]

/-- What a label is for, as the one entry for it; other elements have none. -/
def labelOf (e : String × Attrs) : List (List (Option String)) :=
  if e.1 ∈ labelTags then [saidOf "for" e.2] else []

namespace Node

/-- The ids in a tree, in the order of its elements. -/
def ids (tree : Node) : List (Option String) :=
  tree.walk.flatMap fun e => saidOf "id" e.2

/-- What the labels in a tree are for, in their order. -/
def labels (tree : Node) : List (List (Option String)) :=
  tree.walk.flatMap labelOf

/-- The text of the tree is a part of the content. -/
def WrittenIn (tree : Node) (content : String) : Prop :=
  ∃ dialect depth before behind, content = before ++ Markup.render [tree] dialect depth ++ behind

theorem ids_el (tag : String) (attrs : Attrs) (children : List Node) :
    (el tag attrs children).ids = saidOf "id" attrs ++ children.flatMap ids := by
  rw [el, ids, walk, walkAll_eq_flatMap, List.flatMap_cons, List.flatMap_assoc]
  rfl

theorem labels_el (tag : String) (attrs : Attrs) (children : List Node) :
    (el tag attrs children).labels = labelOf (tag, attrs) ++ children.flatMap labels := by
  rw [el, labels, walk, walkAll_eq_flatMap, List.flatMap_cons, List.flatMap_assoc]
  rfl

end Node

/-- The ids in the nodes are those of some fields, and there is a label for each of them. -/
structure HaveFields (nodes : List Node) (fields : List String) : Prop where
  ids : nodes.flatMap Node.ids = fields.map some
  labels : nodes.flatMap Node.labels = fields.map fun id => [some id]

namespace HaveFields

variable {nodes more : List Node} {fields others : List String}

theorem append (h : HaveFields nodes fields) (h' : HaveFields more others) :
    HaveFields (nodes ++ more) (fields ++ others) := by
  constructor
  · rw [List.flatMap_append, List.map_append, h.ids, h'.ids]
  · rw [List.flatMap_append, List.map_append, h.labels, h'.labels]

/-- An element around the nodes, which has no id and is no label. -/
theorem el {tag : String} {attrs : Attrs} (own : saidOf "id" attrs = [])
    (other : labelOf (tag, attrs) = []) (h : HaveFields nodes fields) :
    HaveFields [Markup.el tag attrs nodes] fields := by
  constructor
  · rw [List.flatMap_singleton, Node.ids_el, own, List.nil_append, h.ids]
  · rw [List.flatMap_singleton, Node.labels_el, other, List.nil_append, h.labels]

theorem of_forall (h : ∀ node ∈ nodes, HaveFields [node] []) : HaveFields nodes [] := by
  constructor
  · refine List.flatMap_eq_nil_iff.mpr fun node hn => ?_
    simpa using (h node hn).ids
  · refine List.flatMap_eq_nil_iff.mpr fun node hn => ?_
    simpa using (h node hn).labels

theorem map {α : Type} {make : α → Node} {fieldsOf : α → List String}
    (h : ∀ a, HaveFields [make a] (fieldsOf a)) (items : List α) :
    HaveFields (items.map make) (items.flatMap fieldsOf) := by
  induction items with
  | nil => exact ⟨rfl, rfl⟩
  | cons a rest ih => exact (h a).append ih

end HaveFields

end Markup

namespace Export

open Block (Metric Stage FormTexts)
open Markup
open Plain (TabMode emailId commentId)

/-! ### Fields of sections -/

/-- The ids of the fields of a block. -/
def fieldIds (position : Nat) : Block.Props → List String
  | .form _ => [emailId position, commentId position]
  | _ => []

/-- The ids of the fields of a section, none for a block of an unknown kind. -/
def fieldsOf (s : PageSection) : List String :=
  match s.props with
  | some props => fieldIds s.position props
  | none => []

namespace Plain

theorem haveFields_tab (mode : TabMode) (index : Nat) (s : Stage) :
    HaveFields [tab mode index s] [] := by
  cases mode <;> exact ⟨rfl, rfl⟩

theorem haveFields_stage (mode : TabMode) (index : Nat) (s : Stage) :
    HaveFields [stage mode index s] [] := by
  have tags : HaveFields (s.tags.map (label "span" [classAttr "tag"])) [] :=
    .of_forall (List.forall_mem_map.mpr fun _ _ => ⟨rfl, rfl⟩)
  have texts : HaveFields [label "h3" [classAttr "stage-title"] s.title,
    label "p" [classAttr "stage-description"] s.description] [] := ⟨rfl, rfl⟩
  refine .el ?_ rfl (texts.append (tags.el rfl rfl))
  cases mode <;> rfl

theorem haveFields_content (mode : TabMode) (position : Nat) (settings : ExportSettings)
    (props : Block.Props) :
    HaveFields (content mode position settings props).2 (fieldIds position props) := by
  cases props with
  | hero p => exact ⟨rfl, rfl⟩
  | stats metrics =>
    have cards : HaveFields (metrics.map metric) [] :=
      .of_forall (List.forall_mem_map.mpr fun _ _ => ⟨rfl, rfl⟩)
    exact cards.el rfl rfl
  | workflow stages =>
    have tabs : HaveFields (stages.mapIdx (tab mode)) [] := by
      refine .of_forall fun node hn => ?_
      obtain ⟨i, hi, rfl⟩ := List.mem_mapIdx.mp hn
      exact haveFields_tab mode i stages[i]
    have panels : HaveFields (stages.mapIdx (stage mode)) [] := by
      refine .of_forall fun node hn => ?_
      obtain ⟨i, hi, rfl⟩ := List.mem_mapIdx.mp hn
      exact haveFields_stage mode i stages[i]
    exact (tabs.el rfl rfl).append (panels.el rfl rfl)
  | cta p => exact ⟨rfl, rfl⟩
  | form f => exact ⟨rfl, rfl⟩

theorem haveFields_render (mode : TabMode) (settings : ExportSettings) (s : PageSection) :
    HaveFields [render mode settings s] (fieldsOf s) := by
  cases shown : s.props with
  | none =>
    rw [render, fieldsOf, shown]
    exact ⟨rfl, rfl⟩
  | some props =>
    have panel : HaveFields (s.data.map (dataPanel settings)).toList [] := by
      cases s.data <;> exact ⟨rfl, rfl⟩
    have whole := (haveFields_content mode s.position settings props).append panel
    rw [List.append_nil] at whole
    rw [render, fieldsOf, shown]
    exact whole.el rfl rfl

end Plain

namespace Kit

theorem haveFields_stage (s : Stage) : HaveFields [stage s] [] := by
  have tags (look : String) : HaveFields (s.tags.map (text "Badge" look)) [] :=
    .of_forall (List.forall_mem_map.mpr fun _ _ => ⟨rfl, rfl⟩)
  have texts : HaveFields [text "h3" "text-xl font-semibold text-white" s.title,
    Markup.label "p" [] s.description,
    el "Separator" [classAttr "bg-slate-800/60"] []] [] := ⟨rfl, rfl⟩
  exact .el rfl rfl (.el rfl rfl (texts.append ((tags _).el rfl rfl)))

theorem haveFields_body (position : Nat) (settings : ExportSettings) (props : Block.Props) :
    HaveFields [body position settings props] (fieldIds position props) := by
  cases props with
  | hero p => exact ⟨rfl, rfl⟩
  | stats metrics =>
    have cards : HaveFields (metrics.map metric) [] :=
      .of_forall (List.forall_mem_map.mpr fun _ _ => ⟨rfl, rfl⟩)
    exact cards.el rfl rfl
  | workflow stages =>
    have triggers : HaveFields (stages.map trigger) [] :=
      .of_forall (List.forall_mem_map.mpr fun _ _ => ⟨rfl, rfl⟩)
    have contents : HaveFields (stages.map stage) [] :=
      .of_forall (List.forall_mem_map.mpr fun s _ => haveFields_stage s)
    exact .el rfl rfl ((triggers.el rfl rfl).append contents)
  | cta p => exact ⟨rfl, rfl⟩
  | form f => exact ⟨rfl, rfl⟩

theorem haveFields_render (settings : ExportSettings) (s : PageSection) :
    HaveFields [render settings s] (fieldsOf s) := by
  cases shown : s.props with
  | none =>
    rw [render, fieldsOf, shown]
    exact ⟨rfl, rfl⟩
  | some props =>
    have bare := haveFields_body s.position settings props
    cases held : s.data with
    | none =>
      rw [render, fieldsOf, shown, held]
      exact bare
    | some data =>
      have panel : HaveFields [dataPanel settings data] [] := ⟨rfl, rfl⟩
      have whole := bare.append panel
      rw [List.append_nil] at whole
      rw [render, fieldsOf, shown, held]
      exact whole.el rfl rfl

end Kit

/-! ### Ids made from positions -/

theorem append_number_inj (before : String) {m n : Nat} :
    before ++ toString (m + 1) = before ++ toString (n + 1) ↔ m = n := by
  refine ⟨fun same => ?_, fun same => same ▸ rfl⟩
  have digits := congrArg String.toList ((String.append_right_inj before).mp same)
  have numbers := congrArg (Nat.ofDigitChars 10 · 0) digits
  simp only [Text.ofDigitChars_toString] at numbers
  exact Nat.succ.inj numbers

theorem emailId_ne_commentId (m n : Nat) : emailId m ≠ commentId n := by
  intro same
  have first := congrArg (fun id => id.toList.head?) same
  simp [emailId, commentId] at first

theorem mem_fieldsOf {s : PageSection} {id : String} (h : id ∈ fieldsOf s) :
    id = emailId s.position ∨ id = commentId s.position := by
  unfold fieldsOf fieldIds at h
  split at h
  · split at h
    · simpa using h
    · cases h
  · cases h

theorem nodup_fieldsOf (s : PageSection) : (fieldsOf s).Nodup := by
  unfold fieldsOf fieldIds
  split
  · split
    · simp [emailId_ne_commentId]
    · exact List.nodup_nil
  · exact List.nodup_nil

theorem nodup_fields {sections : List PageSection}
    (positions : (sections.map PageSection.position).Nodup) :
    (sections.flatMap fieldsOf).Nodup := by
  refine List.nodup_flatMap.mpr ⟨fun s _ => nodup_fieldsOf s, ?_⟩
  refine (List.pairwise_map.mp positions).imp fun {a b} apart id ha hb => apart ?_
  rcases mem_fieldsOf ha with rfl | rfl <;> rcases mem_fieldsOf hb with same | same
  · exact (append_number_inj "email-").mp same
  · exact absurd same (emailId_ne_commentId _ _)
  · exact absurd same.symm (emailId_ne_commentId _ _)
  · exact (append_number_inj "comment-").mp same

theorem root_not_mem_fields (sections : List PageSection) :
    "root" ∉ sections.flatMap fieldsOf := by
  intro h
  obtain ⟨s, -, h⟩ := List.mem_flatMap.mp h
  rcases mem_fieldsOf h with same | same
  all_goals
    have first := congrArg (fun id => id.toList.head?) same
    simp [emailId, commentId] at first

/-! ### Pages and projects -/

/-- The trees that are written for a page or a project, and the blocks, which are inside. -/
structure Rendering where
  trees : List Node
  blocks : List Node

namespace Rendering

def ids (r : Rendering) : List (Option String) :=
  r.trees.flatMap Node.ids

/-- All ids are known and distinct. Every label is in a block and has one target, which is an id
that one element has, and that element is in the block. -/
structure Linked (r : Rendering) : Prop where
  known : none ∉ r.ids
  distinct : r.ids.Nodup
  inside : r.trees.flatMap Node.labels = r.blocks.flatMap Node.labels
  linked : ∀ block ∈ r.blocks, ∀ targets ∈ block.labels,
    ∃ id, targets = [some id] ∧ r.ids.count (some id) = 1 ∧ some id ∈ block.ids

/-- What is around the blocks has no labels, and ids of its own at most. -/
theorem linked_of_haveFields {render : PageSection → Node} {sections : List PageSection}
    (shows : ∀ s, HaveFields [render s] (fieldsOf s)) {trees : List Node} (own : List String)
    (ids : trees.flatMap Node.ids = (own ++ sections.flatMap fieldsOf).map some)
    (labels : trees.flatMap Node.labels = (sections.flatMap fieldsOf).map fun id => [some id])
    (distinct : (own ++ sections.flatMap fieldsOf).Nodup) :
    Linked ⟨trees, sections.map render⟩ := by
  have nodup : (trees.flatMap Node.ids).Nodup :=
    ids ▸ distinct.map fun _ _ => Option.some.inj
  refine ⟨?_, nodup, ?_, List.forall_mem_map.mpr fun s hs targets ht => ?_⟩
  · simp [Rendering.ids, ids]
  · rw [labels, (HaveFields.map shows sections).labels]
  · have fields := shows s
    rw [show (render s).labels = _ by simpa using fields.labels] at ht
    obtain ⟨id, hid, rfl⟩ := List.mem_map.mp ht
    have held : some id ∈ trees.flatMap Node.ids := by
      rw [ids]
      exact List.mem_map_of_mem (List.mem_append_right own (List.mem_flatMap_of_mem hs hid))
    refine ⟨id, rfl, List.count_eq_one_of_mem nodup held, ?_⟩
    rw [show (render s).ids = _ by simpa using fields.ids]
    exact List.mem_map_of_mem hid

end Rendering

/-- What an export shows. A component of a project has a tree of its own. -/
def rendering (format : ExportFormat) (sections : List PageSection) (name : String)
    (settings : ExportSettings) : Rendering :=
  match format with
  | .html => ⟨[indexTree sections name settings], sections.map (Plain.render .script settings)⟩
  | .react =>
    ⟨React.hostTree name settings :: sections.map (Plain.render .state settings),
      sections.map (Plain.render .state settings)⟩
  | .nextjs => ⟨sections.map (Kit.render settings), sections.map (Kit.render settings)⟩

def previewRendering (sections : List PageSection) (name : String) (settings : ExportSettings) :
    Rendering :=
  ⟨[previewTree sections name settings], sections.map (Plain.render .script settings)⟩

theorem haveFields_headTree (title : String) (settings : ExportSettings) {extra : List Node}
    (silent : HaveFields extra []) : HaveFields [headTree title settings extra] [] :=
  .el rfl rfl (HaveFields.append (⟨rfl, rfl⟩ : HaveFields _ []) silent)

section Pages

variable {render : PageSection → Node} (shows : ∀ s, HaveFields [render s] (fieldsOf s))

include shows

/-- On a page with blocks in an element of its body, only the blocks have fields. -/
theorem haveFields_page {extra : List Node} (silent : HaveFields extra []) {script : Node}
    (quiet : HaveFields [script] []) {tag : String} {attrs : Attrs} (own : saidOf "id" attrs = [])
    (other : labelOf (tag, attrs) = []) (sections : List PageSection) (title : String)
    (settings : ExportSettings) :
    HaveFields
      [pageTree title settings extra (el "body" [] [el tag attrs (sections.map render), script])]
      (sections.flatMap fieldsOf) := by
  have head := haveFields_headTree title settings silent
  have inside := ((HaveFields.map shows sections).el own other).append quiet
  rw [List.append_nil] at inside
  have body : HaveFields [el "body" [] _] _ := inside.el rfl rfl
  exact .el rfl rfl (head.append body)

end Pages

theorem linked_rendering (format : ExportFormat) {sections : List PageSection}
    (positions : (sections.map PageSection.position).Nodup) (name : String)
    (settings : ExportSettings) : (rendering format sections name settings).Linked := by
  have distinct := nodup_fields positions
  cases format with
  | html =>
    have shows := Plain.haveFields_render .script settings
    have page : HaveFields [indexTree sections name settings] (sections.flatMap fieldsOf) :=
      haveFields_page shows ⟨rfl, rfl⟩ ⟨rfl, rfl⟩ rfl rfl sections name settings
    exact Rendering.linked_of_haveFields shows [] page.ids page.labels distinct
  | react =>
    have blocks := HaveFields.map (Plain.haveFields_render .state settings) sections
    refine Rendering.linked_of_haveFields (Plain.haveFields_render .state settings) ["root"] ?_ ?_
      (List.nodup_cons.mpr ⟨root_not_mem_fields sections, distinct⟩)
    · rw [List.flatMap_cons, blocks.ids]
      rfl
    · rw [List.flatMap_cons, blocks.labels]
      rfl
  | nextjs =>
    have blocks := HaveFields.map (Kit.haveFields_render settings) sections
    exact Rendering.linked_of_haveFields (Kit.haveFields_render settings) [] blocks.ids
      blocks.labels distinct

theorem linked_previewRendering {sections : List PageSection}
    (positions : (sections.map PageSection.position).Nodup) (name : String)
    (settings : ExportSettings) : (previewRendering sections name settings).Linked := by
  have shows := Plain.haveFields_render .script settings
  have page : HaveFields [previewTree sections name settings] (sections.flatMap fieldsOf) :=
    haveFields_page shows ⟨rfl, rfl⟩ ⟨rfl, rfl⟩ rfl rfl sections name settings
  exact Rendering.linked_of_haveFields shows [] page.ids page.labels
    (nodup_fields positions)

/-! ### Files with the trees -/

theorem writtenIn_pageText (tree : Node) : tree.WrittenIn (pageText tree) :=
  ⟨.html, 0, "<!DOCTYPE html>\n", "\n", rfl⟩

theorem writtenIn_document {tree : Node} (dialect : Dialect) (depth : Nat) {lines : List String}
    (h : Markup.render [tree] dialect depth ∈ lines) : tree.WrittenIn (Text.document lines) := by
  obtain ⟨before, behind, rfl⟩ := List.append_of_mem h
  refine ⟨dialect, depth, Text.document before, "\n" ++ Text.document behind, ?_⟩
  rw [Text.document_append, Text.document_cons]
  simp only [String.append_assoc]

theorem exists_file_of_mem_trees (format : ExportFormat) (sections : List PageSection)
    (name : String) (settings : ExportSettings) :
    ∀ tree ∈ (rendering format sections name settings).trees,
      ∃ f ∈ filesFor format sections name settings, tree.WrittenIn f.content := by
  intro tree ht
  cases format with
  | html =>
    obtain rfl := List.mem_singleton.mp ht
    exact ⟨_, List.mem_cons_self, writtenIn_pageText _⟩
  | react =>
    rcases List.mem_cons.mp ht with rfl | ht
    · refine ⟨⟨"public/index.html", React.hostPage name settings⟩, ?_, writtenIn_pageText _⟩
      exact List.mem_append_right _ (List.mem_cons_of_mem _ List.mem_cons_self)
    · obtain ⟨s, hs, rfl⟩ := List.mem_map.mp ht
      refine ⟨_, React.component_mem_files hs name settings, writtenIn_document .jsx 2 ?_⟩
      exact List.mem_append_right _ (List.mem_cons_of_mem _ List.mem_cons_self)
  | nextjs =>
    obtain ⟨s, hs, rfl⟩ := List.mem_map.mp ht
    refine ⟨_, Next.component_mem_files hs name settings, writtenIn_document .jsx 2 ?_⟩
    exact List.mem_append_right _ (by simp)

/-- The trees of an export and of a preview have distinct ids, and each label in them is for one
element, in the block that the label is in. They are what the files and the page show. -/
theorem ids_linked (canvas : Canvas) (name : String) (sources : List DataSource)
    (live : Option LiveCache) (settings : ExportSettings) :
    (∀ format, let shown := rendering format (canvas.sections sources) name settings
      shown.Linked ∧ ∀ tree ∈ shown.trees,
        ∃ f ∈ (generate format canvas name sources settings).files, tree.WrittenIn f.content) ∧
      let shown := previewRendering (previewSections canvas sources live) name settings
      shown.Linked ∧ ∀ tree ∈ shown.trees,
        tree.WrittenIn (previewPage canvas name sources live settings) := by
  have numbered (make : Nat → PlacedBlock → PageSection)
      (placed : ∀ position block, (make position block).position = position) :
      ((PageSection.number make 0 canvas.blocks).map PageSection.position).Nodup := by
    rw [PageSection.map_position_number placed]
    exact List.nodup_range'
  refine ⟨fun format => ⟨?_, exists_file_of_mem_trees format _ name settings⟩, ?_, ?_⟩
  · exact linked_rendering format (numbered _ fun _ _ => rfl) name settings
  · exact linked_previewRendering (numbered _ fun _ _ => rfl) name settings
  · intro tree ht
    obtain rfl := List.mem_singleton.mp ht
    exact writtenIn_pageText _

/-- Two forms with a block of an unknown kind between them. -/
theorem ids_linked_two_forms :
    let block (blockId : String) : PlacedBlock := ⟨"block", blockId, .null, none, none⟩
    let canvas : Canvas := ⟨[block "form", block "map", block "form"], none⟩
    let shown := rendering .react (canvas.sections []) "Site" {}
    shown.ids = ["root", "email-1", "comment-1", "email-3", "comment-3"].map some ∧
      (∃ second, shown.blocks[2]? = some second ∧
        second.labels = [[some "email-3"], [some "comment-3"]] ∧
        shown.ids.count (some "email-3") = 1 ∧ some "email-3" ∈ second.ids) ∧
      shown.ids.Nodup := by
  intro block canvas shown
  obtain ⟨exported, -⟩ := ids_linked canvas "Site" [] none {}
  obtain ⟨-, distinct, -, linked⟩ := (exported .react).1
  have labels : ((shown.blocks[2]?).map Node.labels) =
      some [[some "email-3"], [some "comment-3"]] := by
    decide
  obtain ⟨second, held, labelsAre⟩ := Option.map_eq_some_iff.mp labels
  have target : [some "email-3"] ∈ second.labels := by
    rw [labelsAre]
    exact List.mem_cons_self
  obtain ⟨id, same, count, inside⟩ := linked second (List.mem_of_getElem? held) _ target
  obtain rfl : "email-3" = id := by simpa using same
  exact ⟨by decide, ⟨second, held, labelsAre, count, inside⟩, distinct⟩

end Export

end PageBuilder
