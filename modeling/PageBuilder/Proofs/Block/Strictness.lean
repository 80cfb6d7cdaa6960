import PageBuilder.Proofs.Block.Items
import PageBuilder.Proofs.Block.Retraction
import PageBuilder.Proofs.Json.Nested
/-! Props that are read strictly are repaired to the same props: both readers look under the same
names for the same types. -/
namespace PageBuilder.Block

open Json

/-! ### Fields that are read -/

section

variable {name key : String} {fields : List Field} (distinct : (fields.map Field.name).Nodup)
  {members : Members} {w : Value}
  (h : (Shape.record name fields).conform (.object members) = .ok w)
include distinct h

theorem textAt?_of_conform (hf : .required key .string ∈ fields) :
    (Value.object members).textAt? key = some (w.textAt key) := by
  obtain ⟨v, r, held, plain, taken⟩ := exists_member?_of_conform distinct hf h rfl
  obtain ⟨s, rfl, rfl⟩ := conform_string_eq_ok_iff.mp taken
  rw [Field.name] at held plain
  simp [Value.textAt?, Value.textAt, Value.textOr, held, plain, Value.string?]

theorem textOr_of_conform (hf : .required key .string ∈ fields) (fallback : String) :
    (Value.object members).textOr fallback key = w.textAt key := by
  have held := textAt?_of_conform distinct h hf
  rw [Value.textAt?] at held
  rw [Value.textOr, held, Option.getD_some]

theorem forall₂_itemsAt_of_conform {shape : Shape} (hf : .required key (.list shape) ∈ fields) :
    List.Forall₂ (fun item r => shape.conform item = .ok r)
      ((Value.object members).itemsAt key) (w.itemsAt key) := by
  obtain ⟨v, r, held, plain, taken⟩ := exists_member?_of_conform distinct hf h rfl
  obtain ⟨items, read, rfl, rfl, each⟩ := conform_list_eq_ok_iff.mp taken
  rw [Field.name] at held plain
  rwa [Value.itemsAt_of_member? held, Value.itemsAt_of_member? plain]

end

/-! ### Records -/

variable {members : Members} {w : Value}

theorem Pitch.repair_of_conform {name : String} (d : Pitch)
    (h : (Shape.record name pitchFields).conform (.object members) = .ok w) :
    d.repair (.object members) = Pitch.ofPlain w := by
  rw [Pitch.repair, Pitch.ofPlain]
  congr 1 <;> exact textOr_of_conform (by decide) h (by simp [pitchFields]) _

theorem FormTexts.repair_of_conform (d : FormTexts)
    (h : (Kind.shape .form).conform (.object members) = .ok w) :
    d.repair (.object members) = FormTexts.ofPlain w := by
  rw [FormTexts.repair, FormTexts.ofPlain]
  congr 1 <;> exact textOr_of_conform (by decide) h (by simp) _

theorem Metric.repair_of_conform (d : Metric)
    (h : metricShape.conform (.object members) = .ok w) :
    d.repair (.object members) = Metric.ofPlain w := by
  rw [Metric.repair, Metric.ofPlain]
  congr 1 <;> exact textOr_of_conform (by decide) h (by simp) _

theorem eq_of_forall₂_string {items read : List Value}
    (h : List.Forall₂ (fun item r => Shape.string.conform item = .ok r) items read) :
    items = read := by
  refine List.forall₂_eq_eq_eq ▸ h.imp fun item r taken => ?_
  obtain ⟨s, rfl, rfl⟩ := conform_string_eq_ok_iff.mp taken
  rfl

theorem Stage.repair_of_conform (d : Stage)
    (h : stageShape.conform (.object members) = .ok w) (valid : (Stage.ofPlain w).Valid) :
    d.repair (.object members) = Stage.ofPlain w := by
  have id : solidTextOr d.id "id" (.object members) = w.textAt "id" := by
    rw [solidTextOr, textAt?_of_conform (by decide) h (by simp)]
    exact if_neg (by simpa [ofPlain] using valid.id)
  have tags : tagsOr d.tags "tags" (.object members) =
      (w.itemsAt "tags").filterMap Value.string? := by
    have held : (Value.object members).itemsAt "tags" = w.itemsAt "tags" :=
      eq_of_forall₂_string (forall₂_itemsAt_of_conform (by decide) h (by simp))
    refine tagsOr_of_solid ?_ valid.tags_ne_nil
    rw [held]
    exact List.filter_eq_self.mpr fun tag ht => by simpa using valid.tags tag ht
  rw [Stage.repair, Stage.ofPlain, id, tags]
  congr 1 <;> exact textOr_of_conform (by decide) h (by simp) _

/-! ### Lists of records -/

/-- If props of the kind have a list, it is an array of objects. -/
def ListsObjects (kind : Kind) (v : Value) : Prop :=
  ∀ key, kind.listKey? = some key → ∀ list, v.member? key = some list →
    ∃ items, list = .array items ∧ ∀ item ∈ items, item.isObject = true

theorem ListsObjects.exists_members {kind : Kind} {v : Value} (h : ListsObjects kind v)
    {key : String} (listed : kind.listKey? = some key) {item : Value}
    (hi : item ∈ v.itemsAt key) : ∃ members, item = .object members := by
  cases held : v.member? key with
  | none => simp [Value.itemsAt, held] at hi
  | some list =>
    obtain ⟨items, rfl, objects⟩ := h key listed list held
    rw [Value.itemsAt_of_member? held] at hi
    have := objects item hi
    cases item with
    | object members => exact ⟨members, rfl⟩
    | _ => cases this

/-- Items are repaired as they are read if that holds of those that are objects. -/
theorem ListsObjects.repair_items {α : Type} {kind : Kind} {v : Value} (h : ListsObjects kind v)
    {key : String} (listed : kind.listKey? = some key) {shape : Shape} {plain : List Value}
    {repair : α → Value → α} {read : Value → α}
    (taken : List.Forall₂ (fun item r => shape.conform item = .ok r) (v.itemsAt key) plain)
    (each : ∀ r ∈ plain, ∀ members, shape.conform (.object members) = .ok r →
      ∀ d, repair d (.object members) = read r) :
    List.Forall₂ (fun item x => ∀ d, repair d item = x) (v.itemsAt key) (plain.map read) := by
  -- An array would be read as a record too, but repair takes nothing from it.
  obtain ⟨length, taken⟩ := List.forall₂_iff_zip.mp taken
  refine List.forall₂_map_right_iff.mpr (List.forall₂_iff_zip.mpr ⟨length, fun pair => ?_⟩)
  obtain ⟨hi, hr⟩ := List.of_mem_zip pair
  obtain ⟨members, rfl⟩ := h.exists_members listed hi
  exact each _ hr members (taken pair)

/-! ### Props -/

theorem Props.repair_of_read {kind : Kind} {p : Props}
    (objects : ListsObjects kind (.object members))
    (h : Props.read kind (.object members) = .ok p) (valid : p.Valid) :
    Props.repair kind (.object members) = p := by
  obtain ⟨w, taken, rfl⟩ := map_eq_ok_iff.mp h
  cases kind with
  | hero => exact congrArg Props.hero (newHero.repair_of_conform taken)
  | cta => exact congrArg Props.cta (newCta.repair_of_conform taken)
  | form => exact congrArg Props.form (newForm.repair_of_conform taken)
  | stats =>
    have items : List.Forall₂ (fun item r => metricShape.conform item = .ok r)
        ((Value.object members).itemsAt "metrics") (w.itemsAt "metrics") :=
      forall₂_itemsAt_of_conform (by decide) taken (by simp)
    have same := objects.repair_items rfl items fun _ _ _ read d => Metric.repair_of_conform d read
    exact congrArg Props.stats (repairList_of_forall₂ same valid ..)
  | workflow =>
    have items : List.Forall₂ (fun item r => stageShape.conform item = .ok r)
        ((Value.object members).itemsAt "stages") (w.itemsAt "stages") :=
      forall₂_itemsAt_of_conform (by decide) taken (by simp)
    have same := objects.repair_items rfl items fun _ hr _ read d =>
      Stage.repair_of_conform d read (valid.2 _ (List.mem_map_of_mem hr))
    exact congrArg Props.workflow (repairList_of_forall₂ same valid.1 ..)

/-! ### What is written is read -/

theorem Pitch.conform_toValue (p : Pitch) (name : String) :
    (Shape.record name pitchFields).conform p.toValue = .ok p.toValue :=
  conform_record_of_members (by simp [pitchFields]) rfl

theorem FormTexts.conform_toValue (f : FormTexts) :
    (Kind.shape .form).conform f.toValue = .ok f.toValue :=
  conform_record_of_members (by simp) rfl

theorem Metric.conform_toValue (m : Metric) : metricShape.conform m.toValue = .ok m.toValue :=
  conform_record_of_members (by simp) rfl

theorem Stage.conform_toValue (s : Stage) : stageShape.conform s.toValue = .ok s.toValue := by
  have tags : (Shape.list .string).conform (.array (s.tags.map .string)) =
      .ok (.array (s.tags.map .string)) :=
    conform_list_of_items (by simp)
  exact conform_record_of_members (by simp [tags]) rfl

theorem Stage.ofPlain_toValue (s : Stage) : ofPlain s.toValue = s := by
  have tags : (s.toValue.itemsAt "tags").filterMap Value.string? = s.tags :=
    filterMap_string s.tags
  rw [ofPlain, tags]
  rfl

theorem Props.conform_toValue (p : Props) : p.kind.shape.conform p.toValue = .ok p.toValue := by
  cases p with
  | hero pitch | cta pitch => exact pitch.conform_toValue _
  | form texts => exact texts.conform_toValue
  | stats metrics =>
    have list : (Shape.list metricShape).conform (.array (metrics.map Metric.toValue)) =
        .ok (.array (metrics.map Metric.toValue)) :=
      conform_list_of_items (by simp [Metric.conform_toValue])
    exact conform_record_of_members (by simp [list]) rfl
  | workflow stages =>
    have list : (Shape.list stageShape).conform (.array (stages.map Stage.toValue)) =
        .ok (.array (stages.map Stage.toValue)) :=
      conform_list_of_items (by simp [Stage.conform_toValue])
    exact conform_record_of_members (by simp [list]) rfl

theorem Props.ofPlain_toValue (p : Props) : ofPlain p.kind p.toValue = p := by
  cases p with
  | hero | cta | form => rfl
  | stats metrics =>
    refine congrArg Props.stats ((List.map_map ..).trans ?_)
    exact List.map_id metrics
  | workflow stages =>
    refine congrArg Props.workflow ((List.map_map ..).trans ?_)
    rw [Function.comp_def, funext Stage.ofPlain_toValue, List.map_id']

theorem Props.read_toValue (p : Props) : Props.read p.kind p.toValue = .ok p := by
  rw [Props.read, conform_toValue, Except.map, ofPlain_toValue]

/-! ### Agreement -/

/-- An object that is read strictly as valid props, with objects in its list if its kind has one,
is repaired to those very props. What repair makes of any value is read strictly as it is. -/
theorem Props.read_agrees_with_repair :
    (∀ (kind : Kind) (members : Members) (p : Props), ListsObjects kind (.object members) →
      Props.read kind (.object members) = .ok p → p.Valid →
      Props.repair kind (.object members) = p) ∧
    ∀ (kind : Kind) (v : Value),
      Props.read kind (Props.repair kind v).toValue = .ok (Props.repair kind v) := by
  refine ⟨fun kind members p => repair_of_read, fun kind v => ?_⟩
  have read := read_toValue (Props.repair kind v)
  rwa [kind_repair] at read

/-- More stages than a new workflow has, their members in another order and one unknown. -/
theorem Props.read_agrees_with_repair_four_stages :
    let ids := ["a", "b", "plan", "d"]
    let member (id : String) : Value :=
      .object [("tags", .array [.string "new"]), ("title", .string ""), ("color", .null),
        ("id", .string id), ("description", .string " "), ("label", .string "Go")]
    let members : Members := [("theme", .bool true), ("stages", .array (ids.map member))]
    let p := Props.workflow (ids.map fun id => ⟨id, "Go", "", " ", ["new"]⟩)
    ListsObjects .workflow (.object members) ∧ Props.read .workflow (.object members) = .ok p ∧
      p.Valid ∧ Props.repair .workflow (.object members) = p := by
  intro ids member members p
  have objects : ListsObjects .workflow (.object members) := by
    intro key listed list held
    cases listed
    cases held
    refine ⟨_, rfl, fun item hi => ?_⟩
    obtain ⟨id, -, rfl⟩ := List.mem_map.mp hi
    rfl
  have valid : p.Valid := by
    refine ⟨List.cons_ne_nil _ _, fun s hs => ?_⟩
    obtain ⟨id, hid, rfl⟩ := List.mem_map.mp hs
    have solid : ∀ id ∈ ids, Text.isBlank id = false := by decide
    have tags : ∀ tag ∈ ["new"], Text.isBlank tag = false := by decide
    exact ⟨solid id hid, List.cons_ne_nil _ _, tags⟩
  exact ⟨objects, rfl, valid, read_agrees_with_repair.1 .workflow members p objects rfl valid⟩

end PageBuilder.Block
