import PageBuilder.Binding.Resolve
/-! What mapped values make of props. Lists of mappings act on props one after the other: of the
mappings for one prop the last that leads to a value decides, and props without such a mapping
stay as they are, in their places. -/
namespace PageBuilder.Binding

open Json (Value Members)

/-- The mapping leads to a value in the data. -/
def Leads (data : Value) (m : FieldMapping) : Prop :=
  (lookup data m.sourcePath).isSome = true

instance (data : Value) : DecidablePred (Leads data) :=
  fun m => inferInstanceAs (Decidable ((lookup data m.sourcePath).isSome = true))

/-- The targets of the mappings that lead to a value, in the order of the mappings. -/
def targets (data : Value) (mappings : List FieldMapping) : List String :=
  (mappings.filter fun m => Leads data m).map FieldMapping.targetProp

/-- The members of props; props that are no object have none. -/
def membersOf (base : Value) : Members :=
  base.members?.getD []

theorem get?_membersOf (key : String) (base : Value) :
    Assoc.get? key (membersOf base) = base.member? key := by
  cases base <;> rfl

/-! ### The values found -/

section

variable {data : Value}

theorem updates_append (earlier later : List FieldMapping) :
    updates data (earlier ++ later) = updates data earlier ++ updates data later :=
  List.filterMap_append

theorem updates_cons_of_lookup {m : FieldMapping} {v : Value}
    (found : lookup data m.sourcePath = some v) (rest : List FieldMapping) :
    updates data (m :: rest) = (m.targetProp, v) :: updates data rest := by
  simp [updates, found]

theorem keys_updates (mappings : List FieldMapping) :
    Assoc.keys (updates data mappings) = targets data mappings := by
  induction mappings with
  | nil => rfl
  | cons m rest ih =>
    unfold updates targets Leads Assoc.keys at *
    cases found : lookup data m.sourcePath <;> simp [found, ih]

theorem updates_eq_nil_iff {mappings : List FieldMapping} :
    updates data mappings = [] ↔ ∀ m ∈ mappings, ¬ Leads data m := by
  simp [updates, Leads]

/-- No mapping for the key leads to a value. -/
theorem not_mem_targets_iff {mappings : List FieldMapping} {key : String} :
    key ∉ targets data mappings ↔ ∀ m ∈ mappings, m.targetProp = key → ¬ Leads data m := by
  simp only [targets, List.mem_map, List.mem_filter, decide_eq_true_eq]
  constructor
  · intro none m hm target leads
    exact none ⟨m, ⟨hm, leads⟩, target⟩
  · rintro none ⟨m, ⟨hm, leads⟩, target⟩
    exact none m hm target leads

theorem get?_reverse_updates_eq_none {mappings : List FieldMapping} {key : String}
    (h : key ∉ targets data mappings) : Assoc.get? key (updates data mappings).reverse = none := by
  rw [Assoc.get?_eq_none_iff, Assoc.keys, List.map_reverse, List.mem_reverse]
  change key ∉ Assoc.keys (updates data mappings)
  rwa [keys_updates]

/-- The last mapping for a key that leads to a value decides on the value found for it. -/
theorem get?_reverse_updates {earlier later : List FieldMapping} {m : FieldMapping} {v : Value}
    (found : lookup data m.sourcePath = some v) (last : m.targetProp ∉ targets data later) :
    Assoc.get? m.targetProp (updates data (earlier ++ m :: later)).reverse = some v := by
  rw [updates_append, updates_cons_of_lookup found, List.reverse_append, List.reverse_cons,
    List.append_assoc, Assoc.get?_append, get?_reverse_updates_eq_none last, Option.none_or,
    List.singleton_append, Assoc.get?_cons_self]

end

/-! ### Props with values put over them -/

theorem project_of_updates_eq_nil {data : Value} {mappings : List FieldMapping}
    (h : updates data mappings = []) (base : Value) : project base data mappings = base := by
  rw [project, h]

theorem project_of_updates_ne_nil {data : Value} {mappings : List FieldMapping}
    (h : updates data mappings ≠ []) (base : Value) :
    project base data mappings =
      .object ((updates data mappings).foldl (fun props u => Assoc.put u.1 u.2 props)
        (membersOf base)) := by
  unfold project
  split
  · exact absurd ‹_› h
  · rfl

theorem project_append (base data : Value) (earlier later : List FieldMapping) :
    project base data (earlier ++ later) = project (project base data earlier) data later := by
  by_cases before : updates data earlier = []
  · have same : updates data (earlier ++ later) = updates data later := by
      rw [updates_append, before, List.nil_append]
    rw [project_of_updates_eq_nil before, project, project, same]
  · have some : updates data (earlier ++ later) ≠ [] := by
      rw [updates_append]
      exact List.append_ne_nil_of_left_ne_nil before _
    rw [project_of_updates_ne_nil some, project_of_updates_ne_nil before, updates_append,
      List.foldl_append]
    by_cases behind : updates data later = []
    · rw [project_of_updates_eq_nil behind, behind]
      rfl
    · rw [project_of_updates_ne_nil behind]
      rfl

/-- Mappings act one list after the other. Where none leads to a value the props stay whatever
they are. Else they become an object in which the last mapping of a key that leads to a value
decides on that key, every other key holds what it held, and new keys stand behind the old ones
in the order of the first mappings that lead to a value for them. -/
theorem project_last_wins (base data : Value) :
    (∀ earlier later, project base data (earlier ++ later) =
      project (project base data earlier) data later) ∧
    ∀ mappings,
      ((∀ m ∈ mappings, ¬ Leads data m) → project base data mappings = base) ∧
      ((∃ m ∈ mappings, Leads data m) → ∃ props, project base data mappings = .object props ∧
        (∀ earlier m later v, mappings = earlier ++ m :: later →
          lookup data m.sourcePath = some v →
          (∀ n ∈ later, n.targetProp = m.targetProp → ¬ Leads data n) →
          Assoc.get? m.targetProp props = some v) ∧
        (∀ key, (∀ m ∈ mappings, m.targetProp = key → ¬ Leads data m) →
          Assoc.get? key props = base.member? key) ∧
        Assoc.keys props = Assoc.keys (membersOf base) ++
          ((targets data mappings).filter fun key =>
            key ∉ Assoc.keys (membersOf base)).eraseDups) := by
  refine ⟨project_append base data, fun mappings => ⟨fun none => ?_, fun some => ?_⟩⟩
  · exact project_of_updates_eq_nil (updates_eq_nil_iff.mpr none) base
  · have found : updates data mappings ≠ [] := by
      intro none
      obtain ⟨m, hm, leads⟩ := some
      exact updates_eq_nil_iff.mp none m hm leads
    refine ⟨_, project_of_updates_ne_nil found base, ?_, ?_, ?_⟩
    · rintro earlier m later v rfl value last
      rw [Assoc.get?_foldl_put, get?_reverse_updates value (not_mem_targets_iff.mpr last),
        Option.some_or]
    · intro key untouched
      rw [Assoc.get?_foldl_put,
        get?_reverse_updates_eq_none (not_mem_targets_iff.mpr untouched), Option.none_or,
        get?_membersOf]
    · rw [Assoc.keys_foldl_put, keys_updates]

/-- Two mappings for one prop lead to values, a later one for it to nothing, and one for another
prop only to a null. -/
theorem project_last_wins_repeated_target :
    let data : Value := .object [("user", .object [("name", .string "Ada"), ("nick", .null)]),
      ("tags", .array [.string "new", .string "old"])]
    let base : Value := .object [("title", .string "Base"), ("badge", .string "Hot")]
    let named : FieldMapping := ⟨"user.name", "title"⟩
    let tagged : FieldMapping := ⟨"tags[1]", "title"⟩
    let mappings : List FieldMapping := [⟨"tags.0", "note"⟩, named, ⟨"user.nick", "badge"⟩, tagged,
      ⟨"tags[2]", "title"⟩]
    (∃ m ∈ mappings, Leads data m) ∧ (∀ m ∈ [⟨"user.nick", "badge"⟩], ¬ Leads data m) ∧
      project base data [⟨"user.nick", "badge"⟩] = base ∧
      ∃ props, project base data mappings = .object props ∧
        Assoc.get? "title" props = some (.string "old") ∧
        Assoc.get? "badge" props = some (.string "Hot") ∧
        Assoc.keys props = ["title", "badge", "note"] := by
  intro data base named tagged mappings
  have leads : ∃ m ∈ mappings, Leads data m := ⟨named, by simp [mappings], by decide⟩
  have lost : ∀ m ∈ [(⟨"user.nick", "badge"⟩ : FieldMapping)], ¬ Leads data m := by decide
  have law := (project_last_wins base data).2
  obtain ⟨props, object, last, untouched, keys⟩ := (law mappings).2 leads
  refine ⟨leads, lost, (law _).1 lost, props, object, ?_, ?_, ?_⟩
  · exact last (mappings.take 3) tagged [⟨"tags[2]", "title"⟩] (.string "old") rfl (by decide)
      (by decide)
  · exact untouched "badge" (by decide)
  · rw [keys]
    decide

end PageBuilder.Binding
