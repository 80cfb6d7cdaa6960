import PageBuilder.Store.Sources
/-! The sources of a project among the records of a store. Records are looked up by a
test that asks for the project and for something of the source; what is found or changed
by it in the records is found or changed in the list of the project's sources. -/
namespace PageBuilder

theorem modifyFirst_append {α : Type} {p : α → Bool} {x : α} {earlier : List α}
    (passed : ∀ y ∈ earlier, p y = false) (found : p x = true) (change : α → α)
    (later : List α) :
    modifyFirst p change (earlier ++ x :: later) = earlier ++ change x :: later := by
  induction earlier with
  | nil => simp [modifyFirst, found]
  | cons y rest ih =>
    have head := passed y (List.mem_cons_self ..)
    have tail := ih fun z hz => passed z (List.mem_cons_of_mem _ hz)
    simp [modifyFirst, head, tail]

theorem modifyFirst_eq_modify {α : Type} (p : α → Bool) (change : α → α) (xs : List α) :
    modifyFirst p change xs = xs.modify (xs.findIdx p) change := by
  induction xs with
  | nil => rfl
  | cons x rest ih =>
    rw [modifyFirst, List.findIdx_cons, ih]
    cases p x <;> rfl

theorem mem_modifyFirst {α : Type} {p : α → Bool} {change : α → α} {xs : List α} {y : α}
    (h : y ∈ modifyFirst p change xs) : y ∈ xs ∨ ∃ x ∈ xs, change x = y := by
  induction xs with
  | nil => cases h
  | cons x rest ih =>
    rw [modifyFirst] at h
    split at h
    · rcases List.mem_cons.mp h with rfl | later
      · exact .inr ⟨x, List.mem_cons_self .., rfl⟩
      · exact .inl (List.mem_cons_of_mem _ later)
    · rcases List.mem_cons.mp h with rfl | later
      · exact .inl (List.mem_cons_self ..)
      · rcases ih later with old | ⟨z, hz, rfl⟩
        · exact .inl (List.mem_cons_of_mem _ old)
        · exact .inr ⟨z, List.mem_cons_of_mem _ hz, rfl⟩

/-- An element stays, unless it is the first of which `p` holds. -/
theorem mem_or_mem_modifyFirst {α : Type} {p : α → Bool} (change : α → α) {xs : List α} {x : α}
    (h : x ∈ xs) : x ∈ modifyFirst p change xs ∨
      xs.find? p = some x ∧ change x ∈ modifyFirst p change xs := by
  induction xs with
  | nil => cases h
  | cons y rest ih =>
    rw [modifyFirst, List.find?_cons]
    cases p y with
    | true =>
      rcases List.mem_cons.mp h with rfl | later
      · exact .inr ⟨rfl, List.mem_cons_self ..⟩
      · exact .inl (List.mem_cons_of_mem _ later)
    | false =>
      rcases List.mem_cons.mp h with rfl | later
      · exact .inl (List.mem_cons_self ..)
      · exact (ih later).imp (List.mem_cons_of_mem _) (.imp_right (List.mem_cons_of_mem _))

namespace SourceRecord

/-- A test for the project and for something of the source. -/
def Asks (projectId : String) (p : DataSource → Bool) (test : SourceRecord → Bool) : Prop :=
  ∀ r, test r = (decide (r.projectId = projectId) && p r.source)

theorem asks_isOf (projectId sourceId : String) :
    Asks projectId (fun s => s.id = sourceId) (isOf projectId sourceId) :=
  fun _ => Bool.and_comm ..

theorem asks_holds (projectId sampleId : String) :
    Asks projectId (fun s => (s.sample? sampleId).isSome) (holds projectId sampleId) :=
  fun _ => rfl

variable {projectId : String} {p : DataSource → Bool} {test : SourceRecord → Bool}

theorem Asks.of_project (asks : Asks projectId p test) {r : SourceRecord}
    (h : r.projectId = projectId) : test r = p r.source := by
  simp [asks r, h]

theorem Asks.of_other (asks : Asks projectId p test) {r : SourceRecord}
    (h : r.projectId ≠ projectId) : test r = false := by
  simp [asks r, h]

end SourceRecord

namespace Store

open SourceRecord

/-- The sources of a project in a list of records. -/
def sourcesIn (projectId : String) (records : List SourceRecord) : List DataSource :=
  (records.filter fun r => r.projectId = projectId).map SourceRecord.source

theorem sourcesOf_eq (store : Store) (projectId : String) :
    store.sourcesOf projectId = sourcesIn projectId store.sources :=
  rfl

section

variable {projectId other : String} {p : DataSource → Bool} {test : SourceRecord → Bool}

theorem sourcesIn_cons_of_eq {r : SourceRecord} (h : r.projectId = projectId)
    (rest : List SourceRecord) :
    sourcesIn projectId (r :: rest) = r.source :: sourcesIn projectId rest := by
  simp [sourcesIn, h]

theorem sourcesIn_cons_of_ne {r : SourceRecord} (h : r.projectId ≠ projectId)
    (rest : List SourceRecord) : sourcesIn projectId (r :: rest) = sourcesIn projectId rest := by
  simp [sourcesIn, h]

theorem find?_sourcesIn (asks : Asks projectId p test) (records : List SourceRecord) :
    (records.find? test).map SourceRecord.source = (sourcesIn projectId records).find? p := by
  induction records with
  | nil => rfl
  | cons r rest ih =>
    by_cases h : r.projectId = projectId
    · rw [sourcesIn_cons_of_eq h, List.find?_cons, List.find?_cons, asks.of_project h, ← ih]
      split <;> rfl
    · rw [sourcesIn_cons_of_ne h, List.find?_cons, asks.of_other h, ih]

theorem sourcesIn_modifyFirst (asks : Asks projectId p test) (change : DataSource → DataSource)
    (records : List SourceRecord) :
    sourcesIn projectId (modifyFirst test (mapSource change) records) =
      modifyFirst p change (sourcesIn projectId records) := by
  induction records with
  | nil => rfl
  | cons r rest ih =>
    rw [modifyFirst]
    by_cases own : r.projectId = projectId
    · rw [sourcesIn_cons_of_eq own, modifyFirst, asks.of_project own]
      split
      · have changed : (mapSource change r).projectId = projectId := own
        rw [sourcesIn_cons_of_eq changed]
        rfl
      · rw [sourcesIn_cons_of_eq own, ih]
    · rw [asks.of_other own, sourcesIn_cons_of_ne own]
      exact (sourcesIn_cons_of_ne own _).trans ih

theorem sourcesIn_remove (asks : Asks projectId p test) (records : List SourceRecord) :
    sourcesIn projectId (records.filter fun r => !test r) =
      (sourcesIn projectId records).filter fun s => !p s := by
  unfold sourcesIn
  rw [List.filter_map, List.filter_filter, List.filter_filter]
  congr 1
  apply List.filter_congr
  intro r _
  by_cases own : r.projectId = projectId <;> simp [asks r, own]

/-! What is done to the records of another project leaves the list alone. -/

theorem sourcesIn_modifyFirst_of_ne (asks : Asks other p test) (different : other ≠ projectId)
    (change : DataSource → DataSource) (records : List SourceRecord) :
    sourcesIn projectId (modifyFirst test (mapSource change) records) =
      sourcesIn projectId records := by
  induction records with
  | nil => rfl
  | cons r rest ih =>
    rw [modifyFirst]
    by_cases own : r.projectId = projectId
    · rw [asks.of_other fun h => different (h.symm.trans own), sourcesIn_cons_of_eq own]
      exact (sourcesIn_cons_of_eq own _).trans (congrArg _ ih)
    · have changed : (mapSource change r).projectId ≠ projectId := own
      rw [sourcesIn_cons_of_ne own]
      split
      · exact sourcesIn_cons_of_ne changed rest
      · exact (sourcesIn_cons_of_ne own _).trans ih

theorem sourcesIn_remove_of_ne (asks : Asks other p test) (different : other ≠ projectId)
    (records : List SourceRecord) :
    sourcesIn projectId (records.filter fun r => !test r) = sourcesIn projectId records := by
  unfold sourcesIn
  rw [List.filter_filter]
  congr 1
  apply List.filter_congr
  intro r _
  by_cases own : r.projectId = projectId
  · simp [own, asks.of_other fun h => different (h.symm.trans own)]
  · simp [own]

end

end Store

end PageBuilder
