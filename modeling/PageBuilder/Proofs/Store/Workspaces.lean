import PageBuilder.Proofs.Store.Identity
/-! A store against its projects taken one by one. A workspace is all that one project holds,
with its sources in the order they were created. Though a store keeps the sources of all
projects in one list, it answers as separate workspaces do. -/
namespace PageBuilder

open Json (Value)

/-- The sample that an upsert leaves, and all samples after it. It takes the place of the one
that its id names, and else comes last under the id drawn. -/
def SampleUpsert.store (sample : SampleUpsert) (drawn : String) (samples : List DataSample) :
    DataSample × List DataSample :=
  match sample.sampleId.filter fun id => samples.any fun s => s.id = id with
  | some id =>
    let changed : DataSample := ⟨id, sample.label, sample.payload⟩
    (changed, samples.modify (samples.findIdx fun s => s.id = id) fun _ => changed)
  | none =>
    let created : DataSample := ⟨drawn, sample.label, sample.payload⟩
    (created, samples ++ [created])

theorem DataSource.upsert_eq (sample : SampleUpsert) (drawn : String) (s : DataSource) :
    DataSource.upsert sample drawn s = ((sample.store drawn s.samples).1,
      { s with samples := (sample.store drawn s.samples).2 }) := by
  rw [upsert, SampleUpsert.store]
  cases sample.sampleId with
  | none => rfl
  | some id =>
    rw [Option.bind_some, sample?, Option.filter_some]
    cases found : s.samples.find? fun x => x.id = id with
    | none =>
      have absent : (s.samples.any fun x => x.id = id) = false := by
        simpa using found
      simp [absent]
    | some x =>
      have same : x.id = id := by simpa using List.find?_some found
      have held : (s.samples.any fun x => x.id = id) = true :=
        List.any_eq_true.mpr ⟨x, List.mem_of_find?_eq_some found, by simpa using same⟩
      simp [held, same, modifyFirst_eq_modify]

/-- The source that an update leaves. A field that the patch gives is new, and all else stays as
it was. -/
def SourcePatch.store (patch : SourcePatch) (s : DataSource) : DataSource where
  id := s.id
  name := if let some name := patch.name then name else s.name
  kind := if let some kind := patch.kind then kind else s.kind
  endpoint := if patch.endpoint.isSome then patch.endpoint else s.endpoint
  method := if patch.method.isSome then patch.method else s.method
  headers := if patch.headers.isSome then patch.headers else s.headers
  description := if patch.description.isSome then patch.description else s.description
  config := if let some config := patch.config then config else s.config
  samples := s.samples

theorem SourcePatch.apply_eq (patch : SourcePatch) : patch.apply = patch.store := by
  funext s
  have kept {α : Type} (new old : Option α) : new.or old = if new.isSome then new else old := by
    cases new <;> rfl
  rw [apply, store, DataSource.mk.injEq]
  refine ⟨rfl, ?_, ?_, kept .., kept .., kept .., kept .., ?_, rfl⟩
  · cases patch.name <;> rfl
  · cases patch.kind <;> rfl
  · cases patch.config <;> rfl

namespace Store

/-- What is wrong with the texts of an operation. -/
def Operation.fault? : Operation → Option StoreError
  | .create _ input _ =>
    if Text.isBlank input.name then some (emptyText "Data source name")
    else if input.samples.any fun s => Text.isBlank s.label then some (emptyText "Sample label")
    else none
  | .update _ _ patch =>
    if patch.name.any Text.isBlank then some (emptyText "Data source name") else none
  | .upsertSample _ _ sample _ =>
    if Text.isBlank sample.label then some (emptyText "Sample label") else none
  | _ => none

def Request.fault? : Request → Option StoreError
  | .change operation => operation.fault?
  | _ => none

end Store

open Store (Request Answer Operation)

/-- A project and its sources. -/
structure Workspace extends Project where
  sources : List DataSource

namespace Workspace

def source? (w : Workspace) (sourceId : String) : Option DataSource :=
  w.sources.find? fun s => s.id = sourceId

/-- Changes the first source of which `p` holds, where it stands. -/
def alter (w : Workspace) (p : DataSource → Bool) (change : DataSource → DataSource) : Workspace :=
  { w with sources := w.sources.modify (w.sources.findIdx p) change }

/-- Applies a rule to the canvas, if there is a readable one. -/
def redraw (w : Workspace) (rule : Canvas → Canvas) : Workspace :=
  match w.canvas.bind Store.readCanvas with
  | some canvas => { w with canvas := some (rule canvas).toValue }
  | none => w

/-- A request of the owner. Without `migrated` there is no place for canvases. -/
def serve (migrated : Bool) (w : Workspace) : Request → Except StoreError (Answer × Workspace)
  | .load _ =>
    let canvas := if migrated then w.canvas.bind Store.readCanvas else none
    .ok (.canvas (canvas.map Canvas.normalize), w)
  | .list _ => .ok (.sources w.sources, w)
  | .change (.register owner) => .ok (.done, { w with owner })
  | .change (.putRaw canvas) => .ok (.done, { w with canvas := some canvas })
  | .change (.save _ canvas) =>
    if migrated then .ok (.done, { w with canvas := some canvas.toValue })
    else .error .schemaUnsupported
  | .change (.create _ input draw) =>
    let source := input.toSource draw
    .ok (.source source, { w with sources := w.sources ++ [source] })
  | .change (.update _ sourceId patch) =>
    match w.source? sourceId with
    | none => .error (.notFound .source sourceId)
    | some source =>
      .ok (.source (patch.store source), w.alter (fun s => s.id = sourceId) patch.store)
  | .change (.deleteSource _ sourceId) =>
    match w.source? sourceId with
    | none => .error (.notFound .source sourceId)
    | some _ =>
      let left : Workspace := { w with sources := w.sources.filter fun s => s.id ≠ sourceId }
      .ok (.done, if migrated then left.redraw fun c => c.clearSource sourceId else left)
  | .change (.upsertSample _ sourceId sample drawn) =>
    match w.source? sourceId with
    | none => .error (.notFound .source sourceId)
    | some source =>
      .ok (.sample (sample.store drawn source.samples).1, w.alter (fun s => s.id = sourceId)
        fun s => { s with samples := (sample.store drawn s.samples).2 })
  | .change (.deleteSample _ sampleId) =>
    let holds (s : DataSource) : Bool := s.samples.any fun x => x.id = sampleId
    match w.sources.find? holds with
    | none => .error (.notFound .sample sampleId)
    | some source =>
      let left := w.alter holds fun s =>
        { s with samples := s.samples.filter fun x => x.id ≠ sampleId }
      .ok (.done, if migrated then left.redraw fun c => c.clearSample source.id sampleId else left)

def respond (migrated : Bool) (w : Workspace) (request : Request) :
    Except StoreError (Answer × Workspace) :=
  match request.fault? with
  | some e => .error e
  | none => w.serve migrated request

/-- The workspace of a project after a request, if there was none before. -/
def founded? : Request → Option Workspace
  | .change (.register owner) => some ⟨⟨owner, none⟩, []⟩
  | _ => none

/-- A request on a project, which has a workspace once it is registered. -/
def step (migrated : Bool) (projectId : String) (held : Option Workspace) (request : Request) :
    Except StoreError Answer × Option Workspace :=
  if request.caller?.all fun caller => held.any fun w => w.owner = caller then
    match held with
    | none => (.ok .done, founded? request)
    | some w =>
      match w.respond migrated request with
      | .ok (answer, w') => (.ok answer, some w')
      | .error e => (.error e, some w)
  else (.error (.authorization projectId), held)

/-- All workspaces after a request, which changes that of its own project only. -/
def after (migrated : Bool) (all : String → Option Workspace) (projectId : String)
    (request : Request) : String → Option Workspace :=
  Function.update all projectId (step migrated projectId (all projectId) request).2

def answers (migrated : Bool) (all : String → Option Workspace) :
    List (String × Request) → List (Except StoreError Answer)
  | [] => []
  | (projectId, request) :: rest =>
    (step migrated projectId (all projectId) request).1 ::
      answers migrated (after migrated all projectId request) rest

section

variable (migrated : Bool) (all : String → Option Workspace) (projectId : String)
  (request : Request)

theorem after_self : after migrated all projectId request projectId =
    (step migrated projectId (all projectId) request).2 :=
  Function.update_self ..

theorem after_of_ne {other : String} (different : other ≠ projectId) :
    after migrated all projectId request other = all other :=
  Function.update_of_ne different ..

end

end Workspace

namespace Store

/-! ### The workspace of a project -/

/-- The store holds just this of the project. -/
structure Shows (store : Store) (projectId : String) (held : Option Workspace) : Prop where
  project : store.project? projectId = held.map Workspace.toProject
  sources : store.sourcesOf projectId = held.elim [] Workspace.sources

variable {store : Store} {projectId : String} {w : Workspace}

theorem project?_register (store : Store) (owner projectId : String) :
    (store.register owner projectId).project? projectId =
      some ⟨owner, (store.project? projectId).bind Project.canvas⟩ :=
  Assoc.get?_put_self projectId _ store.projects

namespace Shows

theorem owns_eq {held : Option Workspace} (h : store.Shows projectId held) (caller : String) :
    store.owns caller projectId = held.any fun w => w.owner = caller := by
  rw [Store.owns, h.project, Option.any_map]

theorem listed (h : store.Shows projectId (some w)) :
    sourcesIn projectId store.sources = w.sources :=
  h.sources

theorem source? (h : store.Shows projectId (some w)) (sourceId : String) :
    store.source? projectId sourceId = w.source? sourceId := by
  rw [Store.source?_eq, h.sources]
  rfl

theorem register (h : store.Shows projectId (some w)) (owner : String) :
    (store.register owner projectId).Shows projectId (some { w with owner }) where
  project := by
    rw [project?_register, h.project]
    rfl
  sources := h.sources

theorem putRaw (h : store.Shows projectId (some w)) (canvas : Value) :
    (store.putRaw projectId canvas).Shows projectId (some { w with canvas := some canvas }) where
  project := by
    rw [project?_putRaw, h.project]
    rfl
  sources := h.sources

theorem cascade (h : store.Shows projectId (some w)) (rule : Canvas → Canvas) :
    (store.cascade projectId rule).Shows projectId
      (some (if store.migrated then w.redraw rule else w)) := by
  have stored : (store.project? projectId).bind Project.canvas = w.canvas := by
    rw [h.project]
    rfl
  rw [Store.cascade, stored, Workspace.redraw]
  cases store.migrated with
  | false => exact h
  | true =>
    cases w.canvas.bind readCanvas with
    | none => exact h
    | some canvas => exact h.putRaw _

/-- The records change in what they hold of the project. -/
theorem sourced (h : store.Shows projectId (some w)) {records : List SourceRecord}
    {sources : List DataSource} (same : sourcesIn projectId records = sources) :
    Shows { store with sources := records } projectId (some { w with sources }) where
  project := h.project
  sources := same

theorem alter (h : store.Shows projectId (some w)) {p : DataSource → Bool}
    {test : SourceRecord → Bool} (asks : SourceRecord.Asks projectId p test)
    (change : DataSource → DataSource) :
    Shows { store with
      sources := modifyFirst test (SourceRecord.mapSource change) store.sources }
      projectId (some (w.alter p change)) := by
  apply h.sourced
  rw [sourcesIn_modifyFirst asks, h.listed, modifyFirst_eq_modify]

end Shows

/-- Both succeed alike, and the store then shows the workspace, or both fail alike. -/
def Match (projectId : String) : Except StoreError (Answer × Store) →
    Except StoreError (Answer × Workspace) → Prop
  | .ok (answer, store), .ok (answer', w) => answer = answer' ∧ store.Shows projectId (some w)
  | .error e, .error e' => e = e'
  | _, _ => False

theorem Shows.respond (h : store.Shows projectId (some w)) {request : Request}
    (owns : ∀ caller, request.caller? = some caller → store.owns caller projectId = true) :
    Match projectId (store.respond projectId request) (w.respond store.migrated request) := by
  cases request with
  | load caller =>
    rw [Store.respond, load_of_owns (owns _ rfl)]
    refine ⟨?_, h⟩
    rw [loaded?, stored?, h.project]
    cases store.migrated <;> rfl
  | list caller =>
    rw [Store.respond, list_of_owns (owns _ rfl)]
    exact ⟨congrArg _ h.sources, h⟩
  | change operation =>
    cases operation with
    | register owner => exact ⟨rfl, h.register owner⟩
    | putRaw canvas => exact ⟨rfl, h.putRaw canvas⟩
    | save caller canvas =>
      rw [Store.respond, save_of_owns (owns _ rfl), Workspace.respond]
      dsimp only [Request.fault?, Operation.fault?, Workspace.serve]
      split
      · exact ⟨rfl, h.putRaw _⟩
      · rfl
    | create caller input draw =>
      rw [Store.respond, create_of_owns (owns _ rfl), Workspace.respond]
      dsimp only [Request.fault?, Operation.fault?]
      split
      · rfl
      · split
        · rfl
        · refine ⟨rfl, h.sourced ?_⟩
          rw [← h.listed]
          simp [sourcesIn]
    | update caller sourceId patch =>
      rw [Store.respond, update_of_owns (owns _ rfl), h.source?, Workspace.respond]
      simp only [Request.fault?, Operation.fault?, Workspace.serve, SourcePatch.apply_eq]
      split
      · rfl
      · cases w.source? sourceId with
        | none => rfl
        | some source => exact ⟨rfl, h.alter (SourceRecord.asks_isOf _ _) _⟩
    | deleteSource caller sourceId =>
      rw [Store.respond, deleteSource_of_owns (owns _ rfl), h.source?, Workspace.respond]
      dsimp only [Request.fault?, Operation.fault?, Workspace.serve]
      cases w.source? sourceId with
      | none => rfl
      | some source =>
        have asks := SourceRecord.asks_isOf projectId sourceId
        refine ⟨rfl, cascade (h.sourced ?_) _⟩
        rw [sourcesIn_remove asks, h.listed]
        simp
    | upsertSample caller sourceId sample drawn =>
      rw [Store.respond, upsertSample_of_owns (owns _ rfl), h.source?, Workspace.respond]
      simp only [Request.fault?, Operation.fault?, Workspace.serve, DataSource.upsert_eq]
      split
      · rfl
      · cases w.source? sourceId with
        | none => rfl
        | some source => exact ⟨rfl, h.alter (SourceRecord.asks_isOf _ _) _⟩
    | deleteSample caller sampleId =>
      have asks := SourceRecord.asks_holds projectId sampleId
      have holds (s : DataSource) :
          (s.sample? sampleId).isSome = s.samples.any fun x => x.id = sampleId :=
        List.isSome_find?
      simp only [holds] at asks
      have found := find?_sourcesIn asks store.sources
      rw [h.listed] at found
      rw [Store.respond, deleteSample_of_owns (owns _ rfl), Workspace.respond]
      dsimp only [Request.fault?, Operation.fault?, Workspace.serve]
      rw [← found]
      cases store.sources.find? (SourceRecord.holds projectId sampleId) with
      | none => rfl
      | some record => exact ⟨rfl, cascade (h.alter asks _) _⟩

/-! ### Steps -/

theorem Shows.founded (h : store.Shows projectId none) {request : Request}
    (unasked : request.caller? = none) :
    (store.step projectId request).1 = .ok .done ∧
      (store.step projectId request).2.Shows projectId (Workspace.founded? request) := by
  cases request with
  | load | list => cases unasked
  | change operation =>
    cases operation with
    | register owner =>
      refine ⟨rfl, ⟨?_, h.sources⟩⟩
      refine (project?_register store owner projectId).trans ?_
      rw [h.project]
      rfl
    | putRaw canvas =>
      refine ⟨rfl, ⟨?_, h.sources⟩⟩
      exact (project?_putRaw store projectId canvas).trans (congrArg _ h.project)
    | save | create | update | deleteSource | upsertSample | deleteSample => cases unasked

theorem Shows.step {held : Option Workspace} (h : store.Shows projectId held)
    (request : Request) :
    (store.step projectId request).1 =
        (Workspace.step store.migrated projectId held request).1 ∧
      (store.step projectId request).2.Shows projectId
        (Workspace.step store.migrated projectId held request).2 := by
  unfold Workspace.step
  simp only [← h.owns_eq]
  split
  · rename_i permitted
    have owns (caller : String) (asks : request.caller? = some caller) :
        store.owns caller projectId = true := by
      simpa [asks] using permitted
    cases held with
    | none =>
      -- nobody owns the project, so whoever may ask asks in nobody's name
      apply h.founded
      cases asks : request.caller? with
      | none => rfl
      | some caller => cases (h.owns_eq caller).symm.trans (owns caller asks)
    | some w =>
      have matched := h.respond owns
      rw [Store.step]
      dsimp only
      cases served : store.respond projectId request <;>
        cases answered : w.respond store.migrated request <;>
        rw [served, answered] at matched
      case error.error e e' => exact ⟨congrArg _ matched, h⟩
      case ok.ok r r' => exact ⟨congrArg _ matched.1, matched.2⟩
      all_goals cases matched
  · rename_i refused
    cases asks : request.caller? with
    | none => simp [asks] at refused
    | some caller =>
      have owns : store.owns caller projectId = false := by
        simpa [asks] using refused
      rw [Store.step, respond_of_not_owns asks owns]
      exact ⟨rfl, h⟩

/-- Requests on other projects do not show. -/
theorem Shows.elsewhere {other : String} {held : Option Workspace}
    (h : store.Shows projectId held) (different : other ≠ projectId) (request : Request) :
    (store.step other request).2.Shows projectId held := by
  rcases store.snd_step_eq_or other request with same | ⟨operation, -, performed⟩
  · rw [same]
    exact h
  · refine ⟨?_, ?_⟩
    · rw [(perform_agree different performed).2, h.project]
    · rw [sourcesOf_eq, (migrated_records_of_perform performed).2,
        sourcesIn_records_of_ne different, ← sourcesOf_eq, h.sources]

/-! ### Ids of other projects -/

/-- What an operation asks to be there. -/
def Operation.lookup? : Operation → Option (Entity × String)
  | .update _ sourceId _ | .deleteSource _ sourceId | .upsertSample _ sourceId _ _ =>
    some (.source, sourceId)
  | .deleteSample _ sampleId => some (.sample, sampleId)
  | _ => none

theorem source?_of_unknown {id : String} (unknown : ∀ s ∈ store.sourcesOf projectId, id ∉ s.ids) :
    store.source? projectId id = none := by
  rw [source?_eq, List.find?_eq_none]
  intro s hs same
  exact unknown s hs (List.mem_cons.mpr (.inl (by simpa [eq_comm] using same)))

theorem holder_of_unknown {id : String} (unknown : ∀ s ∈ store.sourcesOf projectId, id ∉ s.ids) :
    store.sources.find? (SourceRecord.holds projectId id) = none := by
  have found := find?_sourcesIn (SourceRecord.asks_holds projectId id) store.sources
  rw [← sourcesOf_eq] at found
  rw [← Option.map_eq_none_iff, found, List.find?_eq_none]
  exact fun s hs held => unknown s hs (DataSource.mem_ids_of_sample held)

theorem respond_of_unknown {operation : Operation} {caller id : String} {entity : Entity}
    (asks : operation.caller? = some caller) (owns : store.owns caller projectId = true)
    (sound : operation.fault? = none) (looks : operation.lookup? = some (entity, id))
    (unknown : ∀ s ∈ store.sourcesOf projectId, id ∉ s.ids) :
    store.respond projectId (.change operation) = .error (.notFound entity id) := by
  cases operation with
  | register | putRaw | save | create => cases looks
  | update caller sourceId patch =>
    cases asks
    cases looks
    simp only [Operation.fault?, ite_eq_right_iff, reduceCtorEq, imp_false] at sound
    rw [respond, update_of_owns owns, if_neg sound, source?_of_unknown unknown]
    rfl
  | deleteSource caller sourceId =>
    cases asks
    cases looks
    rw [respond, deleteSource_of_owns owns, source?_of_unknown unknown]
    rfl
  | upsertSample caller sourceId sample drawn =>
    cases asks
    cases looks
    simp only [Operation.fault?, ite_eq_right_iff, reduceCtorEq, imp_false] at sound
    rw [respond, upsertSample_of_owns owns, if_neg sound, source?_of_unknown unknown]
    rfl
  | deleteSample caller sampleId =>
    cases asks
    cases looks
    rw [respond, deleteSample_of_owns owns, holder_of_unknown unknown]
    rfl

/-! ### Runs -/

def answers (store : Store) : List (String × Request) → List (Except StoreError Answer)
  | [] => []
  | (projectId, request) :: rest =>
    (store.step projectId request).1 :: (store.step projectId request).2.answers rest

theorem answers_eq {all : String → Option Workspace}
    (h : ∀ projectId, store.Shows projectId (all projectId)) (calls : List (String × Request)) :
    store.answers calls = Workspace.answers store.migrated all calls := by
  induction calls generalizing store all with
  | nil => rfl
  | cons call rest ih =>
    obtain ⟨projectId, request⟩ := call
    obtain ⟨same, shown⟩ := (h projectId).step request
    have shows_after (other : String) : (store.step projectId request).2.Shows other
        (Workspace.after store.migrated all projectId request other) := by
      by_cases own : other = projectId
      · rw [own, Workspace.after_self]
        exact shown
      · rw [Workspace.after_of_ne _ _ _ _ own]
        exact (h other).elsewhere (Ne.symm own) request
    rw [answers, Workspace.answers, same, ih shows_after, migrated_step]

/-- The answers to the requests of one project. -/
def answersTo (projectId : String) (calls : List (String × Request))
    (answers : List (Except StoreError Answer)) : List (Except StoreError Answer) :=
  ((calls.zip answers).filter fun c => c.1.1 = projectId).map Prod.snd

theorem answersTo_workspaces (migrated : Bool) {all alone : String → Option Workspace}
    (same : all projectId = alone projectId) (calls : List (String × Request)) :
    answersTo projectId calls (Workspace.answers migrated all calls) =
      Workspace.answers migrated alone (calls.filter fun c => c.1 = projectId) := by
  induction calls generalizing all alone with
  | nil => rfl
  | cons call rest ih =>
    obtain ⟨asked, request⟩ := call
    by_cases own : asked = projectId
    · subst own
      have later : Workspace.after migrated all asked request asked =
          Workspace.after migrated alone asked request asked := by
        rw [Workspace.after_self, Workspace.after_self, same]
      rw [List.filter_cons_of_pos (by simp), Workspace.answers, Workspace.answers, ← ih later, same]
      simp [answersTo]
    · have later : Workspace.after migrated all asked request projectId = alone projectId := by
        rw [Workspace.after_of_ne _ _ _ _ (Ne.symm own), same]
      rw [List.filter_cons_of_neg (by simpa using own), Workspace.answers, ← ih later]
      simp [answersTo, own]

theorem shows_empty (migrated : Bool) (projectId : String) :
    (empty migrated).Shows projectId none :=
  ⟨rfl, rfl⟩

/-- A store that starts empty gives the answers of separate workspaces, so a project has the
answers it would have alone. While ids that are drawn are fresh, those of another project
are not found. -/
theorem answers_workspaces (migrated : Bool) (calls : List (String × Request)) :
    (empty migrated).answers calls = Workspace.answers migrated (fun _ => none) calls ∧
      (∀ projectId, answersTo projectId calls ((empty migrated).answers calls) =
        (empty migrated).answers (calls.filter fun c => c.1 = projectId)) ∧
      ((empty migrated).Throughout Fresh calls →
        ∀ projectId other, projectId ≠ other →
          ∀ s ∈ ((empty migrated).run calls).sourcesOf other, ∀ id ∈ s.ids,
          ∀ operation caller entity, operation.caller? = some caller →
            ((empty migrated).run calls).owns caller projectId = true →
            operation.fault? = none → operation.lookup? = some (entity, id) →
            (((empty migrated).run calls).step projectId (.change operation)).1 =
              .error (.notFound entity id)) := by
  have refines (calls : List (String × Request)) :
      (empty migrated).answers calls = Workspace.answers migrated (fun _ => none) calls :=
    answers_eq (shows_empty migrated) calls
  refine ⟨refines calls, fun projectId => ?_, ?_⟩
  · rw [refines, refines, answersTo_workspaces]
    rfl
  · intro fresh projectId other different s hs id hid operation caller entity asks owns sound looks
    have distinct := (distinct_empty migrated).run fresh
    have unknown : ∀ t ∈ ((empty migrated).run calls).sourcesOf projectId, id ∉ t.ids :=
      fun t ht own => distinct.apart_of_ne different ht hs id own hid
    rw [step, respond_of_unknown asks owns sound looks unknown]

/-- Ada's project is handed to Eve, who changes the first of its two sources in its place, while
Bob asks for that source and its sample in his own project. -/
theorem answers_workspaces_two_owners :
    let input (name : String) : NewDataSource :=
      ⟨name, .rest, none, none, none, none, .null, [⟨"Example", .null⟩]⟩
    let drawn (id sampleId : String) (i : Nat) : String := if i = 0 then id else sampleId
    let source (id name : String) (samples : List DataSample) : DataSource :=
      ⟨id, name, .rest, none, none, none, none, .null, samples⟩
    let feed := source "feed" "Feed" [⟨"f1", "Example", .null⟩]
    let log := source "log" "Log" [⟨"l1", "Example", .null⟩]
    let stock := source "stock" "Stock" [⟨"s1", "Example", .null⟩]
    let patch : SourcePatch :=
      ⟨some "News", some .mock, some "/news", none, none, none, some (.bool true)⟩
    let news : DataSource :=
      ⟨"feed", "News", .mock, some "/news", none, none, none, .bool true, feed.samples⟩
    let calls : List (String × Request) := [
      ("site", .change (.register "ada")),
      ("shop", .change (.register "bob")),
      ("site", .change (.create "ada" (input "Feed") (drawn "feed" "f1"))),
      ("site", .change (.create "ada" (input "Log") (drawn "log" "l1"))),
      ("shop", .change (.create "bob" (input "Stock") (drawn "stock" "s1"))),
      ("shop", .change (.upsertSample "bob" "stock" ⟨some "f1", "Other", .null⟩ "s2")),
      ("shop", .change (.deleteSource "bob" "feed")),
      ("site", .change (.register "eve")),
      ("site", .change (.update "eve" "feed" patch)),
      ("site", .list "ada"),
      ("site", .list "eve")]
    (empty true).answers calls = [.ok .done, .ok .done, .ok (.source feed), .ok (.source log),
        .ok (.source stock), .ok (.sample ⟨"s2", "Other", .null⟩),
        .error (.notFound .source "feed"), .ok .done, .ok (.source news),
        .error (.authorization "site"), .ok (.sources [news, log])] ∧
      Workspace.answers true (fun _ => none) calls = (empty true).answers calls ∧
      answersTo "site" calls ((empty true).answers calls) =
        (empty true).answers (calls.filter fun c => c.1 = "site") ∧
      (((empty true).run calls).step "shop" (.change (.deleteSample "bob" "f1"))).1 =
        .error (.notFound .sample "f1") := by
  intro input drawn source feed log stock patch news calls
  obtain ⟨refines, alone, foreign⟩ := answers_workspaces true calls
  refine ⟨by decide, refines.symm, alone "site", ?_⟩
  exact foreign (by decide) "shop" "site" (by decide) news (by decide) "f1" (by decide)
    (.deleteSample "bob" "f1") "bob" .sample rfl (by decide) rfl rfl

end Store

end PageBuilder
