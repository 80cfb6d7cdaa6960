import PageBuilder.Proofs.Export.Agreement
import PageBuilder.Proofs.Source.Live
/-! What a preview shows of fetches. A section reads the data of the one source that its block
is bound to, and only a result that brings data or forgetting its source changes that; a fetch
that is under way, late or failed is not seen. -/
namespace PageBuilder

open Json (Value)

/-- The block is bound to none of the sources. -/
def PlacedBlock.Avoids (sourceIds : List String) (b : PlacedBlock) : Prop :=
  ∀ link ∈ b.binding, link.sourceId ∉ sourceIds

/-! ### Data in a cache -/

namespace LiveCache

/-- What may happen to a cache, with any ticket and any result. -/
inductive Activity where
  | begin (sourceId : String)
  | complete (ticket : Ticket) (outcome : FetchOutcome)
  | forget (sourceId : String)

def act (cache : LiveCache) : Activity → LiveCache
  | .begin sourceId => (cache.begin sourceId).2
  | .complete ticket outcome => (cache.complete ticket outcome).2
  | .forget sourceId => cache.forget sourceId

/-- The source that gets other data, or loses what it has. -/
def renews? (cache : LiveCache) : Activity → Option String
  | .begin _ => none
  | .complete ticket outcome =>
    if (cache.complete ticket outcome).1 && outcome.data?.isSome then some ticket.sourceId else none
  | .forget sourceId => some sourceId

def actAll (cache : LiveCache) (activities : List Activity) : LiveCache :=
  activities.foldl act cache

def renewed (cache : LiveCache) : List Activity → List String
  | [] => []
  | activity :: rest => (cache.renews? activity).toList ++ (cache.act activity).renewed rest

variable {cache later : LiveCache}

theorem data?_of_entry?_eq {sourceId : String}
    (h : later.entry? sourceId = cache.entry? sourceId) :
    later.data? sourceId = cache.data? sourceId := by
  unfold data?
  rw [h]

section

variable (cache)

theorem data?_begin (sourceId other : String) :
    LiveCache.data? (cache.begin sourceId).2 other = cache.data? other := by
  by_cases same : sourceId = other
  · subst same
    unfold data? begin entry?
    dsimp only
    rw [Assoc.get?_put_self]
    cases Assoc.get? sourceId cache.entries <;> rfl
  · exact data?_of_entry?_eq (Journal.entry?_begin_of_ne same)

theorem data?_complete_failure (ticket : Ticket) (error : String) (status : Option Nat)
    (other : String) :
    LiveCache.data? (cache.complete ticket (.failure error status)).2 other =
      cache.data? other := by
  by_cases same : ticket.sourceId = other
  · subst same
    unfold complete
    cases found : cache.entry? ticket.sourceId with
    | none => rfl
    | some entry =>
      dsimp only
      split
      · unfold data?
        rw [found]
        unfold entry?
        dsimp only
        rw [Assoc.get?_put_self]
        rfl
      · rfl
  · exact data?_of_entry?_eq (Journal.entry?_complete_of_ne same _)

theorem data?_act {activity : Activity} {other : String}
    (h : cache.renews? activity ≠ some other) :
    (cache.act activity).data? other = cache.data? other := by
  cases activity with
  | begin sourceId => exact cache.data?_begin sourceId other
  | complete ticket outcome =>
    cases outcome with
    | failure error status => exact cache.data?_complete_failure ticket error status other
    | success data status =>
      cases taken : (cache.complete ticket (.success data status)).1 with
      | false =>
        unfold act
        dsimp only
        rw [Journal.snd_complete_of_refused taken]
      | true =>
        refine data?_of_entry?_eq (Journal.entry?_complete_of_ne (fun same => h ?_) _)
        simp [renews?, taken, FetchOutcome.data?, same]
  | forget sourceId =>
    exact data?_of_entry?_eq (Journal.entry?_forget_of_ne fun same => h (congrArg some same))

theorem data?_actAll {activities : List Activity} {other : String}
    (h : other ∉ cache.renewed activities) :
    (cache.actAll activities).data? other = cache.data? other := by
  induction activities generalizing cache with
  | nil => rfl
  | cons activity rest ih =>
    rw [renewed, List.mem_append, not_or, Option.mem_toList] at h
    exact (ih _ h.2).trans (cache.data?_act h.1)

end

end LiveCache

/-! ### Data in a section -/

namespace Binding

variable {cache later : LiveCache} {block : PlacedBlock}

theorem dataFor?_congr {link : DataBinding}
    (h : later.data? link.sourceId = cache.data? link.sourceId) (sources : List DataSource) :
    dataFor? sources (some later) link = dataFor? sources (some cache) link := by
  unfold dataFor?
  rw [Option.bind_some, Option.bind_some, h]

theorem blockData?_congr
    (h : ∀ link ∈ block.binding, later.data? link.sourceId = cache.data? link.sourceId)
    (sources : List DataSource) :
    blockData? sources (some later) block = blockData? sources (some cache) block := by
  unfold blockData?
  split
  · rfl
  · cases bound : block.binding with
    | none => rfl
    | some link => exact dataFor?_congr (h link bound) sources

theorem blockProps?_congr
    (h : ∀ link ∈ block.binding, later.data? link.sourceId = cache.data? link.sourceId)
    (sources : List DataSource) :
    blockProps? sources (some later) block = blockProps? sources (some cache) block := by
  unfold blockProps?
  rw [blockData?_congr h]

end Binding

namespace Export

open Markup

variable {cache later : LiveCache}

theorem previewSection_of_data {block : PlacedBlock}
    (h : ∀ link ∈ block.binding, later.data? link.sourceId = cache.data? link.sourceId)
    (sources : List DataSource) (position : Nat) :
    previewSection sources (some later) position block =
      previewSection sources (some cache) position block := by
  unfold previewSection
  rw [Binding.blockProps?_congr h, Binding.blockData?_congr h]

theorem previewPage_of_data {canvas : Canvas}
    (h : ∀ block ∈ canvas.blocks, ∀ link ∈ block.binding,
      later.data? link.sourceId = cache.data? link.sourceId)
    (name : String) (sources : List DataSource) (settings : ExportSettings) :
    previewPage canvas name sources (some later) settings =
      previewPage canvas name sources (some cache) settings := by
  have sections : previewSections canvas sources (some later) =
      previewSections canvas sources (some cache) := by
    unfold previewSections
    apply List.ext_getElem?
    intro i
    rw [PageSection.getElem?_number, PageSection.getElem?_number]
    apply Option.map_congr
    intro block placed
    exact previewSection_of_data (h block (List.mem_of_getElem? placed)) sources _
  unfold previewPage
  rw [sections]

theorem length_previewLines (canvas : Canvas) (sources : List DataSource)
    (live : Option LiveCache) (settings : ExportSettings) :
    (previewLines canvas sources live settings).length = canvas.blocks.length := by
  simp [previewLines, previewSections, PageSection.length_number]

/-- Every page is the same with either cache. -/
def PreviewsSame (cache later : LiveCache) : Prop :=
  ∀ canvas name sources settings,
    previewPage canvas name sources (some later) settings =
      previewPage canvas name sources (some cache) settings

/-- Between the caches no section changes but those of blocks that are bound to one of the
sources. -/
structure ChangesOnly (sourceIds : List String) (cache later : LiveCache) : Prop where
  block : ∀ (block : PlacedBlock) (sources : List DataSource), block.Avoids sourceIds →
    Binding.blockProps? sources (some later) block =
        Binding.blockProps? sources (some cache) block ∧
      Binding.blockData? sources (some later) block =
        Binding.blockData? sources (some cache) block
  /-- Both pages of a canvas have one frame, and in it a section for every block. -/
  page : ∀ (name : String) (settings : ExportSettings), ∃ frame : PageFrame,
    ∀ (canvas : Canvas) (sources : List DataSource),
      (∀ live ∈ [cache, later],
        (previewLines canvas sources (some live) settings).length = canvas.blocks.length ∧
          (canvas.blocks ≠ [] → previewPage canvas name sources (some live) settings =
            frame.fill (previewLines canvas sources (some live) settings))) ∧
      ∀ (i : Nat) (block : PlacedBlock), canvas.blocks[i]? = some block →
        block.Avoids sourceIds →
          (previewLines canvas sources (some later) settings)[i]? =
            (previewLines canvas sources (some cache) settings)[i]?
  unseen : ∀ (canvas : Canvas) (name : String) (sources : List DataSource)
    (settings : ExportSettings), (∀ block ∈ canvas.blocks, block.Avoids sourceIds) →
      previewPage canvas name sources (some later) settings =
        previewPage canvas name sources (some cache) settings

theorem changesOnly_of_data {sourceIds : List String}
    (h : ∀ sourceId, sourceId ∉ sourceIds → later.data? sourceId = cache.data? sourceId) :
    ChangesOnly sourceIds cache later := by
  have data {block : PlacedBlock} (avoids : block.Avoids sourceIds) :
      ∀ link ∈ block.binding, later.data? link.sourceId = cache.data? link.sourceId :=
    fun link bound => h link.sourceId (avoids link bound)
  constructor
  · intro block sources avoids
    exact ⟨Binding.blockProps?_congr (data avoids) sources,
      Binding.blockData?_congr (data avoids) sources⟩
  · intro name settings
    refine ⟨previewFrame name settings, fun canvas sources => ⟨fun live _ => ⟨?_, ?_⟩, ?_⟩⟩
    · exact length_previewLines canvas sources live settings
    · exact fun given => previewPage_eq_fill given name sources settings live
    · intro i block placed avoids
      rw [getElem?_previewLines, getElem?_previewLines, placed, Option.map_some, Option.map_some,
        previewSection_of_data (data avoids)]
  · intro canvas name sources settings avoid
    exact previewPage_of_data (fun block hb => data (avoid block hb)) name sources settings

/-- A fetch that begins, is refused or fails shows on no page. A result that is taken, and
forgetting a source, show in the sections of that source alone; and after any such activities
only sections of sources have changed that got other data or were forgotten. -/
theorem previews_of_fetches (cache : LiveCache) :
    (∀ sourceId, PreviewsSame cache (cache.begin sourceId).2) ∧
      (∀ ticket outcome, (cache.complete ticket outcome).1 = false →
        PreviewsSame cache (cache.complete ticket outcome).2) ∧
      (∀ ticket error status,
        PreviewsSame cache (cache.complete ticket (.failure error status)).2) ∧
      (∀ ticket data status, ChangesOnly [ticket.sourceId] cache
        (cache.complete ticket (.success data status)).2) ∧
      (∀ sourceId, ChangesOnly [sourceId] cache (cache.forget sourceId)) ∧
      ∀ activities : List LiveCache.Activity,
        ChangesOnly (cache.renewed activities) cache (cache.actAll activities) := by
  have unseen {later : LiveCache} (same : ∀ sourceId, later.data? sourceId = cache.data? sourceId) :
      PreviewsSame cache later :=
    fun _ => previewPage_of_data fun _ _ link _ => same link.sourceId
  refine ⟨fun sourceId => unseen (cache.data?_begin sourceId), fun ticket outcome refused => ?_,
    fun ticket error status => unseen (cache.data?_complete_failure ticket error status),
    fun ticket data status => ?_, fun sourceId => ?_, fun activities => ?_⟩
  · rw [LiveCache.Journal.snd_complete_of_refused refused]
    exact fun _ _ _ _ => rfl
  · apply changesOnly_of_data
    intro other outside
    apply LiveCache.data?_of_entry?_eq
    exact LiveCache.Journal.entry?_complete_of_ne (fun same => outside (by simp [same])) _
  · apply changesOnly_of_data
    intro other outside
    apply LiveCache.data?_of_entry?_eq
    exact LiveCache.Journal.entry?_forget_of_ne fun same => outside (by simp [same])
  · exact changesOnly_of_data fun _ => cache.data?_actAll

/-- One source is asked again. Its old ticket counts no more, and a failure keeps its title; new
data changes the title, and of the blocks only the one that is bound to it. -/
theorem previews_of_fetches_two_sources :
    let data (title : String) : Value := .object [("name", .string title)]
    let bound (instanceId sourceId : String) : PlacedBlock :=
      ⟨instanceId, "hero", .null, none, some ⟨sourceId, none, some [⟨"name", "title"⟩]⟩⟩
    let canvas : Canvas := ⟨[bound "a" "feed", bound "b" "news"], none⟩
    let shown := LiveCache.empty.actAll [.begin "feed", .begin "news",
      .complete ⟨"feed", 1⟩ (.success (data "Old") none),
      .complete ⟨"news", 2⟩ (.success (data "News") none)]
    let asked := (shown.begin "feed").2
    let late := asked.complete ⟨"feed", 1⟩ (.success (data "Late") none)
    let failed := asked.complete ⟨"feed", 3⟩ (.failure "timeout" none)
    let renewed := asked.complete ⟨"feed", 3⟩ (.success (data "New") none)
    asked ≠ shown ∧ PreviewsSame shown asked ∧
      late.1 = false ∧ PreviewsSame asked late.2 ∧
      failed.1 = true ∧ failed.2 ≠ asked ∧ PreviewsSame asked failed.2 ∧
      renewed.1 = true ∧
      Binding.blockProps? [] (some renewed.2) (bound "a" "feed") ≠
        Binding.blockProps? [] (some asked) (bound "a" "feed") ∧
      (previewLines canvas [] (some renewed.2) {})[1]? =
        (previewLines canvas [] (some asked) {})[1]? ∧
      ∃ frame : PageFrame, ∀ live ∈ [asked, renewed.2],
        previewPage canvas "Site" [] (some live) {} =
          frame.fill (previewLines canvas [] (some live) {}) := by
  intro data bound canvas shown asked late failed renewed
  have refused : late.1 = false := by decide
  obtain ⟨begun, -⟩ := previews_of_fetches shown
  obtain ⟨-, rejected, failure, success, -⟩ := previews_of_fetches asked
  obtain ⟨frame, pages⟩ := (success ⟨"feed", 3⟩ (data "New") none).page "Site" {}
  obtain ⟨fills, others⟩ := pages canvas []
  refine ⟨by decide, begun "feed", refused, rejected _ _ refused, by decide, by decide,
    failure _ _ _, by decide, by decide, ?_, frame, fun live hl => ?_⟩
  · apply others 1 (bound "b" "news") rfl
    rintro _ ⟨⟩
    decide
  · exact (fills live hl).2 (List.cons_ne_nil _ _)

end Export

end PageBuilder
