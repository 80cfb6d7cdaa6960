import PageBuilder.Binding.Path
import PageBuilder.Canvas.Basic
import PageBuilder.Json.Printer
import PageBuilder.Source.Live
/-! The props that a block shows: its own, with the mapped values of its data over
them. -/
namespace PageBuilder.Binding

open Json (Value Members)

/-- The mappings whose paths lead to a value, with that value. -/
def updates (data : Value) (mappings : List FieldMapping) : Members :=
  mappings.filterMap fun m => (lookup data m.sourcePath).map fun v => (m.targetProp, v)

/-- Puts mapped values over props. Where none is found the props stay as they are;
else props that are no object count as an empty one. -/
def project (base data : Value) (mappings : List FieldMapping) : Value :=
  match updates data mappings with
  | [] => base
  | found => .object (found.foldl (fun props u => Assoc.put u.1 u.2 props) (base.members?.getD []))

/-- The data that a binding shows: live data if it is a container, else the
payload of the pinned sample. -/
def dataFor? (sources : List DataSource) (live : Option LiveCache) (binding : DataBinding) :
    Option Value :=
  ((live.bind fun cache => cache.data? binding.sourceId).filter Value.isContainer).or
    (pinnedPayload? sources binding.sourceId binding.sampleId)

/-- The data that a block shows; a block of an unknown kind shows none. -/
def blockData? (sources : List DataSource) (live : Option LiveCache) (block : PlacedBlock) :
    Option Value :=
  if block.kind?.isNone then none else block.binding.bind (dataFor? sources live)

/-- The props that a block shows; `none` for an unknown kind. -/
def blockProps? (sources : List DataSource) (live : Option LiveCache) (block : PlacedBlock) :
    Option Block.Props :=
  block.kind?.map fun kind =>
    let base := Block.Props.repair kind block.props
    match block.binding, blockData? sources live block with
    | some binding, some data =>
      .repair kind (project base.toValue data binding.mappings)
    | _, _ => base

/-- The text that shows a payload. -/
def preview (data : Value) : String :=
  data.pretty

end PageBuilder.Binding
