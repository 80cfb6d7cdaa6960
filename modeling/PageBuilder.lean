import PageBuilder.Canvas.Edit
import PageBuilder.CommandLine.Folder
import PageBuilder.Main
import PageBuilder.Proofs.Binding.Misreading
import PageBuilder.Proofs.Binding.Projection
import PageBuilder.Proofs.Binding.Supply
import PageBuilder.Proofs.Block.Items
import PageBuilder.Proofs.Block.Strictness
import PageBuilder.Proofs.Canvas.Debounce
import PageBuilder.Proofs.Canvas.Editing
import PageBuilder.Proofs.Canvas.Moving
import PageBuilder.Proofs.Canvas.Normalization
import PageBuilder.Proofs.Canvas.Reconciliation
import PageBuilder.Proofs.Export.Banner
import PageBuilder.Proofs.Export.Fetching
import PageBuilder.Proofs.Export.FieldIds
import PageBuilder.Proofs.Export.KitImports
import PageBuilder.Proofs.Export.PackageNames
import PageBuilder.Proofs.Export.Replacement
import PageBuilder.Proofs.Export.Tabs
import PageBuilder.Proofs.Export.Visibility
import PageBuilder.Proofs.Markup.Comments
import PageBuilder.Proofs.Markup.Display
import PageBuilder.Proofs.Markup.Structure
import PageBuilder.Proofs.Source.Answers
import PageBuilder.Proofs.Source.Headers
import PageBuilder.Proofs.Source.Live
import PageBuilder.Proofs.Store.Canvases
import PageBuilder.Proofs.Store.Consistency
import PageBuilder.Proofs.Store.Drafts
import PageBuilder.Proofs.Store.Refusals
