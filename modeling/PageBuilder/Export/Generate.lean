import PageBuilder.Export.Next
/-! Exporting a canvas. The files depend on the arguments alone. -/
namespace PageBuilder.Export

/-- The files of a format for prepared sections. -/
def filesFor (format : ExportFormat) (sections : List PageSection) (name : String)
    (settings : ExportSettings) : List ExportFile :=
  match format with
  | .html => htmlFiles sections name settings
  | .react => React.files sections name settings
  | .nextjs => Next.files sections name settings

def generate (format : ExportFormat) (canvas : Canvas) (name : String)
    (sources : List DataSource) (settings : ExportSettings) : ExportResult :=
  ⟨filesFor format (canvas.sections sources) name settings, format⟩

/-- The name of the archive of an export. -/
def archiveName (name : String) (format : ExportFormat) : String :=
  Text.slug name ++ "-" ++ format.id ++ "-export.zip"

end PageBuilder.Export
