import PageBuilder.Export.Format
import PageBuilder.Settings
import PageBuilder.Text.Lines
/-! The readme of an export. -/
namespace PageBuilder.Export

/-- How an export of a format is used. -/
def usage : ExportFormat → List String
  | .html => [
    "1. Open `index.html` in a browser.",
    "2. Edit the HTML, CSS and JS files as needed.",
    "3. Deploy the folder to any static host."]
  | .react => [
    "1. Install dependencies: `npm install`",
    "2. Start the dev server: `npm start`",
    "3. Build for production: `npm run build`"]
  | .nextjs => [
    "1. Install dependencies: `npm install`",
    "2. Start the dev server: `npm run dev`",
    "3. Build for production: `npm run build`"]

/-- The files that matter most. -/
def layout : ExportFormat → List String
  | .html => [
    "- `index.html` - page markup",
    "- `styles.css` - stylesheet",
    "- `script.js` - workflow tab switching"]
  | .react => [
    "- `src/App.tsx` - root component",
    "- `src/components/` - one component per block",
    "- `src/App.css` - stylesheet"]
  | .nextjs => [
    "- `src/app/page.tsx` - home page",
    "- `src/components/` - one component per block",
    "- `src/components/ui/` - UI kit used by the blocks",
    "- `src/app/globals.css` - global styles"]

def readme (name : String) (format : ExportFormat) (settings : ExportSettings) : String :=
  Text.document ([
    "# " ++ name,
    "",
    "Exported from **" ++ settings.generatorName ++ "** as a " ++ format.displayName ++ " project.",
    "",
    "## How to use",
    ""] ++ usage format ++ [
    "",
    "## Project structure",
    ""] ++ layout format)

/-- What generated pages say of their origin. -/
def origin (settings : ExportSettings) : String :=
  "Generated by " ++ settings.generatorName

end PageBuilder.Export
