import PageBuilder.Export.Assets.Project
import PageBuilder.Export.Html
import PageBuilder.Text.Slug
/-! The React export: a project with a component for every section. -/
namespace PageBuilder.Export

open Json (Value)
open Markup

/-- A member with a text, and one with a list of texts. -/
def textMember (key text : String) : String × Value := (key, .string text)
def textsMember (key : String) (texts : List String) : String × Value :=
  (key, .array (texts.map .string))
def trueMember (key : String) : String × Value := (key, .bool true)

/-- An indented document with a line feed at its end. -/
def jsonDocument (v : Value) : String :=
  v.pretty ++ "\n"

def componentPath (s : PageSection) : String :=
  "src/components/" ++ s.componentName ++ ".tsx"

namespace React

/-- A workflow keeps which of its tabs is active. -/
def stateLines : Option Block.Props → List String
  | some (.workflow _) => ["  const [active, setActive] = React.useState(0);", ""]
  | _ => []

def component (settings : ExportSettings) (s : PageSection) : String :=
  Text.document ([
    "import React from 'react';",
    "",
    "export default function " ++ s.componentName ++ "() \x7b"] ++ stateLines s.props ++ [
    "  return (",
    Markup.render [Plain.render .state settings s] .jsx 2,
    "  );",
    "\x7d"])

def container (names : List String) : List String :=
  if names.isEmpty then ["    <div className=\"container\" />"]
  else
    ["    <div className=\"container\">"] ++ (names.map fun n => "      <" ++ n ++ " />") ++
      ["    </div>"]

def app (names : List String) : String :=
  Text.document ([
    "import React from 'react';",
    "import './App.css';"] ++
    (names.map fun n => "import " ++ n ++ " from './components/" ++ n ++ "';") ++ [
    "",
    "function App() \x7b",
    "  return ("] ++ container names ++ [
    "  );",
    "\x7d",
    "",
    "export default App;"])

def packageJson (name : String) : Value :=
  .object [
    textMember "name" (Text.slug name),
    textMember "version" "0.1.0",
    trueMember "private",
    ("dependencies", .object [
      textMember "react" "^18.2.0",
      textMember "react-dom" "^18.2.0",
      textMember "react-scripts" "^5.0.1"]),
    ("devDependencies", .object [
      textMember "typescript" "^5.0.0",
      textMember "@types/react" "^18.2.0",
      textMember "@types/react-dom" "^18.2.0"]),
    ("scripts", .object [
      textMember "start" "react-scripts start",
      textMember "build" "react-scripts build",
      textMember "test" "react-scripts test"]),
    ("browserslist", .object [
      textsMember "production" [">0.2%", "not dead", "not op_mini all"],
      textsMember "development"
        ["last 1 chrome version", "last 1 firefox version", "last 1 safari version"]])]

def tsconfig : Value :=
  .object [
    ("compilerOptions", .object [
      textMember "target" "es5",
      textsMember "lib" ["dom", "dom.iterable", "esnext"],
      trueMember "allowJs",
      trueMember "skipLibCheck",
      trueMember "esModuleInterop",
      trueMember "allowSyntheticDefaultImports",
      trueMember "strict",
      trueMember "forceConsistentCasingInFileNames",
      trueMember "noFallthroughCasesInSwitch",
      textMember "module" "esnext",
      textMember "moduleResolution" "node",
      trueMember "resolveJsonModule",
      trueMember "isolatedModules",
      trueMember "noEmit",
      textMember "jsx" "react-jsx"]),
    textsMember "include" ["src"]]

/-- The page that the project's app is mounted on. -/
def hostTree (name : String) (settings : ExportSettings) : Node :=
  pageTree name settings []
    (el "body" [] [
      label "noscript" [] "You need to enable JavaScript to run this app.",
      el "div" [fixedAttr "id" "root"] []])

def hostPage (name : String) (settings : ExportSettings) : String :=
  pageText (hostTree name settings)

def files (sections : List PageSection) (name : String) (settings : ExportSettings) :
    List ExportFile := [
  ⟨"src/App.tsx", app (sections.map PageSection.componentName)⟩,
  ⟨"src/index.tsx", Assets.reactIndex⟩] ++
  (sections.map fun s => ⟨componentPath s, component settings s⟩) ++ [
  ⟨"src/App.css", Assets.stylesheet⟩,
  ⟨"public/index.html", hostPage name settings⟩,
  ⟨"package.json", jsonDocument (packageJson name)⟩,
  ⟨"tsconfig.json", jsonDocument tsconfig⟩,
  ⟨".gitignore", Assets.gitignore⟩,
  ⟨"README.md", readme name .react settings⟩]

end React

end PageBuilder.Export
