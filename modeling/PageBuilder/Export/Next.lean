import PageBuilder.Export.KitMarkup
import PageBuilder.Export.React
/-! The Next.js export: a project whose components are made of the kit. -/
namespace PageBuilder.Export.Next

open Json (Value)

def component (settings : ExportSettings) (s : PageSection) : String :=
  let node := Kit.render settings s
  Text.document (["import React from 'react';"] ++ Kit.imports node ++ [
    "",
    "export default function " ++ s.componentName ++ "() \x7b",
    "  return (",
    Markup.render [node] .jsx 2,
    "  );",
    "\x7d"])

def page (names : List String) : String :=
  Text.document (["import React from 'react';"] ++
    (names.map fun n => "import " ++ n ++ " from '@/components/" ++ n ++ "';") ++ [
    "",
    "export default function Home() \x7b",
    "  return (",
    "    <main className=\"min-h-screen bg-slate-900 p-8\">",
    "      <div className=\"mx-auto max-w-7xl space-y-6\">"] ++
    (names.map fun n => "        <" ++ n ++ " />") ++ [
    "      </div>",
    "    </main>",
    "  );",
    "\x7d"])

def layoutSource (name : String) (settings : ExportSettings) : String :=
  Text.document [
    "import type \x7b Metadata \x7d from 'next';",
    "import type \x7b ReactNode \x7d from 'react';",
    "import './globals.css';",
    "",
    "export const metadata: Metadata = \x7b",
    "  title: " ++ Json.literal name ++ ",",
    "  description: " ++ Json.literal (origin settings) ++ ",",
    "\x7d;",
    "",
    "export default function RootLayout(\x7b children \x7d: \x7b children: ReactNode \x7d) \x7b",
    "  return (",
    "    <html lang=\x7b" ++ Json.literal settings.htmlLang ++ "\x7d>",
    "      <body>\x7bchildren\x7d</body>",
    "    </html>",
    "  );",
    "\x7d"]

def packageJson (name : String) : Value :=
  .object [
    textMember "name" (Text.slug name),
    textMember "version" "0.1.0",
    trueMember "private",
    textMember "type" "module",
    ("scripts", .object [
      textMember "dev" "next dev",
      textMember "build" "next build",
      textMember "start" "next start",
      textMember "lint" "next lint"]),
    ("dependencies", .object [
      textMember "react" "^18.2.0",
      textMember "react-dom" "^18.2.0",
      textMember "next" "^14.0.0",
      textMember "@radix-ui/react-tabs" "^1.0.4",
      textMember "@radix-ui/react-separator" "^1.0.3",
      textMember "@radix-ui/react-label" "^2.0.2"]),
    ("devDependencies", .object [
      textMember "typescript" "^5.0.0",
      textMember "@types/node" "^20.0.0",
      textMember "@types/react" "^18.2.0",
      textMember "@types/react-dom" "^18.2.0",
      textMember "tailwindcss" "^3.4.0",
      textMember "autoprefixer" "^10.4.16",
      textMember "postcss" "^8.4.32"])]

def tsconfig : Value :=
  .object [
    ("compilerOptions", .object [
      textMember "target" "ES2017",
      textsMember "lib" ["dom", "dom.iterable", "esnext"],
      trueMember "allowJs",
      trueMember "skipLibCheck",
      trueMember "strict",
      trueMember "noEmit",
      trueMember "esModuleInterop",
      textMember "module" "esnext",
      textMember "moduleResolution" "bundler",
      trueMember "resolveJsonModule",
      trueMember "isolatedModules",
      textMember "jsx" "preserve",
      trueMember "incremental",
      ("plugins", .array [.object [textMember "name" "next"]]),
      ("paths", .object [textsMember "@/*" ["./src/*"]])]),
    textsMember "include" ["next-env.d.ts", "**/*.ts", "**/*.tsx", ".next/types/**/*.ts"],
    textsMember "exclude" ["node_modules"]]

def kitFile (m : Kit.KitModule) : ExportFile :=
  ⟨"src/components/ui/" ++ m.name ++ ".tsx", m.source⟩

def files (sections : List PageSection) (name : String) (settings : ExportSettings) :
    List ExportFile := [
  ⟨"src/app/page.tsx", page (sections.map PageSection.componentName)⟩] ++
  (sections.map fun s => ⟨componentPath s, component settings s⟩) ++
  Kit.kit.map kitFile ++ [
  ⟨"src/lib/utils.ts", Assets.classNames⟩,
  ⟨"src/app/globals.css", Assets.tailwindGlobals⟩,
  ⟨"src/app/layout.tsx", layoutSource name settings⟩,
  ⟨"tailwind.config.ts", Assets.tailwindConfig⟩,
  ⟨"postcss.config.mjs", Assets.postcssConfig⟩,
  ⟨"package.json", jsonDocument (packageJson name)⟩,
  ⟨"next.config.js", Assets.nextConfig⟩,
  ⟨"tsconfig.json", jsonDocument tsconfig⟩,
  ⟨".gitignore", Assets.gitignore⟩,
  ⟨"README.md", readme name .nextjs settings⟩]

end PageBuilder.Export.Next
