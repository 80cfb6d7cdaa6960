import PageBuilder.Text.Lines
/-! Files of generated projects that are the same in all of them. -/
namespace PageBuilder.Export.Assets

def gitignore : String :=
  Text.document [
    "# dependencies",
    "/node_modules",
    "/.pnp",
    ".pnp.js",
    "",
    "# testing",
    "/coverage",
    "",
    "# next.js",
    "/.next/",
    "/out/",
    "",
    "# production",
    "/build",
    "",
    "# misc",
    ".DS_Store",
    "*.pem",
    "",
    "# debug",
    "npm-debug.log*",
    "yarn-debug.log*",
    "yarn-error.log*",
    "",
    "# local env files",
    ".env*.local",
    "",
    "# typescript",
    "*.tsbuildinfo",
    "next-env.d.ts"]

def reactIndex : String :=
  Text.document [
    "import React from 'react';",
    "import ReactDOM from 'react-dom/client';",
    "import App from './App';",
    "",
    "const root = ReactDOM.createRoot(document.getElementById('root') as HTMLElement);",
    "root.render(",
    "  <React.StrictMode>",
    "    <App />",
    "  </React.StrictMode>",
    ");"]

def nextConfig : String :=
  Text.document [
    "/** @type \x7bimport('next').NextConfig\x7d */",
    "const nextConfig = \x7b\x7d;",
    "",
    "export default nextConfig;"]

def postcssConfig : String :=
  Text.document [
    "export default \x7b",
    "  plugins: \x7b",
    "    tailwindcss: \x7b\x7d,",
    "    autoprefixer: \x7b\x7d,",
    "  \x7d,",
    "\x7d;"]

def tailwindConfig : String :=
  Text.document [
    "import type \x7b Config \x7d from \"tailwindcss\";",
    "",
    "const config: Config = \x7b",
    "  content: [",
    "    \"./src/components/**/*.\x7bjs,ts,jsx,tsx,mdx\x7d\",",
    "    \"./src/app/**/*.\x7bjs,ts,jsx,tsx,mdx\x7d\",",
    "  ],",
    "  theme: \x7b",
    "    extend: \x7b",
    "      colors: \x7b",
    "        border: \"hsl(var(--border))\",",
    "        input: \"hsl(var(--input))\",",
    "        ring: \"hsl(var(--ring))\",",
    "        background: \"hsl(var(--background))\",",
    "        foreground: \"hsl(var(--foreground))\",",
    "        primary: \x7b",
    "          DEFAULT: \"hsl(var(--primary))\",",
    "          foreground: \"hsl(var(--primary-foreground))\",",
    "        \x7d,",
    "        muted: \x7b",
    "          DEFAULT: \"hsl(var(--muted))\",",
    "          foreground: \"hsl(var(--muted-foreground))\",",
    "        \x7d,",
    "        accent: \x7b",
    "          DEFAULT: \"hsl(var(--accent))\",",
    "          foreground: \"hsl(var(--accent-foreground))\",",
    "        \x7d,",
    "        card: \x7b",
    "          DEFAULT: \"hsl(var(--card))\",",
    "          foreground: \"hsl(var(--card-foreground))\",",
    "        \x7d,",
    "      \x7d,",
    "      borderRadius: \x7b",
    "        lg: \"var(--radius)\",",
    "        md: \"calc(var(--radius) - 2px)\",",
    "        sm: \"calc(var(--radius) - 4px)\",",
    "      \x7d,",
    "    \x7d,",
    "  \x7d,",
    "  plugins: [],",
    "\x7d;",
    "",
    "export default config;"]

def tailwindGlobals : String :=
  Text.document [
    "@tailwind base;",
    "@tailwind components;",
    "@tailwind utilities;",
    "",
    "@layer base \x7b",
    "  :root \x7b",
    "    --background: 222 47% 11%;",
    "    --foreground: 210 40% 98%;",
    "    --card: 222 47% 11%;",
    "    --card-foreground: 210 40% 98%;",
    "    --primary: 142 76% 36%;",
    "    --primary-foreground: 222 47% 11%;",
    "    --muted: 217 33% 17%;",
    "    --muted-foreground: 215 20% 65%;",
    "    --accent: 217 33% 17%;",
    "    --accent-foreground: 210 40% 98%;",
    "    --border: 217 33% 17%;",
    "    --input: 217 33% 17%;",
    "    --ring: 142 76% 36%;",
    "    --radius: 0.5rem;",
    "  \x7d",
    "",
    "  * \x7b",
    "    @apply border-border;",
    "  \x7d",
    "",
    "  body \x7b",
    "    @apply bg-background text-foreground antialiased;",
    "  \x7d",
    "\x7d"]

/-- The function that joins class names. -/
def classNames : String :=
  Text.document [
    "type ClassValue = string | false | null | undefined | Record<string, boolean>;",
    "",
    "export function cn(...inputs: ClassValue[]): string \x7b",
    "  const classes: string[] = [];",
    "  for (const input of inputs) \x7b",
    "    if (!input) continue;",
    "    if (typeof input === \"string\") \x7b",
    "      classes.push(input);",
    "    \x7d else \x7b",
    "      for (const [key, enabled] of Object.entries(input)) \x7b",
    "        if (enabled) classes.push(key);",
    "      \x7d",
    "    \x7d",
    "  \x7d",
    "  return classes.join(\" \");",
    "\x7d"]

end PageBuilder.Export.Assets
