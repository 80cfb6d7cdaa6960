import PageBuilder.Text.Lines
/-! The components that generated Next.js pages are made of. -/
namespace PageBuilder.Export.Kit

/-- A module of the kit: its name, the components it exports, and its source. -/
structure KitModule where
  name : String
  components : List String
  source : String
  deriving DecidableEq, Repr

def card : KitModule where
  name := "card"
  components := ["Card", "CardContent", "CardDescription", "CardHeader", "CardTitle"]
  source := Text.document [
    "import * as React from \"react\";",
    "import \x7b cn \x7d from \"@/lib/utils\";",
    "",
    "const Card = React.forwardRef<HTMLDivElement, React.HTMLAttributes<HTMLDivElement>>(",
    "  (\x7b className, ...props \x7d, ref) => (",
    "    <div ref=\x7bref\x7d className=\x7bcn(\"rounded-lg border bg-card text-card-foreground shadow-sm\", className)\x7d \x7b...props\x7d />",
    "  )",
    ");",
    "Card.displayName = \"Card\";",
    "",
    "const CardHeader = React.forwardRef<HTMLDivElement, React.HTMLAttributes<HTMLDivElement>>(",
    "  (\x7b className, ...props \x7d, ref) => (",
    "    <div ref=\x7bref\x7d className=\x7bcn(\"flex flex-col space-y-1.5 p-6\", className)\x7d \x7b...props\x7d />",
    "  )",
    ");",
    "CardHeader.displayName = \"CardHeader\";",
    "",
    "const CardTitle = React.forwardRef<HTMLHeadingElement, React.HTMLAttributes<HTMLHeadingElement>>(",
    "  (\x7b className, ...props \x7d, ref) => (",
    "    <h3 ref=\x7bref\x7d className=\x7bcn(\"text-2xl font-semibold leading-none tracking-tight\", className)\x7d \x7b...props\x7d />",
    "  )",
    ");",
    "CardTitle.displayName = \"CardTitle\";",
    "",
    "const CardDescription = React.forwardRef<HTMLParagraphElement, React.HTMLAttributes<HTMLParagraphElement>>(",
    "  (\x7b className, ...props \x7d, ref) => (",
    "    <p ref=\x7bref\x7d className=\x7bcn(\"text-sm text-muted-foreground\", className)\x7d \x7b...props\x7d />",
    "  )",
    ");",
    "CardDescription.displayName = \"CardDescription\";",
    "",
    "const CardContent = React.forwardRef<HTMLDivElement, React.HTMLAttributes<HTMLDivElement>>(",
    "  (\x7b className, ...props \x7d, ref) => <div ref=\x7bref\x7d className=\x7bcn(\"p-6 pt-0\", className)\x7d \x7b...props\x7d />",
    ");",
    "CardContent.displayName = \"CardContent\";",
    "",
    "export \x7b Card, CardHeader, CardTitle, CardDescription, CardContent \x7d;"]

def button : KitModule where
  name := "button"
  components := ["Button"]
  source := Text.document [
    "import * as React from \"react\";",
    "import \x7b cn \x7d from \"@/lib/utils\";",
    "",
    "export interface ButtonProps extends React.ButtonHTMLAttributes<HTMLButtonElement> \x7b",
    "  variant?: \"default\" | \"ghost\" | \"outline\";",
    "\x7d",
    "",
    "const Button = React.forwardRef<HTMLButtonElement, ButtonProps>(",
    "  (\x7b className, variant = \"default\", ...props \x7d, ref) => (",
    "    <button",
    "      ref=\x7bref\x7d",
    "      className=\x7bcn(",
    "        \"inline-flex h-10 items-center justify-center rounded-md px-4 py-2 text-sm font-medium transition-colors focus-visible:outline-none focus-visible:ring-2 disabled:pointer-events-none disabled:opacity-50\",",
    "        variant === \"default\" && \"bg-primary text-primary-foreground hover:bg-primary/90\",",
    "        variant === \"ghost\" && \"hover:bg-accent hover:text-accent-foreground\",",
    "        variant === \"outline\" && \"border border-input bg-background hover:bg-accent\",",
    "        className",
    "      )\x7d",
    "      \x7b...props\x7d",
    "    />",
    "  )",
    ");",
    "Button.displayName = \"Button\";",
    "",
    "export \x7b Button \x7d;"]

def badge : KitModule where
  name := "badge"
  components := ["Badge"]
  source := Text.document [
    "import * as React from \"react\";",
    "import \x7b cn \x7d from \"@/lib/utils\";",
    "",
    "export type BadgeProps = React.HTMLAttributes<HTMLDivElement>;",
    "",
    "function Badge(\x7b className, ...props \x7d: BadgeProps) \x7b",
    "  return (",
    "    <div",
    "      className=\x7bcn(\"inline-flex items-center rounded-full border px-2.5 py-0.5 text-xs font-semibold\", className)\x7d",
    "      \x7b...props\x7d",
    "    />",
    "  );",
    "\x7d",
    "",
    "export \x7b Badge \x7d;"]

def tabs : KitModule where
  name := "tabs"
  components := ["Tabs", "TabsContent", "TabsList", "TabsTrigger"]
  source := Text.document [
    "\"use client\";",
    "",
    "import * as React from \"react\";",
    "import * as TabsPrimitive from \"@radix-ui/react-tabs\";",
    "import \x7b cn \x7d from \"@/lib/utils\";",
    "",
    "const Tabs = TabsPrimitive.Root;",
    "",
    "const TabsList = React.forwardRef<",
    "  React.ElementRef<typeof TabsPrimitive.List>,",
    "  React.ComponentPropsWithoutRef<typeof TabsPrimitive.List>",
    ">((\x7b className, ...props \x7d, ref) => (",
    "  <TabsPrimitive.List",
    "    ref=\x7bref\x7d",
    "    className=\x7bcn(\"inline-flex h-10 items-center justify-center rounded-md bg-muted p-1 text-muted-foreground\", className)\x7d",
    "    \x7b...props\x7d",
    "  />",
    "));",
    "TabsList.displayName = TabsPrimitive.List.displayName;",
    "",
    "const TabsTrigger = React.forwardRef<",
    "  React.ElementRef<typeof TabsPrimitive.Trigger>,",
    "  React.ComponentPropsWithoutRef<typeof TabsPrimitive.Trigger>",
    ">((\x7b className, ...props \x7d, ref) => (",
    "  <TabsPrimitive.Trigger",
    "    ref=\x7bref\x7d",
    "    className=\x7bcn(",
    "      \"inline-flex items-center justify-center whitespace-nowrap rounded-sm px-3 py-1.5 text-sm font-medium transition-all data-[state=active]:bg-background data-[state=active]:text-foreground\",",
    "      className",
    "    )\x7d",
    "    \x7b...props\x7d",
    "  />",
    "));",
    "TabsTrigger.displayName = TabsPrimitive.Trigger.displayName;",
    "",
    "const TabsContent = React.forwardRef<",
    "  React.ElementRef<typeof TabsPrimitive.Content>,",
    "  React.ComponentPropsWithoutRef<typeof TabsPrimitive.Content>",
    ">((\x7b className, ...props \x7d, ref) => (",
    "  <TabsPrimitive.Content ref=\x7bref\x7d className=\x7bcn(\"mt-2 focus-visible:outline-none\", className)\x7d \x7b...props\x7d />",
    "));",
    "TabsContent.displayName = TabsPrimitive.Content.displayName;",
    "",
    "export \x7b Tabs, TabsList, TabsTrigger, TabsContent \x7d;"]

def separator : KitModule where
  name := "separator"
  components := ["Separator"]
  source := Text.document [
    "\"use client\";",
    "",
    "import * as React from \"react\";",
    "import * as SeparatorPrimitive from \"@radix-ui/react-separator\";",
    "import \x7b cn \x7d from \"@/lib/utils\";",
    "",
    "const Separator = React.forwardRef<",
    "  React.ElementRef<typeof SeparatorPrimitive.Root>,",
    "  React.ComponentPropsWithoutRef<typeof SeparatorPrimitive.Root>",
    ">((\x7b className, orientation = \"horizontal\", decorative = true, ...props \x7d, ref) => (",
    "  <SeparatorPrimitive.Root",
    "    ref=\x7bref\x7d",
    "    decorative=\x7bdecorative\x7d",
    "    orientation=\x7borientation\x7d",
    "    className=\x7bcn(\"shrink-0 bg-border\", orientation === \"horizontal\" ? \"h-[1px] w-full\" : \"h-full w-[1px]\", className)\x7d",
    "    \x7b...props\x7d",
    "  />",
    "));",
    "Separator.displayName = SeparatorPrimitive.Root.displayName;",
    "",
    "export \x7b Separator \x7d;"]

def label : KitModule where
  name := "label"
  components := ["Label"]
  source := Text.document [
    "\"use client\";",
    "",
    "import * as React from \"react\";",
    "import * as LabelPrimitive from \"@radix-ui/react-label\";",
    "import \x7b cn \x7d from \"@/lib/utils\";",
    "",
    "const Label = React.forwardRef<",
    "  React.ElementRef<typeof LabelPrimitive.Root>,",
    "  React.ComponentPropsWithoutRef<typeof LabelPrimitive.Root>",
    ">((\x7b className, ...props \x7d, ref) => (",
    "  <LabelPrimitive.Root ref=\x7bref\x7d className=\x7bcn(\"text-sm font-medium leading-none\", className)\x7d \x7b...props\x7d />",
    "));",
    "Label.displayName = LabelPrimitive.Root.displayName;",
    "",
    "export \x7b Label \x7d;"]

def input : KitModule where
  name := "input"
  components := ["Input"]
  source := Text.document [
    "import * as React from \"react\";",
    "import \x7b cn \x7d from \"@/lib/utils\";",
    "",
    "export type InputProps = React.InputHTMLAttributes<HTMLInputElement>;",
    "",
    "const Input = React.forwardRef<HTMLInputElement, InputProps>((\x7b className, type, ...props \x7d, ref) => (",
    "  <input",
    "    ref=\x7bref\x7d",
    "    type=\x7btype\x7d",
    "    className=\x7bcn(",
    "      \"flex h-10 w-full rounded-md border border-input bg-background px-3 py-2 text-sm placeholder:text-muted-foreground focus-visible:outline-none focus-visible:ring-2 focus-visible:ring-ring disabled:cursor-not-allowed disabled:opacity-50\",",
    "      className",
    "    )\x7d",
    "    \x7b...props\x7d",
    "  />",
    "));",
    "Input.displayName = \"Input\";",
    "",
    "export \x7b Input \x7d;"]

/-- The modules in the order in which they are written out. -/
def kit : List KitModule :=
  [card, button, badge, tabs, separator, label, input]

/-- The modules in the order of their names. -/
def kitByName : List KitModule :=
  [badge, button, card, input, label, separator, tabs]

end PageBuilder.Export.Kit
