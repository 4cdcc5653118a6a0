import DocShape.Failure
import DocShape.Json.Writer
import DocShape.Report
import DocShape.Screen.Code
import DocShape.Screen.Panel
import DocShape.Shape.Written

/-!
# What the program shows

Each thing the program tells a person, as the lines it fills on the screen: headings, short
messages, schemas as trees, JSON values, failures and reports.
-/

set_option autoImplicit false

namespace DocShape.Screen

/-- Styled text in lines that fit the screen. -/
def paragraph (markup : Text) : List Text := wrap width (shown markup)

/-- A heading, underlined, with empty lines around it. -/
def heading (title : Text) : List Text :=
  [] :: paragraph ("[bold cyan]".toList ++ escape title ++ "[/bold cyan]".toList) ++
    wrap width [List.replicate title.length '='] ++ [[]]

/-- A message about a success. -/
def success (message : Text) : List Text := paragraph ("[green]✓[/green] ".toList ++ escape message)

/-- A message about an error. -/
def error (message : Text) : List Text := paragraph ("[red]✗[/red] ".toList ++ escape message)

/-- A message that informs. -/
def info (message : Text) : List Text := paragraph ("[blue]ℹ[/blue] ".toList ++ escape message)

/-- A text as it is, on lines as long as they are. -/
def verbatim (text : Text) : List Text :=
  (Text.splitAll '\n' (withoutControls text)).map fun line => (Runs.untabbed [line]).plain

/-- A rule between two parts. -/
def separator : List Text := [rule 70]

mutual

/-- The tree of a shape below its key. -/
def shapeTrees : Shape → List LabelTree
  | .primitive _ => []
  | .array items => shapeTrees items
  | .object properties => schemaTrees properties

/-- The trees of the properties of a schema. -/
def schemaTrees : Schema → List LabelTree
  | [] => []
  | (key, shape) :: properties =>
      .node
        (shown ("[cyan]".toList ++ escape key ++ "[/cyan]: ".toList ++ escape shape.label))
        (shapeTrees shape) ::
        schemaTrees properties

end

/-- A schema as a tree under a title. -/
def schemaTree (title : Text) (schema : Schema) : List Text :=
  (LabelTree.node (shown ("[bold cyan]".toList ++ escape title ++ "[/bold cyan]".toList))
    (schemaTrees schema)).lines

/-- The title of a schema's tree, where no other is given. -/
def treeTitle : Text := "schema".toList

/-- Code, in a panel if there is a title. -/
def codeView (title : Option Text) (text : Text) : List Text :=
  match title with
  | some (c :: title) =>
      panel (shown ("[bold]".toList ++ escape (c :: title) ++ "[/bold]".toList))
        (codeLines panelWidth text)
  | _ => (codeLines width text).map (Runs.line width)

/-- A JSON value over several lines, in a panel if there is a title. -/
def json (title : Option Text) (value : Json) : List Text :=
  codeView title (value.write Json.indented)

/-- The styled lines of a message chain, each two spaces further in than the one before. -/
def bullets : (indent : Nat) → List Text → List Text
  | _, [] => []
  | indent, message :: messages =>
      (Text.spaces indent ++ "[red]•[/red] ".toList ++ escape message) ::
        bullets (indent + 2) messages

/-- The message chain of a failed parse. -/
def failure (chain : MessageChain) : List Text :=
  panel (shown "[bold red]Parse Error[/bold red]".toList)
    (Runs.wrap panelWidth (shown (Text.joinWith ['\n'] (bullets 0 chain.toList))))

/-- What is put on the screen, and the fault that ends it early, if there is one. -/
structure Showing where
  lines : List Text
  fault : Option MarkupFault

/-- The styled text of a report. -/
def reportMarkup (report : Report) : Text :=
  "  [red]•[/red] At ".toList ++ escape report.path ++ ": ".toList ++ escape report.message

/-- The lines of some reports and of the empty line behind them, up to the first report whose styled
text is faulty. -/
def reportLines : List Report → Showing
  | [] => ⟨[[]], none⟩
  | report :: list =>
      match markupFault? (reportMarkup report) with
      | some fault => ⟨[], some fault⟩
      | none =>
          let rest := reportLines list
          ⟨paragraph (reportMarkup report) ++ rest.lines, rest.fault⟩

/-- Reports on a document, one below the other. -/
def reports : List Report → Showing
  | [] => ⟨[], none⟩
  | list =>
      let shown := reportLines list
      ⟨[] :: paragraph "[bold red]Validation Errors:[/bold red]".toList ++ shown.lines,
        shown.fault⟩

end DocShape.Screen
