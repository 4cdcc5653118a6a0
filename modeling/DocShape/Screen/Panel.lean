import DocShape.Screen.Wrap

/-!
# Panels and trees

A panel is a frame across the screen with a title in the middle of its upper edge. A tree shows
labels below each other with guides that lead to them; a label that does not fit is broken, and the
guides go on beside its further lines. Where the guides fill the screen, nothing is shown.
-/

set_option autoImplicit false

namespace DocShape.Screen

/-- The width of the screen. -/
def width : Nat := 80

/-- The width of the text in a panel. -/
def panelWidth : Nat := width - 4

/-- A horizontal rule of `n` cells. -/
def rule (n : Nat) : Text := List.replicate n '─'

/-- The upper edge of a panel: the title between spaces in the middle of a rule, one cell further
left when it cannot be in the middle. -/
def upperEdge (title : Runs) : Text :=
  let line := Runs.untabbed (title.map (·.map fun c => if c = '\n' then ' ' else c))
  let label := Runs.truncated panelWidth ([' '] :: line ++ [[' ']])
  let space := panelWidth - textCells label.plain
  Runs.line width
    ("╭─".toList :: rule (space / 2) :: label ++ [rule (space - space / 2), "─╮".toList])

/-- The lower edge of a panel. -/
def lowerEdge : Text := '╰' :: rule (width - 2) ++ ['╯']

/-- A line between the edges of a panel, with a space on each side. -/
def panelLine (line : Runs) : Text :=
  let spaced : Runs := [' '] :: line.filled panelWidth ++ [[' ']]
  Runs.line width (['│'] :: spaced.filled (width - 2) ++ [['│']])

/-- Lines in a panel with a title. -/
def panel (title : Runs) (lines : List Runs) : List Text :=
  upperEdge title :: lines.map panelLine ++ [lowerEdge]

/-- A tree of labels. -/
inductive LabelTree where
  | node (label : Runs) (children : List LabelTree)

/-- The lines of a label beside its guides: `first` leads to the first line, `further` goes on
beside the others. -/
def labelLines (first further : Text) (label : Runs) : List Text :=
  if width ≤ textCells first then []
  else
    let space := width - textCells first
    match (label.wrap space).map (Runs.drawn space) with
    | [] => []
    | line :: lines =>
        Runs.line width (first :: line) :: lines.map fun line => Runs.line width (further :: line)

mutual

/-- The lines of a tree with the given guides before its label and before what is below it. -/
def LabelTree.linesWith (first further : Text) : LabelTree → List Text
  | .node label children => labelLines first further label ++ LabelTree.childLines further children

/-- The lines of the trees below a label; `guides` go on before all of them. -/
def LabelTree.childLines (guides : Text) : List LabelTree → List Text
  | [] => []
  | [child] => child.linesWith (guides ++ "└── ".toList) (guides ++ "    ".toList)
  | child :: next :: children =>
      child.linesWith (guides ++ "├── ".toList) (guides ++ "│   ".toList) ++
        LabelTree.childLines guides (next :: children)

end

/-- The lines of a tree. -/
def LabelTree.lines (tree : LabelTree) : List Text := tree.linesWith [] []

end DocShape.Screen
