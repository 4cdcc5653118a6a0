import DocShape.Screen.Cluster
import DocShape.Screen.Markup

/-!
# Lines that fit

Text is broken between words so that lines fit a width. A word is a run of characters that are not
blank with the blanks around it; it stays on the line when it fits without the blanks behind it. A
word that is longer than a whole line begins a new line, unless it begins the text, and is cut into
pieces of the full width.

Width is counted in cells. Where a line is broken is decided by the text as a whole; what a finished
line fills is counted run by run, since each run is drawn by itself.
-/

set_option autoImplicit false

namespace DocShape.Screen

namespace Runs

/-- The text of all runs. -/
def plain (runs : Runs) : Text := runs.flatten

/-- How many cells runs fill that are drawn one after the other. -/
def cells (runs : Runs) : Nat := runs.foldl (fun total run => total + textCells run) 0

/-- The first `n` characters. -/
def front : Nat → Runs → Runs
  | _, [] => []
  | n, run :: runs =>
      if n ≤ run.length then [run.take n] else run :: front (n - run.length) runs

/-- What follows the first `n` characters. -/
def back : Nat → Runs → Runs
  | _, [] => []
  | n, run :: runs =>
      if n < run.length then run.drop n :: runs else back (n - run.length) runs

/-- Consecutive pieces of the given lengths. -/
def divide : List Nat → Runs → List Runs
  | [], _ => []
  | n :: lengths, runs => front n runs :: divide lengths (back n runs)

/-- The lines of one run put before the lines of the runs behind it. -/
def glue : List Text → List Runs → List Runs
  | [], lines => lines
  | [part], [] => [[part]]
  | [part], line :: lines => (part :: line) :: lines
  | part :: parts, lines => [part] :: glue parts lines

/-- The lines between line feeds. -/
def lines (runs : Runs) : List Runs :=
  runs.foldr (fun run lines => glue (Text.splitAll '\n' run) lines) [[]]

/-- Runs cut to at most `width` cells of their text as a whole. -/
def truncated (width : Nat) (runs : Runs) : Runs :=
  if textCells runs.plain ≤ width then runs
  else
    let (length, gap) := fitLength width (clusters runs.plain)
    front length runs ++ (if gap then [[' ']] else [])

/-- Runs cut to at most `width` cells, the last one where the line is full. -/
def cutRuns (width : Nat) : Runs → Runs
  | [] => []
  | run :: runs =>
      if textCells run < width then run :: cutRuns (width - textCells run) runs
      else [fitting width run]

/-- Runs as they are drawn on a line of `width` cells. -/
def drawn (width : Nat) (runs : Runs) : Runs :=
  if runs.cells ≤ width then runs else cutRuns width runs

/-- Runs on a line of `width` cells, filled up with spaces. -/
def filled (width : Nat) (runs : Runs) : Runs :=
  runs.drawn width ++ [Text.spaces (width - (runs.drawn width).cells)]

/-- The text of a line of `width` cells. -/
def line (width : Nat) (runs : Runs) : Text := (runs.drawn width).plain

end Runs

/-- How many spaces each tabulator between some parts of a line is replaced by. Stops are `size`
cells apart, and the first part begins at the given column. A tabulator is at least one space, and
that space is measured with the part before it. -/
def tabGaps (size column : Nat) : List Text → List Nat
  | part :: next :: parts =>
      let column := column + textCells (part ++ [' '])
      let gap := (size - column % size) % size
      (gap + 1) :: tabGaps size (column + gap) (next :: parts)
  | _ => []

/-- A run with its tabulators replaced by the given numbers of spaces, and the numbers left for the
runs behind it. -/
def fillTabs : List Nat → Text → Text × List Nat
  | gaps, [] => ([], gaps)
  | gaps, c :: text =>
      match gaps, c with
      | gap :: gaps, '\t' =>
          let (filled, gaps) := fillTabs gaps text
          (Text.spaces gap ++ filled, gaps)
      | gaps, c =>
          let (filled, gaps) := fillTabs gaps text
          (c :: filled, gaps)

/-- Runs with their tabulators replaced by the given numbers of spaces. -/
def Runs.fillTabs : List Nat → Runs → Runs
  | _, [] => []
  | gaps, run :: runs =>
      let (filled, gaps) := Screen.fillTabs gaps run
      filled :: Runs.fillTabs gaps runs

/-- The distance between tabulator stops on the screen. -/
def tabSize : Nat := 8

/-- A line without tabulators. -/
def Runs.untabbed (line : Runs) : Runs :=
  line.fillTabs (tabGaps tabSize 0 (Text.splitAll '\t' line.plain))

/-- The words of a text with the blanks around them: the first word takes the blanks before it, and
each word the blanks behind it. The first argument is the word under way, the second says whether
the word has begun, the third whether blanks behind it have. -/
def wordsFrom (word : Text) : (begun ended : Bool) → Text → List Text
  | begun, _, [] => if begun then [word] else []
  | begun, ended, c :: text =>
      if Text.isBlank c then wordsFrom (word ++ [c]) begun begun text
      else if ended then word :: wordsFrom [c] true false text
      else wordsFrom (word ++ [c]) true false text

/-- Lines so far: the finished ones in reverse order, the line under way, and the column where it
goes on. -/
structure Lines where
  done : List Text
  line : Text
  column : Nat

/-- A word put behind the lines so far. -/
def Lines.put (width : Nat) (lines : Lines) (word : Text) : Lines :=
  let length := textCells (Text.trimRight word)
  if lines.column + length ≤ width then
    { lines with line := lines.line ++ word, column := lines.column + textCells word }
  else if width < length then
    let first := lines.done.isEmpty && lines.line.isEmpty
    match (pieces width word).reverse with
    | [] => lines
    | last :: earlier =>
        { done := earlier ++ (if first then [] else lines.line :: lines.done)
          line := last
          column := textCells last }
  else { done := lines.line :: lines.done, line := word, column := textCells word }

/-- One line of text broken into lines that fit. -/
def brokenLines (width : Nat) (text : Text) : List Text :=
  match wordsFrom [] false false text with
  | [] => [text]
  | words =>
      let lines := words.foldl (Lines.put width) { done := [], line := [], column := 0 }
      (lines.line :: lines.done).reverse

/-- A line made to fit: where it has more characters than cells are there, blanks at its end go
first, and then it is cut. -/
def Runs.cropped (width : Nat) (line : Runs) : Runs :=
  let length := line.plain.length
  let blanks := length - (Text.trimRight line.plain).length
  (line.front (length - min blanks (length - width))).truncated width

/-- One line broken into lines that fit. -/
def Runs.wrapLine (width : Nat) (line : Runs) : List Runs :=
  (line.divide ((brokenLines width line.plain).map List.length)).map (Runs.cropped width)

/-- Runs broken into lines that fit. -/
def Runs.wrap (width : Nat) (runs : Runs) : List Runs :=
  runs.lines.flatMap fun line => line.untabbed.wrapLine width

/-- Styled text in lines of `width` cells. -/
def wrap (width : Nat) (runs : Runs) : List Text := (runs.wrap width).map (Runs.line width)

end DocShape.Screen
