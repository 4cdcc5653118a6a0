import DocShape.Screen.Cells

/-!
# Clusters

A text is cut into lines only between clusters. A cluster is a character that fills cells with what
is drawn into it: marks that fill none, picture selectors, and joiners with the characters behind
them. At the beginning of a text such a mark has nothing to be drawn into and is a cluster by
itself.
-/

set_option autoImplicit false

namespace DocShape.Screen

/-- A piece of text that is not cut, and the cells it fills. -/
structure Cluster where
  text : Text
  cells : Nat
deriving DecidableEq

/-- A cluster with more at its end. -/
def Cluster.extend (cluster : Cluster) (c : Char) (more : Nat) : Cluster :=
  { text := cluster.text ++ [c], cells := cluster.cells + more }

/-- The clusters of a text that goes on behind the cluster `current`. The second argument is the
last character that fills cells and was not widened, the third says whether a joiner waits for the
character it joins. -/
def clustersFrom (current : Cluster) (last : Option Char) : (joining : Bool) → Text → List Cluster
  | _, [] => [current]
  | true, c :: text => clustersFrom (current.extend c 0) last false text
  | false, c :: text =>
      if c = joiner then clustersFrom (current.extend c 0) last true text
      else if c = pictureSelector then
        clustersFrom (current.extend c (widened last))
          (if widened last = 0 then last else none) false text
      else if cells c = 0 then clustersFrom (current.extend c 0) last false text
      else current :: clustersFrom ⟨[c], cells c⟩ (some c) false text

/-- The clusters of a text. -/
def clusters : Text → List Cluster
  | [] => []
  | c :: text =>
      if c = joiner || c = pictureSelector || cells c = 0 then
        clustersFrom ⟨[c], 0⟩ none false text
      else clustersFrom ⟨[c], cells c⟩ (some c) false text

/-- How many characters stand at the front of some clusters in at most `width` cells, and whether
a cell is left over because the next cluster is too wide for it. -/
def fitLength (width : Nat) : List Cluster → Nat × Bool
  | [] => (0, false)
  | cluster :: clusters =>
      if cluster.cells ≤ width then
        let (length, gap) := fitLength (width - cluster.cells) clusters
        (cluster.text.length + length, gap)
      else (0, decide (0 < width))

/-- A text cut to at most `width` cells. A cell that half a wide cluster would need is filled with a
space. -/
def fitting (width : Nat) (text : Text) : Text :=
  if textCells text ≤ width then text
  else
    let (length, gap) := fitLength width (clusters text)
    text.take length ++ (if gap then [' '] else [])

/-- The pieces of some clusters that fill at most `width` cells each; `piece` is the piece under way
and `filled` the cells it fills. -/
def piecesFrom (width : Nat) (piece : Text) (filled : Nat) : List Cluster → List Text
  | [] => [piece]
  | cluster :: clusters =>
      if width < filled + cluster.cells then
        piece :: piecesFrom width cluster.text cluster.cells clusters
      else piecesFrom width (piece ++ cluster.text) (filled + cluster.cells) clusters

/-- The pieces of a text that fill `width` cells each, but the last. -/
def pieces (width : Nat) (text : Text) : List Text := piecesFrom width [] 0 (clusters text)

end DocShape.Screen
