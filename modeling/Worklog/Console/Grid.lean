import Worklog.Console.Markup
import Worklog.Console.Wrap
import Worklog.Number.Rounding

/-!
# Grids

A grid shows cells in rows and columns between ruled lines, under headings and a title. Headings
and cells are marked-up texts. A column is as wide as its widest cell, with one space on each side;
if the columns together are too wide, the widest ones give way (`shrink`) and their cells are
wrapped.

`Grid.lines` gives the lines of a grid.
-/

namespace Worklog

/-- The side to which a column is justified. -/
inductive Side where
  | left
  | right
  deriving DecidableEq, Repr

/-- A column of a grid. -/
structure Column where
  heading : Text
  side : Side
  cells : List Text

/-- A grid; all columns have the same number of cells. -/
structure Grid where
  title : Text
  columns : List Column

/-- The grid of some rows of cells under headings. -/
def Grid.ofRows (title : Text) (headings : List (String × Side)) (rows : List (List Text)) : Grid :=
  ⟨title, headings.zipIdx.map fun h =>
    ⟨h.1.1.toList, h.1.2, rows.map fun row => (row[h.2]?).getD []⟩⟩

namespace Grid

open Worklog.Text Worklog.Console

/-! ## 1. Widths -/

/-- The cells that some columns take up together. -/
def total (ws : List Nat) : Nat := ws.foldr (· + ·) 0

/-- The widest of some texts, line by line. -/
def widest (ts : List Text) : Nat :=
  ((ts.flatMap Text.lines).map Text.cells).foldl max 0

/-- The width that a column asks for, which is all there is at most. -/
def askedWidth (room : Nat) (c : Column) : Nat := min room (widest (c.heading :: c.cells) + 2)

/-- Gives a part of an excess to each of some equally wide columns: what is left is shared out
    evenly among the columns that are left, a half going to the even neighbour, but no column gives
    more than `most`. -/
def giveWay (widthest most : Nat) : Nat → Nat → List Nat → List Nat
  | _, _, [] => []
  | excess, sharing, w :: rest =>
    if w = widthest && 0 < sharing then
      let share := min most (Number.nearestNat excess sharing)
      (w - share) :: giveWay widthest most (excess - share) (sharing - 1) rest
    else w :: giveWay widthest most excess sharing rest

/-- One round of giving way: the widest columns give up to what they have more than the next. -/
def shrinkOnce (room : Nat) (ws : List Nat) : List Nat :=
  let top := ws.foldl max 0
  let next := (ws.filter (· != top)).foldl max 0
  let excess := total ws - room
  giveWay top (min excess (top - next)) excess (ws.filter (· == top)).length ws

/-- Rounds of giving way, while the columns are too wide. -/
def shrinkFor : Nat → Nat → List Nat → List Nat
  | 0, _, ws => ws
  | rounds + 1, room, ws =>
    if total ws ≤ room then ws else shrinkFor rounds room (shrinkOnce room ws)

/-- **Widths that fit into a room.** Every round takes one cell away at least. -/
def shrink (room : Nat) (ws : List Nat) : List Nat := shrinkFor (total ws - room) room ws

/-- The widths of the columns where so many cells are to be had in a line. -/
def widths (room : Nat) (columns : List Column) : List Nat :=
  let room := room - (columns.length + 1)
  shrink room (columns.map (askedWidth room))

/-! ## 2. Cells -/

/-- A line justified within a width. A joiner at the end takes the first space that is filled in to
    itself, so the line is filled once more. -/
def justify (side : Side) (width : Nat) (line : Text) : Text :=
  match side with
  | .left => fillTo width (fillTo width (shorten .cut width line))
  | .right =>
    let line := shorten .cut width (stripEnd line)
    spaces (width - Text.cells line) ++ line

/-- The lines of a cell, between spaces. -/
def cellLines (side : Side) (width : Nat) (t : Text) : List Text :=
  (wrap .cut (width - 2) t).map fun line => ' ' :: justify side (width - 2) line ++ [' ']

/-- The lines of a row: its cells beside each other, with bars between them. -/
def rowLines (bar : Char) (ws : List Nat) (cells : List (List Text)) : List Text :=
  let height := (cells.map List.length).foldl max 1
  (List.range height).map fun i =>
    let parts := (ws.zip cells).map fun (w, lines) => (lines[i]?).getD (spaces w)
    bar :: Text.joinWith [bar] parts ++ [bar]

/-- A ruled line, from its left end, its crossings, its right end, and its dashes. -/
def rule (left crossing right dash : Char) (ws : List Nat) : Text :=
  left :: Text.joinWith [crossing] (ws.map fun w => List.replicate w dash) ++ [right]

/-! ## 3. The whole -/

/-- The title, in the middle over a width; an odd space goes to the right. -/
def titleLines (width : Nat) (title : Text) : List Text :=
  (wrap .folded width title).map fun line =>
    let line := shorten .folded width (stripEnd line)
    fillTo width (spaces ((width - Text.cells line) / 2) ++ line)

/-- The row of cells at a position, cut into lines. -/
def rowAt (ws : List Nat) (columns : List Column) (i : Nat) : List (List Text) :=
  (ws.zip columns).map fun (w, c) => cellLines c.side w ((c.cells[i]?).getD [])

/-- The row of headings, cut into lines. -/
def headingRow (ws : List Nat) (columns : List Column) : List (List Text) :=
  (ws.zip columns).map fun (w, c) => cellLines c.side w c.heading

/-- The number of rows under the headings. -/
def height (g : Grid) : Nat := (g.columns.map fun c => c.cells.length).foldl max 0

/-- The lines of a grid of plain texts. -/
def plainLines (room : Nat) (g : Grid) : List Text :=
  let ws := widths room g.columns
  titleLines (total ws + g.columns.length + 1) g.title ++
    rule '┏' '┳' '┓' '━' ws :: rowLines '┃' ws (headingRow ws g.columns) ++
    rule '┡' '╇' '┩' '━' ws ::
      (List.range g.height).flatMap (fun i => rowLines '│' ws (rowAt ws g.columns i)) ++
    [rule '└' '┴' '┘' '─' ws]

/-- A column whose texts are the words of what is marked up. -/
def plainColumn (c : Column) : Except Fault Column := do
  return ⟨← Markup.plain c.heading, c.side, ← c.cells.mapM Markup.plain⟩

/-- **The lines of a grid** where so many cells are to be had in a line. -/
def lines (room : Nat) (g : Grid) : Except Fault (List Text) := do
  return plainLines room { g with columns := ← g.columns.mapM plainColumn }

end Grid

end Worklog
