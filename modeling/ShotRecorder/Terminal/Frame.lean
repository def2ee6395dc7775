import ShotRecorder.Terminal.Wrap
import ShotRecorder.Text.Lines

/-!
# Frames

Panels and tables, drawn with lines. A panel is as wide as its text or as the terminal; a table is
as wide as its cells, and its last column gives way where the terminal is too narrow.
-/

namespace ShotRecorder.Terminal

/-- The width of the terminal. -/
def width : Nat := 100

/-- How wide a text is that is not wrapped. -/
def naturalWidth (cs : List Char) : Nat := ((Lines.split cs).map Cells.ofList).foldl max 0

/-- Blanks behind a line up to a width. -/
def padRight (width : Nat) (cs : List Char) : List Char :=
  cs ++ List.replicate (width - Cells.ofList cs) ' '

/-- Blanks in front of a line up to a width. -/
def padLeft (width : Nat) (cs : List Char) : List Char :=
  List.replicate (width - Cells.ofList cs) ' ' ++ cs

/-- A row of one character. -/
def rule (count : Nat) (c : Char) : List Char := List.replicate count c

/-! ### Panels -/

/-- The lines of a panel around a text that gets so many cells, with an upper edge. -/
def panelAround (inner : Nat) (top : List Char) (cs : List Char) : List (List Char) :=
  let lines := (wrap .fold inner cs).map fun line => ['│', ' '] ++ padRight inner line ++ [' ', '│']
  [top] ++ lines ++ ['╰' :: rule (inner + 2) '─' ++ ['╯']]

/-- A panel as wide as its text. -/
def panel (cs : List Char) : List (List Char) :=
  let inner := min (naturalWidth cs) (width - 4)
  panelAround inner ('╭' :: rule (inner + 2) '─' ++ ['╮']) cs

/-- A title in the middle of an edge. -/
def titledEdge (count : Nat) (title : List Char) : List Char :=
  let title := ' ' :: title ++ [' ']
  let excess := count - Cells.ofList title
  rule (excess / 2) '─' ++ title ++ rule (excess - excess / 2) '─'

/-- A panel as wide as the terminal, with a title. -/
def titledPanel (title : List Char) (cs : List Char) : List (List Char) :=
  panelAround (width - 4) (['╭', '─'] ++ titledEdge (width - 4) title ++ ['─', '╮']) cs

/-! ### Tables -/

/-- A column: its title, and whether its cells end at the same place. -/
structure Column where
  title : List Char
  toRight : Bool

/-- The strokes of a horizontal line: its ends, what it is drawn with, and where columns meet. -/
structure Edge where
  left : Char
  stroke : Char
  middle : Char
  right : Char

/-- A horizontal line over columns of given widths. -/
def Edge.draw (e : Edge) (widths : List Nat) : List Char :=
  let columns := widths.map fun w => rule (w + 2) e.stroke
  e.left :: [e.middle].intercalate columns ++ [e.right]

/-- How wide a table is over columns of given widths. -/
def tableWidth (widths : List Nat) : Nat := widths.foldl (fun total w => total + w + 3) 1

/-- How wide the columns are: each as its widest cell, and the last gives way if all together are
wider than the terminal. -/
def columnWidths (columns : List Column) (rows : List (List (List Char))) : List Nat :=
  let widths := columns.zipIdx.map fun (column, i) =>
    (rows.map fun row => naturalWidth (row.getD i [])).foldl max (naturalWidth column.title)
  let total := tableWidth widths
  match widths.reverse with
  | [] => []
  | last :: others => others.reverse ++ [last - (total - width)]

/-- The lines of a cell, each as wide as its column. A joiner at the end of a line joins the first
of the blanks behind it; one more blank makes up for that. -/
def cellLines (column : Column) (width : Nat) (cs : List Char) : List (List Char) :=
  (wrap .ellipsis width cs).map fun line =>
    if column.toRight then padLeft width (dropEnd line)
    else padRight width (padRight width line)

/-- The lines of a row; cells with fewer lines than others are blank below. -/
def rowLines (bar : Char) (columns : List Column) (widths : List Nat) (row : List (List Char)) :
    List (List Char) :=
  let cells := (columns.zip (widths.zip row)).map fun (column, w, cs) => (w, cellLines column w cs)
  let height := (cells.map fun (_, lines) => lines.length).foldl max 0
  (List.range height).map fun i =>
    let parts := cells.map fun (w, lines) => ' ' :: lines.getD i (rule w ' ') ++ [' ']
    bar :: [bar].intercalate parts ++ [bar]

/-- A line in the middle of a width. -/
def centred (width : Nat) (cs : List Char) : List Char :=
  let left := (width - Cells.ofList cs) / 2
  padRight width (rule left ' ' ++ cs)

/-- The lines of a table with a title. -/
def table (title : List Char) (columns : List Column) (rows : List (List (List Char))) :
    List (List Char) :=
  let widths := columnWidths columns rows
  [centred (tableWidth widths) title, Edge.draw ⟨'┏', '━', '┳', '┓'⟩ widths] ++
    rowLines '┃' columns widths (columns.map Column.title) ++
    [Edge.draw ⟨'┡', '━', '╇', '┩'⟩ widths] ++
    rows.flatMap (rowLines '│' columns widths) ++ [Edge.draw ⟨'└', '─', '┴', '┘'⟩ widths]

end ShotRecorder.Terminal
