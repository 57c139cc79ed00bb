import PayGraph.Number.Binary64
import PayGraph.Terminal.Layout

/-!
# Tables and panels

A table without lines gives each column the width of its widest cell and a blank on either side.
Where the terminal is too narrow for that, the widest columns give way.  A panel is a rounded frame
across the terminal with its title in the middle of the upper edge.
-/

namespace PayGraph
namespace Terminal

/-- The terminal that a run prints on. -/
class Console where
  /-- Cells of a line. -/
  columns : Nat
  /-- A line has a cell. -/
  columns_pos : 0 < columns

/-- A column of a table. -/
structure Column where
  /-- Text above the cells. -/
  title : String
  /-- Cells stand at the right end of the column. -/
  rightAligned : Bool := false

/-- A cell of a table. -/
structure Cell where
  /-- Text of the cell. -/
  text : String
  /-- The text has a style of its own, so the blanks that fill up its column stand apart from it. -/
  isStyled : Bool := false

/-- A character after which a text could go on on a new line. -/
def endsLine (character : Char) : Bool :=
  let code := character.toNat
  code = 0x0A || (0x1C ≤ code && code ≤ 0x1E) || code = 0x85 || code = 0x2028 || code = 0x2029

/-- Width of a text on as many lines as it could have. -/
def naturalWidth (content : String) : Nat :=
  ((splitWhere endsLine content.toList).map width).foldl max 0

/-- Width that a column takes without its neighbours: that of its widest cell and a blank on either
side, but no more than there is. -/
def fullWidth (available : Nat) (title : String) (cells : List Cell) : Nat :=
  min available ((cells.map fun cell => naturalWidth cell.text).foldl max (naturalWidth title) + 2)

/-- Take an excess away from the widths that equal the greatest one, in shares that are as equal as
whole numbers allow and at most a limit. -/
def reduce (greatest limit : Nat) : Nat → Nat → List Nat → List Nat
  | _, _, [] => []
  | excess, shares, width :: rest =>
    if width = greatest then
      let share := min limit (Binary64.roundDiv excess shares)
      (width - share) :: reduce greatest limit (excess - share) (shares - 1) rest
    else width :: reduce greatest limit excess shares rest

/-- Lower the greatest widths towards the next greatest until all fit.  Every step lowers their
total, which bounds the number of steps. -/
def collapse (available : Nat) : Nat → List Nat → List Nat
  | 0, widths => widths
  | steps + 1, widths =>
    let excess := widths.foldl (· + ·) 0 - available
    let greatest := widths.foldl max 0
    let next := (widths.filter (· ≠ greatest)).foldl max 0
    if excess = 0 ∨ greatest = 0 then widths
    else
      collapse available steps
        (reduce greatest (min excess (greatest - next)) excess (widths.count greatest) widths)

/-- Widths of the columns of a table, with the blanks around their cells. -/
def columnWidths (available : Nat) (columns : List Column) (rows : List (List Cell)) : List Nat :=
  let widths := columns.zipIdx.map fun (column, index) =>
    fullWidth available column.title (rows.filterMap fun row => row[index]?)
  collapse available (widths.foldl (· + ·) 0) widths

/-- A line of a cell at its end of the column.  A joiner at the end of a text takes in one of the
blanks after it, unless they stand apart, and another blank makes up for that. -/
def alignLine (column : Column) (cell : Cell) (limit : Nat) (line : List Char) : List Char :=
  if column.rightAligned then padLeft limit (truncate limit (trimEnd line))
  else
    let filled := padRight limit (truncate limit line)
    if cell.isStyled then filled else padRight limit filled

/-- Lines of a cell in a column of a width. -/
def cellLines (column : Column) (limit : Nat) (cell : Cell) : List (List Char) :=
  (layout .ellipsis limit cell.text.toList).map (alignLine column cell limit)

/-- Lines of one row of a table. -/
def rowLines (columns : List Column) (widths : List Nat) (row : List Cell) : List (List Char) :=
  let laidOut := ((columns.zip widths).zip row).map fun ((column, outer), cell) =>
    (outer - 2, cellLines column (outer - 2) cell)
  let height := (laidOut.map fun (_, lines) => lines.length).foldl max 0
  (List.range height).map fun index =>
    laidOut.flatMap fun (limit, lines) =>
      ' ' :: lines[index]?.getD (List.replicate limit ' ') ++ [' ']

/-- Lines of a table with its header on a terminal of a width, filled up to a width. -/
def table (available : Nat) (columns : List Column) (rows : List (List Cell)) (filled : Nat) :
    List (List Char) :=
  let widths := columnWidths available columns rows
  let header := columns.map fun column => ⟨column.title, false⟩
  (header :: rows).flatMap fun row =>
    (rowLines columns widths row).map (· ++ List.replicate (filled - widths.foldl (· + ·) 0) ' ')

/-- Width inside the frame of a panel. -/
def panelWidth [Console] : Nat := Console.columns - 4

/-- Lines of a panel around a body whose lines are as wide as the frame allows. -/
def panel [Console] (title : String) (body : List (List Char)) : List (List Char) :=
  let label := ' ' :: title.toList ++ [' ']
  let excess := panelWidth - width label
  let before := List.replicate (excess / 2) '─'
  let after := List.replicate (excess - excess / 2) '─'
  let upper := ['╭', '─'] ++ before ++ label ++ after ++ ['─', '╮']
  let inside := body.map fun line => ['│', ' '] ++ line ++ [' ', '│']
  let lower := '╰' :: List.replicate (Console.columns - 2) '─' ++ ['╯']
  upper :: inside ++ [lower]

end Terminal
end PayGraph
