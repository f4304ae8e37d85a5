import ProgramRom.Text.Alignment

/-! # Grids

A grid is a table of texts under a line of titles. A column is as wide as its widest text, the title
included, every cell has a space on either side, and bars stand between the columns. A rule closes the
titles and another one the rows. -/

namespace ProgramRom.Text

structure Grid where
  alignments : List Alignment
  titles : List String
  rows : List (List String)
deriving DecidableEq, Repr

namespace Grid

/-- The width of the column at an index. -/
def width (g : Grid) (column : Nat) : Nat :=
  ((g.titles :: g.rows).map fun row => (row.getD column "").length).max?.getD 0

/-- No text of a grid is wider than its column. -/
theorem length_le_width (g : Grid) {row : List String} (h : row ∈ g.titles :: g.rows) (column : Nat) :
    (row.getD column "").length ≤ g.width column :=
  List.le_max?_getD_of_mem (List.mem_map_of_mem h)

def cell (g : Grid) (row : List String) (alignment : Alignment) (column : Nat) : String :=
  " " ++ alignment.pad (g.width column) (row.getD column "") ++ " "

def line (g : Grid) (row : List String) : String :=
  " " ++ String.intercalate "│" (g.alignments.zipIdx.map fun (a, j) => g.cell row a j) ++ " "

/-- A rule under a line, with a junction at every bar. -/
def rule (g : Grid) (junction : String) : String :=
  let dash (column : Nat) := String.ofList (List.replicate (g.width column + 2) '─')
  " " ++ String.intercalate junction ((List.range g.alignments.length).map dash) ++ " "

def lines (g : Grid) : List String :=
  [g.line g.titles, g.rule "┼"] ++ g.rows.map g.line ++ [g.rule "┴"]

def render (g : Grid) : String := unlines g.lines

end Grid

end ProgramRom.Text
