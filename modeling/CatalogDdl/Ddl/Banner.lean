import CatalogDdl.Text.Words

/-!
# Banners

A banner is a comment that opens a block of statements. It shows the source table and the target
table in a small grid with a header line. Each column of the grid is as wide as its widest cell, and
every cell has a space on both sides.

- `Grid`: the cells of a header line and of the data lines.
- `Grid.lines`: the lines of the drawn grid.
- `renderBanner`: the comment.
-/

namespace CatalogDdl.Ddl

/-- The cells of a grid. -/
structure Grid where
  header : List String
  rows : List (List String)
  deriving DecidableEq, Repr

/-- Widths that hold the cells of a line and what already fits given widths. -/
def widen (widths : List Nat) (cells : List String) : List Nat :=
  List.zipWith (fun w cell => max w cell.length) widths cells

/-- The widths of the columns of a grid, without the spaces around the cells. -/
def Grid.widths (g : Grid) : List Nat := g.rows.foldl widen (g.header.map String.length)

/-- A text of one character, repeated. -/
def repeated (c : Char) (n : Nat) : String := String.ofList (List.replicate n c)

/-- A horizontal rule with given marks at its left end, between columns and at its right end. -/
def ruleLine (left middle right : String) (widths : List Nat) : String :=
  left ++ Text.joinWith middle (widths.map fun w => repeated '─' (w + 2)) ++ right

/-- A cell in a column of a given width. -/
def padCell (cell : String) (width : Nat) : String :=
  " " ++ cell ++ repeated ' ' (width - cell.length) ++ " "

/-- A line of cells. -/
def cellLine (widths : List Nat) (cells : List String) : String :=
  "│" ++ Text.joinWith "│" (List.zipWith padCell cells widths) ++ "│"

/-- The lines of a drawn grid. -/
def Grid.lines (g : Grid) : List String :=
  [ruleLine "┌" "┬" "┐" g.widths, cellLine g.widths g.header, ruleLine "├" "┼" "┤" g.widths]
    ++ g.rows.map (cellLine g.widths)
    ++ [ruleLine "└" "┴" "┘" g.widths]

/-- The header of a banner's grid. -/
def bannerHeader : List String := ["#", "ORACLE", "MYSQL", "SUGGEST"]

/-- The grid of a banner. -/
def bannerGrid (source target suggestion : String) : Grid :=
  ⟨bannerHeader, [["TABLE", source, target, suggestion]]⟩

/-- A banner with a title, the two tables and a suggestion. -/
def renderBanner (title source target suggestion : String) : String :=
  "/*\n " ++ title ++ "\n" ++ Text.joinWith "\n" (bannerGrid source target suggestion).lines
    ++ "\n*/\n"

end CatalogDdl.Ddl
