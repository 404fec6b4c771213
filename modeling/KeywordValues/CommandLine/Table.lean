import KeywordValues.Text.Width

/-!
# Tables

A table of texts in a frame. A column is as wide as its widest line, each cell has a space on either
side, and a cell whose text has several lines makes its row as high.
-/

namespace KeywordValues.CommandLine

/-- The lines of a text. -/
abbrev Cell := List (List Char)

/-- The characters of a horizontal line of the frame: its left end, what it is drawn with, the
crossings with the lines between columns, and its right end. -/
structure Rule where
  left : Char
  line : Char
  crossing : Char
  right : Char

namespace Rule

/-- Above the header. -/
def top : Rule := ⟨'┌', '─', '┬', '┐'⟩

/-- Below the header. -/
def header : Rule := ⟨'╞', '═', '╪', '╡'⟩

/-- Between two rows. -/
def between : Rule := ⟨'├', '╌', '┼', '┤'⟩

/-- Below the last row. -/
def bottom : Rule := ⟨'└', '─', '┴', '┘'⟩

end Rule

namespace Table

/-- The lines of a text. -/
def cell (s : String) : Cell := s.toList.splitOn '\n'

/-- Lists with a separator between them. -/
def join (separator : List Char) : List (List Char) → List Char
  | [] => []
  | [t] => t
  | t :: ts => t ++ separator ++ join separator ts

/-- A horizontal line over columns of the given widths. -/
def rule (r : Rule) (widths : List Nat) : List Char :=
  r.left :: (join [r.crossing] (widths.map fun w ↦ List.replicate (w + 2) r.line) ++ [r.right])

/-- A line of a cell, filled up to a width. -/
def pad (w : Nat) (cs : List Char) : List Char :=
  ' ' :: (cs ++ List.replicate (w - Text.width cs) ' ' ++ [' '])

/-- The `i`-th line of each cell of a row. -/
def rowLine (widths : List Nat) (row : List Cell) (i : Nat) : List Char :=
  '│' :: (join ['┆'] (List.zipWith (fun w c ↦ pad w (c.getD i [])) widths row) ++ ['│'])

/-- The lines of a row. -/
def rowLines (widths : List Nat) (row : List Cell) : List (List Char) :=
  let height := (row.map List.length).foldl max 0
  (List.range height).map (rowLine widths row)

/-- The width of the widest line of a cell. -/
def cellWidth (c : Cell) : Nat := (c.map Text.width).foldl max 0

/-- The widths of the columns. -/
def widths (rows : List (List Cell)) : List Nat :=
  rows.foldl (fun ws row ↦ List.zipWith max ws (row.map cellWidth))
    (rows.headD [] |>.map fun _ ↦ 0)

/-- The lines of a table. -/
def lines (header : List String) (rows : List (List String)) : List (List Char) :=
  let header := header.map cell
  let rows := rows.map fun r ↦ r.map cell
  let ws := widths (header :: rows)
  let body := (rows.map (rowLines ws)).intersperse [rule .between ws]
  rule .top ws :: (rowLines ws header ++ rule .header ws :: (body.flatten ++ [rule .bottom ws]))

/-- A table with a header, without a line feed at its end. -/
def render (header : List String) (rows : List (List String)) : String :=
  String.ofList (join ['\n'] (lines header rows))

end Table

end KeywordValues.CommandLine
