import MobileAudit.Console.Markup

namespace MobileAudit.Console

/-! Tables and framed messages as lines of text. -/

/-- A table whose cells are marked-up texts; a cell may have several lines. -/
structure Table where
  title : List Char
  header : List String
  rows : List (List (List Char))

namespace Table

/-- The lines of a row: cells stand side by side, each padded to the width of its column. -/
def rowLines (widths : List Nat) (cells : List (List Char)) : List (List Char) :=
  let columns := cells.map Text.lines
  let height := (columns.map (·.length)).foldl max 0
  (List.range height).map fun i =>
    let parts := (widths.zip columns).map fun (width, column) =>
      let part := column.getD i []
      part ++ List.replicate (width - part.length) ' '
    Text.dropRightWhile (· == ' ') (Text.joinWith [' ', ' '] parts)

def cellWidth (cell : List Char) : Nat :=
  ((Text.lines cell).map (·.length)).foldl max 0

def columnWidths (rows : List (List (List Char))) : List Nat :=
  rows.foldl (fun widths row =>
    (List.range (max widths.length row.length)).map fun i =>
      max (widths.getD i 0) (cellWidth (row.getD i []))) []

/-- The lines of a table: its title, its header and its rows. -/
def lines (table : Table) : Except Markup.Error (List (List Char)) := do
  let rows ← table.rows.mapM fun row => row.mapM Markup.render
  let title ← Markup.render table.title
  let all := table.header.map String.toList :: rows
  return Text.lines title ++ all.flatMap (rowLines (columnWidths all))

end Table

/-- The lines of a framed message: its title and its text, which is marked up. -/
def panel (title : String) (text : List Char) : Except Markup.Error (List (List Char)) :=
  (Markup.render text).map fun shown => title.toList :: Text.lines shown

/-- Lines as a text in which each of them is ended. -/
def ended (lines : List (List Char)) : List Char :=
  lines.flatMap (· ++ ['\n'])

end MobileAudit.Console
