import Mcp.Text.Width

/-!
Tables in plain text. Every row stands between two rules, every cell is filled up with spaces to the
width of its column, and a cell of several lines makes its row so many lines high.
-/

namespace Mcp.Text

/-- The lines of a text. A carriage return before a line end belongs to it, and behind the last line
end a line begins only if anything follows. -/
def cutLines : List Char → List (List Char)
  | [] => []
  | '\r' :: '\n' :: rest => [] :: cutLines rest
  | '\n' :: rest => [] :: cutLines rest
  | c :: rest =>
    match cutLines rest with
    | [] => [[c]]
    | line :: more => (c :: line) :: more

def lines (s : String) : List String := (cutLines s.toList).map String.ofList

/-- Rows of as many cells each. -/
structure Table where
  rows : List (List String)
  deriving DecidableEq, Repr

namespace Table

def columnWidth (t : Table) (column : Nat) : Nat :=
  (t.rows.flatMap fun row => (lines (row.getD column "")).map width).foldl max 0

def columns (t : Table) : Nat := (t.rows.map List.length).foldl max 0

def widths (t : Table) : List Nat := (List.range t.columns).map t.columnWidth

def padded (s : String) (columnWidth : Nat) : String :=
  s ++ String.ofList (List.replicate (columnWidth - width s) ' ')

/-- The rule between rows. -/
def rule (widths : List Nat) : String :=
  "+" ++ String.join (widths.map fun w => String.ofList (List.replicate (w + 2) '-') ++ "+")

def rowLines (widths : List Nat) (row : List String) : List String :=
  let cells := row.map lines
  let height := (cells.map List.length).foldl max 1
  (List.range height).map fun index =>
    "|" ++ String.join ((cells.zip widths).map fun (cell, w) =>
      " " ++ padded (cell.getD index "") w ++ " |")

def render (t : Table) : String :=
  let widths := t.widths
  let between := rule widths
  "\n".intercalate (between :: t.rows.flatMap fun row => rowLines widths row ++ [between])

end Table

end Mcp.Text
