import ReducedDowntime.Report.Text
import ReducedDowntime.Text.Width

/-!
# Tables of notifications

Notifications are printed as a table with the columns `SEVERITY`, `MESSAGE` and
`RESOLUTION`: errors first, then warnings, then information. The table is drawn with
thin box lines: a frame, a rule under the header, and no rule between rows.

Each cell has one blank on either side. A column is as wide as its widest line, in
display columns. A cell of several lines (split at line feeds) makes its row that tall;
shorter cells are filled with blank lines.
-/

namespace ReducedDowntime.Report

/-- The lines of a cell. -/
def cellLines (cell : String) : List String := cell.splitOn "\n"

/-- The width of a column: its widest line. -/
def columnWidth (cells : List String) : Nat :=
  (cells.flatMap cellLines).foldl (fun w l => Nat.max w (Text.width l)) 0

/-- A line filled with blanks up to `w` columns. -/
def fill (line : String) (w : Nat) : String := line ++ pad (w - Text.width line)

/-- A rule of the frame: left corner, runs of `─` for each column, joints and right corner. -/
def rule (left joint right : String) (widths : List Nat) : String :=
  left ++ String.intercalate joint (widths.map fun w => String.ofList (List.replicate (w + 2) '─')) ++ right

/-- The printed lines of one row. -/
def rowLines (widths : List Nat) (row : List String) : List String :=
  let cells := row.map cellLines
  let height := cells.foldl (fun h c => Nat.max h c.length) 1
  (List.range height).map fun i =>
    "│" ++ String.join ((widths.zip cells).map fun (w, c) => " " ++ fill (c.getD i "") w ++ " │")

/-- A table with a header row, drawn with box lines. -/
def table (header : List String) (rows : List (List String)) : String :=
  let columns := (List.range header.length).map fun j =>
    (header :: rows).map fun r => r.getD j ""
  let widths := columns.map columnWidth
  let lines :=
    [rule "┌" "┬" "┐" widths] ++ rowLines widths header ++ [rule "├" "┼" "┤" widths] ++
      rows.flatMap (rowLines widths) ++ [rule "└" "┴" "┘" widths]
  String.intercalate "\n" lines

/-- The rows of notifications: severity, message and resolution. -/
def notificationRows (n : Notifications) : List (List String) :=
  let rows (severity : String) (items : List Notification) :=
    items.map fun x => [severity, x.message.defaultMessage, resolutionText x]
  rows "ERROR" n.errors ++ rows "WARNING" n.warnings ++ rows "INFO" n.info

/-- What is printed for notifications: the table, or a check mark when there are none. -/
def notificationsTable (n : Notifications) : String :=
  if n.isEmpty then "  ✓ No notifications\n"
  else table ["SEVERITY", "MESSAGE", "RESOLUTION"] (notificationRows n) ++ "\n"

/-- The header of step `index` of `steps`, after a blank line; none past the last step. -/
def stepHeader (index : Nat) (steps : List String) : Option String :=
  match steps[index]? with
  | some name => some ("\nStep [" ++ toString (index + 1) ++ "/" ++ toString steps.length ++ "]: " ++ name ++ "\n")
  | none => none

end ReducedDowntime.Report
