import Referent.Member
import Referent.Text.Columns

/-!
# Tables

Members as a table with columns for their number, kind, signature and declaring type. Cells are
set to the left with a space on each side and joined by a bar; a line of dashes stands under the
header. A cell that holds line breaks makes its row as high as it has lines.
-/

namespace Referent.CommandLine

/-- The lines of a text. -/
def lines (text : String) : List String :=
  (text.toList.splitOn '\n').map String.ofList

/-- A text and as many spaces as it takes to fill the columns. -/
def pad (width : Nat) (text : String) : String :=
  text ++ String.ofList (List.replicate (width - Text.columns text) ' ')

/-- The columns that the widest line of a cell takes. -/
def cellWidth (cell : String) : Nat :=
  ((lines cell).map Text.columns).foldl max 0

/-- The widths of the columns of a table. -/
def columnWidths (rows : List (List String)) : List Nat :=
  rows.foldl (fun widths row =>
    (List.range (max widths.length row.length)).map fun i =>
      max (widths.getD i 0) (cellWidth (row.getD i ""))) []

/-- One line of a row. -/
def renderLine (widths : List Nat) (cells : List String) : String :=
  "|".intercalate ((widths.zip cells).map fun (width, cell) => " " ++ pad width cell ++ " ")

/-- The lines of a row. -/
def renderRow (widths : List Nat) (row : List String) : List String :=
  let cells := row.map lines
  let height := (cells.map (·.length)).foldl max 1
  (List.range height).map fun i => renderLine widths (cells.map (·.getD i ""))

/-- The line under the header. -/
def separator (widths : List Nat) : String :=
  "+".intercalate (widths.map fun width => String.ofList (List.replicate (width + 2) '-'))

/-- The lines of a table with a header. -/
def renderTable (header : List String) (rows : List (List String)) : List String :=
  let widths := columnWidths (header :: rows)
  renderRow widths header ++ separator widths :: rows.flatMap (renderRow widths)

/-- The cells of a member with its number (`CandidateView`). -/
def memberRow (number : Nat) (m : Member) : List String :=
  [toString number, m.kind.name, m.signature, m.owner]

/-- Members as a table, numbered from one (`candidate_rows`). -/
def memberTable (members : List Member) : List String :=
  renderTable ["#", "kind", "signature", "declared in"]
    (members.zipIdx.map fun (m, i) => memberRow (i + 1) m)

end Referent.CommandLine
