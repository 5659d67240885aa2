import Cardfile.Record.Basic
/-!
# Listings — records as a bordered table

Records are listed one to a row between two borders, each column as wide
as its longest field, counted in characters. The number of records stands
under the table, or alone if there are none.
-/

namespace Cardfile

namespace Listing

/-- The line that counts the records. -/
def countLine (count : Nat) : String := "Records selected: " ++ toString count

/-- Widths that leave room for the fields too. -/
def widen : List Nat → List String → List Nat
  | width :: widths, value :: values => max width value.length :: widen widths values
  | widths, _ => widths

/-- The widths of the columns; the first record says how many there
are. -/
def widths : List Record → List Nat
  | [] => []
  | first :: rest =>
    (first :: rest).foldl (fun ws r => widen ws r.values) (first.values.map fun _ => 0)

/-- The characters of a border. -/
def border (widths : List Nat) : List Char :=
  '+' :: widths.flatMap fun width => List.replicate (width + 2) '=' ++ ['+']

/-- The characters of a cell: the field, with spaces up to the width. -/
def cell (value : String) (width : Nat) : List Char :=
  ' ' :: value.toList ++ List.replicate (width - value.length) ' ' ++ [' ', '|']

/-- The characters of a row. -/
def row (widths : List Nat) (values : List String) : List Char :=
  '|' :: (values.zip widths).flatMap fun (value, width) => cell value width

/-- The lines of the listing. -/
def lines (records : List Record) : List String :=
  match records with
  | [] => [countLine 0]
  | records =>
    let ws := widths records
    let edge := String.ofList (border ws)
    [edge] ++ records.map (fun r => String.ofList (row ws r.values))
      ++ [edge, countLine records.length]

/-- The listing of the records. -/
def render (records : List Record) : String := "\n".intercalate (lines records)

end Listing

end Cardfile
