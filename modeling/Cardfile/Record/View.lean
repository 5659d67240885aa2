import Cardfile.Json.Basic
import Cardfile.Text.Integer
import Cardfile.Schema.Basic
import Cardfile.Record.Basic
/-!
# Records — as JSON

A record is shown under a schema as an object with a field for each
column, in the order of the columns. A field of an integer column is a
number, if it reads as one; every other field is a string.
-/

namespace Cardfile

namespace Record

/-- The field of a column as JSON. -/
def fieldView (column : Column) (value : String) : Json :=
  match column.kind with
  | .text => .string value
  | .integer =>
    match Text.Integer.read value.toList with
    | .ok n => .number n
    | .error _ => .string value

/-- The fields of a record under a schema, with the names of their
columns. -/
def viewFields (schema : Schema) (r : Record) : List (String × Json) :=
  (schema.columns.zip r.values).map fun (column, value) => (column.name, fieldView column value)

/-- The record under a schema, in the order of the columns. -/
def view (schema : Schema) (r : Record) : Json := .object (viewFields schema r)

end Record

end Cardfile
