import Cardfile.Text.Pieces
import Cardfile.Schema.Basic
/-!
# Schemas — columns as they are written

The columns of a schema are written one after the other with commas
between them, each as its name and, after a colon, its kind. Columns of
text need no kind. White space around a column and around its name does
not count.
-/

namespace Cardfile

namespace Column

/-- Reads the kind of a column. -/
def readKind (written : String) : Except SchemaFault ColumnKind :=
  if written = "text" then .ok .text
  else if written = "int" then .ok .integer
  else .error (.unknownKind written)

/-- Reads one column. -/
def read (written : List Char) : Except SchemaFault Column :=
  let written := Text.trim written
  match Text.cutAt (· == ':') written with
  | none => .ok { name := String.ofList written, kind := .text }
  | some (name, kind) => do
    let kind ← readKind (String.ofList kind)
    return { name := String.ofList (Text.trim name), kind }

/-- Reads columns one after the other. -/
def readAll : List (List Char) → Except SchemaFault (List Column)
  | [] => .ok []
  | written :: rest => do
    let column ← read written
    let columns ← readAll rest
    return column :: columns

/-- The column as it is written. -/
def text (c : Column) : String :=
  match c.kind with
  | .text => c.name
  | .integer => c.name ++ ":int"

end Column

namespace Schema

/-- Reads the columns of a schema. -/
def read (written : String) : Except SchemaFault Schema := do
  let columns ← Column.readAll (Text.pieces ',' written.toList)
  ofColumns columns

/-- The columns of the schema as they are written. -/
def text (s : Schema) : String := ",".intercalate (s.columns.map Column.text)

/-- The schema of a file of students. -/
def students : Except SchemaFault Schema :=
  ofColumns [
    { name := "jmbag", kind := .text },
    { name := "lastName", kind := .text },
    { name := "firstName", kind := .text },
    { name := "finalGrade", kind := .integer }]

end Schema

end Cardfile
