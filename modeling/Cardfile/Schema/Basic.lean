import Cardfile.Text.Quoted
import Cardfile.Table.Basic
import Cardfile.Table.Hashing
import Cardfile.Query.Keyword
/-!
# Schemas — the columns of a record file

A schema lists the columns of a record file, the key first, and registers
each name with the place of its column. A name has to be a word of the
query language that is no keyword, so that every column can be named in a
query, and no two columns share a name.
-/

namespace Cardfile

/-- What the fields of a column hold. -/
inductive ColumnKind where
  /-- Any text. -/
  | text
  /-- An integer of 64 bits. -/
  | integer
  deriving DecidableEq, Repr

/-- A column of a record file. -/
structure Column where
  /-- The name of the column. -/
  name : String
  /-- What its fields hold. -/
  kind : ColumnKind
  deriving DecidableEq, Repr

/-- The columns of a record file, with the places of their names. -/
structure Schema where
  /-- The columns, the key first. -/
  columns : List Column
  /-- The place of each name. -/
  registry : Table String Nat

/-- Why columns make no schema. -/
inductive SchemaFault where
  /-- There are no columns. -/
  | noColumns
  /-- The name is no word of the query language. -/
  | badName (name : String)
  /-- The name is a keyword of the query language. -/
  | keyword (name : String)
  /-- An earlier column has the name. -/
  | duplicate (name : String)
  /-- There is no such kind of column. -/
  | unknownKind (written : String)
  /-- The registry cannot hold the name. -/
  | registry (fault : TableFault)
  deriving DecidableEq, Repr

/-- The columns of a file of students, as they are written. -/
def studentColumns : String := "jmbag,lastName,firstName,finalGrade:int"

/-- The fault as it is told to the user. -/
def SchemaFault.report : SchemaFault → Report
  | .noColumns =>
    { kind := .usage, message := some "schema needs at least one column",
      hint := some ("Example: --columns " ++ studentColumns) }
  | .badName name =>
    { kind := .usage, message := some ("invalid column name: " ++ Text.quoted name),
      hint := some
        "Column names start with a letter or '_' and contain only letters, digits and '_'." }
  | .keyword name =>
    { kind := .usage,
      message := some ("column name collides with a query keyword: " ++ name) }
  | .duplicate name =>
    { kind := .usage, message := some ("duplicate column name: " ++ name) }
  | .unknownKind written =>
    { kind := .usage, message := some ("unknown column type: " ++ written),
      hint := some "Column types are `text` (default) and `int`." }
  | .registry fault => fault.report

/-- Whether the text is a word of the query language. -/
def isWord : List Char → Bool
  | [] => false
  | c :: rest => Text.isNameStart c && rest.all Text.isNamePart

/-- Whether the word is a keyword of the query language. -/
def isKeyword (word : List Char) : Bool := Query.isConjunction word || Query.isLike word

namespace Schema

/-- Accepts the names of columns: words that are no keywords. -/
def checkName (name : String) : Except SchemaFault Unit :=
  if !isWord name.toList then .error (.badName name)
  else if isKeyword name.toList then .error (.keyword name)
  else .ok ()

/-- Registers the columns from place `i` on, each after its name is
accepted. -/
def register (registry : Table String Nat) (i : Nat) :
    List Column → Except SchemaFault (Table String Nat)
  | [] => .ok registry
  | column :: rest => do
    checkName column.name
    match registry.put column.name i with
    | .error fault => .error (.registry fault)
    | .ok (some _, _) => .error (.duplicate column.name)
    | .ok (none, registry) => register registry (i + 1) rest

/-- The schema of the columns, with a registry that hashes names so. -/
def ofColumnsWith (hash : String → UInt64) (columns : List Column) : Except SchemaFault Schema :=
  if columns = [] then .error .noColumns
  else do
    let registry ← (Table.create hash columns.length).mapError .registry
    let registry ← register registry 0 columns
    return { columns, registry }

/-- The schema of the columns. -/
def ofColumns (columns : List Column) : Except SchemaFault Schema :=
  ofColumnsWith Hashing.ofString columns

/-- The place of the column with the name. -/
def place? (s : Schema) (name : String) : Option Nat := s.registry.get? name

/-- The names of the columns. -/
def names (s : Schema) : List String := s.columns.map Column.name

/-- The number of columns. -/
def width (s : Schema) : Nat := s.columns.length

/-- The name of the key. -/
def keyName (s : Schema) : String := s.names.headD ""

end Schema

/-- Whether the place is that of the key. -/
def isKeyPlace (place : Nat) : Bool := place == 0

end Cardfile
