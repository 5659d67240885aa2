import Cardfile.Text.Pieces
import Cardfile.Text.Integer
import Cardfile.Schema.Basic
import Cardfile.Record.Basic
/-!
# Stores — records read from lines

A store holds the records of a file in the order of its lines, and an
index from each key to the place of its record. It is built from lines:
empty ones are passed over, every other line has a field for each column
between tabs, integers are brought to their canonical form, and keys are
neither empty nor repeated. One line that breaks a rule is enough, and no
store is built.
-/

namespace Cardfile

/-- Records in the order of their lines, with an index of their keys. -/
structure Store where
  /-- The columns of the records. -/
  schema : Schema
  /-- The records. -/
  records : Array Record
  /-- The place of the record with each key. -/
  index : Table String Nat

/-- What is wrong with a line. -/
inductive LineFault where
  /-- The line does not have a field for each column. -/
  | fieldCount (expected found : Nat) (line : String)
  /-- The field of an integer column is no integer. -/
  | notInteger (column line : String) (fault : Text.IntegerFault)
  /-- The key is empty. -/
  | emptyKey (keyName : String) (fault : TableFault)
  /-- An earlier line has the key. -/
  | duplicateKey (key : String)
  deriving DecidableEq, Repr

/-- The fault as it is told to the user, without its place. -/
def LineFault.report : LineFault → Report
  | .fieldCount expected found line =>
    { kind := .load,
      message := some ("malformed line: expected " ++ toString expected ++ " fields, found "
        ++ toString found ++ ": " ++ line),
      hint := some "Fields are separated by a single tab character." }
  | .notInteger column line fault =>
    { kind := .load,
      message := some ("malformed line: " ++ column ++ " is not an integer: " ++ line),
      causes := [fault.text] }
  | .emptyKey keyName fault =>
    Report.causedBy
      { kind := .load, message := some ("empty primary key (" ++ keyName ++ ")") } fault.report
  | .duplicateKey key =>
    { kind := .load, message := some ("duplicate primary key: " ++ key) }

/-- A bad line: its number, from 1, and what is wrong with it. -/
structure BadLine where
  /-- The number of the line. -/
  line : Nat
  /-- What is wrong with it. -/
  fault : LineFault
  deriving DecidableEq, Repr

/-- The bad line as it is told to the user. -/
def BadLine.report (b : BadLine) : Report := { b.fault.report with line := some b.line }

namespace Store

/-! ## Records of lines -/

/-- The field of a column in its stored form. -/
def readField (column : Column) (line field : List Char) : Except LineFault String :=
  match column.kind with
  | .text => .ok (String.ofList field)
  | .integer =>
    match Text.Integer.read (Text.trim field) with
    | .ok n => .ok (Text.Integer.text n)
    | .error fault => .error (.notInteger column.name (String.ofList line) fault)

/-- The fields of the columns in their stored form. -/
def readFields (line : List Char) : List (Column × List Char) → Except LineFault (List String)
  | [] => .ok []
  | (column, field) :: rest => do
    let value ← readField column line field
    let values ← readFields line rest
    return value :: values

/-- The record of a line. -/
def readLine (schema : Schema) (line : List Char) : Except LineFault Record :=
  let fields := Text.pieces '\t' line
  if fields.length = schema.width then
    (readFields line (schema.columns.zip fields)).map Record.mk
  else .error (.fieldCount schema.width fields.length (String.ofList line))

/-- The lines that hold records, with their numbers: one carriage return
at the end of a line is dropped, and so is a line that is then empty. -/
def recordLines (n : Nat) : List String → List (Nat × List Char)
  | [] => []
  | line :: rest =>
    let content := Text.dropLastIf '\r' line.toList
    if content = [] then recordLines (n + 1) rest
    else (n, content) :: recordLines (n + 1) rest

/-- The records of numbered lines. -/
def readLines (schema : Schema) :
    List (Nat × List Char) → Except BadLine (List (Nat × Record))
  | [] => .ok []
  | (n, line) :: rest => do
    let record ← (readLine schema line).mapError (BadLine.mk n)
    let records ← readLines schema rest
    return (n, record) :: records

/-! ## The index -/

/-- Enters the keys of the records from place `i` on. -/
def enterKeys (keyName : String) (index : Table String Nat) (i : Nat) :
    List (Nat × Record) → Except BadLine (Table String Nat)
  | [] => .ok index
  | (n, record) :: rest =>
    match index.put record.key i with
    | .error fault => .error { line := n, fault := .emptyKey keyName fault }
    | .ok (some _, _) => .error { line := n, fault := .duplicateKey record.key }
    | .ok (none, index) => enterKeys keyName index (i + 1) rest

/-- The store of the lines, with an index that hashes its keys so. -/
def ofLinesWith (hash : String → UInt64) (schema : Schema) (lines : List String) :
    Except BadLine Store := do
  let records ← readLines schema (recordLines 1 lines)
  let index := Table.empty hash (Table.leastPower records.length)
  let index ← enterKeys schema.keyName index 0 records
  return { schema, records := (records.map Prod.snd).toArray, index }

/-- The store of the lines. -/
def ofLines (schema : Schema) (lines : List String) : Except BadLine Store :=
  ofLinesWith Hashing.ofString schema lines

end Store

end Cardfile
