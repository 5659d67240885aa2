import Cardfile.Text.Lines
import Cardfile.Store.Basic
/-!
# Stores — record files

A record file is octets; each of its lines has to be UTF-8 before any of
them is read as a record. What fails carries the path of the file.
-/

namespace Cardfile

/-- Why the octets of a file cannot be had. -/
inductive FileFault where
  /-- There is no such file. -/
  | missing
  /-- The path leads to a directory. -/
  | directory
  /-- The path leads through something that is no directory. -/
  | notDirectory
  /-- The path, or a name in it, is longer than the system takes. -/
  | nameTooLong
  /-- Another reason that the system gives. -/
  | other (reason : String)
  deriving DecidableEq, Repr

/-- The fault in words. -/
def FileFault.text : FileFault → String
  | .missing => "No such file or directory (os error 2)"
  | .directory => "Is a directory (os error 21)"
  | .notDirectory => "Not a directory (os error 20)"
  | .nameTooLong => "File name too long (os error 36)"
  | .other reason => reason

/-- Why a record file cannot be loaded. -/
inductive LoadFault where
  /-- The file cannot be read. -/
  | unreadable (fault : FileFault)
  /-- A line is not UTF-8 from an octet on. -/
  | notUtf8 (line offset : Nat)
  /-- A line breaks a rule. -/
  | badLine (line : BadLine)
  deriving DecidableEq, Repr

/-- The fault as it is told to the user, without the path. -/
def LoadFault.report : LoadFault → Report
  | .unreadable fault =>
    { kind := if fault = .missing then .notFound else .inputOutput,
      message := some "failed to read record file", causes := [fault.text] }
  | .notUtf8 line offset =>
    { kind := .load, message := some "line is not valid UTF-8", line := some line,
      causes := ["invalid UTF-8 found at byte offset " ++ toString offset] }
  | .badLine line => line.report

/-- The fault as it is told to the user. -/
def LoadFault.reportAt (path : String) (f : LoadFault) : Report :=
  { f.report with path := some path }

namespace Store

/-- The texts of lines from number `n` on. -/
def decodeLines (n : Nat) : List (List UInt8) → Except LoadFault (List String)
  | [] => .ok []
  | line :: rest => do
    let text ← (Text.Utf8.decode line).mapError (LoadFault.notUtf8 n)
    let texts ← decodeLines (n + 1) rest
    return String.ofList text :: texts

/-- The store of a record file. -/
def ofOctets (schema : Schema) (octets : List UInt8) : Except LoadFault Store := do
  let lines ← decodeLines 1 (Text.lines octets)
  (ofLines schema lines).mapError .badLine

/-- The store of a record file that could be read or not. -/
def load (schema : Schema) (file : Except FileFault (List UInt8)) : Except LoadFault Store := do
  let octets ← file.mapError .unreadable
  ofOctets schema octets

end Store

end Cardfile
