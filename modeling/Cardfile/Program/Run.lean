import Cardfile.Program.Arguments
import Cardfile.Program.Help
import Cardfile.Schema.Columns
import Cardfile.Store.Load
import Cardfile.Shell
/-!
# The program — what it does

A run of the program depends on its arguments, its environment, the
record file and its input, and comes to an outcome: an exit code and two
texts. A failure is told as JSON among the diagnostics, and its kind is
the exit code.
-/

namespace Cardfile

/-- What a kind of failure comes to when nothing more is known. -/
def Kind.statement : Kind → String
  | .internal => "internal error"
  | .usage => "usage error"
  | .lexical => "invalid query text"
  | .syntactic => "invalid query"
  | .concurrentModification => "collection modified during iteration"
  | .illegalState => "illegal state"
  | .load => "malformed record file"
  | .notFound => "not found"
  | .inputOutput => "i/o error"

/-- The report as JSON. -/
def Report.json (r : Report) : Json :=
  .object [("error", .sorted (
    [("kind", .string r.kind.name), ("message", .string (r.message.getD r.kind.statement))]
      ++ (r.hint.map fun hint => ("hint", Json.string hint)).toList
      ++ (r.path.map fun path => ("path", Json.string path)).toList
      ++ (r.line.map fun line => ("line", Json.number line)).toList
      ++ (if r.causes = [] then [] else [("causes", Json.array (r.causes.map .string))])))]

/-- The report with advice on record files, unless it has a hint. -/
def Report.withFileHint (r : Report) : Report :=
  match r.kind with
  | .notFound =>
    r.withDefaultHint "Pass --db <file> or set TABQUERY_DB to point at a record file."
  | .load =>
    r.withDefaultHint
      ("Check the record file against --columns; "
        ++ "each line needs one tab-separated value per column.")
  | _ => r

namespace Program

/-- What a run of the program comes to. -/
structure Outcome where
  /-- The exit code. -/
  exitCode : Nat := 0
  /-- The text of the output. -/
  output : String := ""
  /-- The text of the diagnostics. -/
  diagnostics : String := ""
  deriving DecidableEq, Repr

/-- The outcome of a failure. -/
def failure (r : Report) : Outcome where
  exitCode := r.kind.exitCode
  diagnostics := r.json.compact ++ "\n"

/-- The version of the program. -/
def programVersion : String := "0.1.0"

/-- The outcome of arguments that are not read to their end. -/
def Halt.outcome : Halt → Outcome
  | .help true => { output := helpText }
  | .help false => { exitCode := Kind.usage.exitCode, diagnostics := helpText }
  | .version => { output := programName ++ " " ++ programVersion ++ "\n" }
  | .fault f => failure f.report

/-- A JSON value in the form that the choice of colours asks for. -/
def jsonText (color : Color) (j : Json) : String :=
  if color = .always then j.pretty else j.compact

/-- The outcome of an answer. -/
def answered (color : Color) : Except CommandFault Answer → Outcome
  | .error fault => failure fault.report
  | .ok (.text shown) => { output := shown ++ "\n" }
  | .ok (.json value) => { output := jsonText color value ++ "\n" }

/-- The version as JSON. -/
def versionJson : Json :=
  .sorted [("name", .string programName), ("version", .string programVersion)]

/-- The outcome of a shell that wrote the transcript. -/
def shellOutcome (t : Shell.Transcript) : Outcome :=
  match t.fault with
  | none => { output := t.output }
  | some fault => { failure fault.report with output := t.output }

/-- Whether the task asks for records. -/
def Task.readsRecords : Task → Bool
  | .query .. | .indexQuery .. | .shell => true
  | .completion _ | .version => false

/-- The store that the request asks. -/
def Request.store (r : Request) (file : Except FileFault (List UInt8)) : Except Report Store := do
  let schema ← (Schema.read r.columns).mapError SchemaFault.report
  (Store.load schema file).mapError (LoadFault.reportAt r.path)

/-- What a request comes to with records. -/
def Request.withStore (r : Request) (file : Except FileFault (List UInt8))
    (outcome : Store → Outcome) : Outcome :=
  match r.store file with
  | .ok store => outcome store
  | .error report => failure report.withFileHint

/-- What a request comes to. -/
def Request.outcome (r : Request) (file : Except FileFault (List UInt8)) (input : List UInt8) :
    Outcome :=
  match r.task with
  | .query words format =>
    r.withStore file fun store =>
      answered r.color (Command.query store (" ".intercalate words) format)
  | .indexQuery words format =>
    r.withStore file fun store =>
      answered r.color (Command.indexQuery store (" ".intercalate words) format)
  | .shell => r.withStore file fun store => shellOutcome (Shell.run store input)
  | .completion shell => { output := completionScript shell }
  | .version => { output := jsonText r.color versionJson ++ "\n" }

/-- A run of the program, with the files that each path leads to. -/
def run (environment : String → Option String)
    (files : String → Except FileFault (List UInt8)) (input : List UInt8)
    (arguments : List String) : Outcome :=
  match readRequest environment arguments with
  | .error halt => halt.outcome
  | .ok request => request.outcome (files request.path) input

end Program

end Cardfile
