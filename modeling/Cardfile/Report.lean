/-!
# Reports of failure

Whatever fails in the library is told to the user as a report: what kind
of failure it is, what happened, what may help, where it happened, and
what it was caused by. The parts of the library have failures of their
own and say how each is reported.
-/

namespace Cardfile

/-- The kinds of failure. -/
inductive Kind where
  /-- The library broke a promise of its own. -/
  | internal
  /-- A request that makes no sense. -/
  | usage
  /-- Text that holds no token. -/
  | lexical
  /-- Tokens that form no query. -/
  | syntactic
  /-- A table that changed under a traversal. -/
  | concurrentModification
  /-- A request that comes at the wrong time. -/
  | illegalState
  /-- A malformed record file. -/
  | load
  /-- A file that is not there. -/
  | notFound
  /-- Reading or writing that failed. -/
  | inputOutput
  deriving DecidableEq, Repr

namespace Kind

/-- The name of the kind. -/
def name : Kind → String
  | .internal => "Internal"
  | .usage => "Usage"
  | .lexical => "Lexical"
  | .syntactic => "Syntax"
  | .concurrentModification => "ConcurrentModification"
  | .illegalState => "IllegalState"
  | .load => "Load"
  | .notFound => "NotFound"
  | .inputOutput => "Io"

/-- The exit code of a program that ends with a failure of the kind. -/
def exitCode : Kind → Nat
  | .internal => 1
  | .usage => 2
  | .lexical => 3
  | .syntactic => 4
  | .concurrentModification => 5
  | .illegalState => 6
  | .load => 7
  | .notFound => 8
  | .inputOutput => 9

end Kind

/-- A failure as it is told to the user. -/
structure Report where
  /-- The kind of failure. -/
  kind : Kind
  /-- What happened. -/
  message : Option String := none
  /-- What may help. -/
  hint : Option String := none
  /-- The file in which it happened. -/
  path : Option String := none
  /-- The line, from 1, at which it happened. -/
  line : Option Nat := none
  /-- What it was caused by, the nearest cause first. -/
  causes : List String := []
  deriving DecidableEq, Repr

namespace Report

/-- The report on one line: kind, message, path and line. -/
def text (r : Report) : String :=
  r.kind.name
    ++ (match r.message with | some m => ": " ++ m | none => "")
    ++ (match r.path with | some p => " (path: " ++ p ++ ")" | none => "")
    ++ (match r.line with | some n => " (line: " ++ toString n ++ ")" | none => "")

/-- The report of a failure that another failure caused. -/
def causedBy (r cause : Report) : Report := { r with causes := cause.text :: cause.causes }

/-- The report with a hint, unless it has one. -/
def withDefaultHint (r : Report) (hint : String) : Report :=
  { r with hint := some (r.hint.getD hint) }

end Report

end Cardfile
