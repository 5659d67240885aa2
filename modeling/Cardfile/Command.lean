import Cardfile.Listing
import Cardfile.Record.View
import Cardfile.Json.Printer
import Cardfile.Store.Select
/-!
# Commands

The two commands that ask a store for records. `query` takes any query
and chooses the plan; `indexQuery` takes only a query for one key. Their
answers are a listing or JSON.
-/

namespace Cardfile

/-- The forms of an answer. -/
inductive Format where
  /-- A listing. -/
  | table
  /-- JSON. -/
  | json
  deriving DecidableEq, Repr

/-- The answer of a command. -/
inductive Answer where
  /-- Text to be shown as it is. -/
  | text (shown : String)
  /-- A value to be written as JSON. -/
  | json (value : Json)

/-- The answer as text. -/
def Answer.toText : Answer → String
  | .text shown => shown
  | .json value => value.compact

/-- Why a command has no answer. -/
inductive CommandFault where
  /-- The command was not given what it takes. -/
  | badUse (expected : String)
  /-- The text is no query. -/
  | query (fault : Query.QueryFault)
  /-- The query has no answer for a record. -/
  | evaluation (fault : Query.MatchFault)
  deriving DecidableEq, Repr

/-- The fault as it is told to the user. -/
def CommandFault.report : CommandFault → Report
  | .badUse expected =>
    { kind := .syntactic,
      message := some ("The syntax of the command is incorrect. Expected: " ++ expected) }
  | .query fault => fault.report
  | .evaluation fault => fault.report

namespace Command

/-- The line above records that the index found. -/
def indexNotice : String := "Using index for record retrieval."

/-- What `query` takes. -/
def queryUse : String := "query expression1 AND expression2 AND ..."

/-- What `indexQuery` takes. -/
def indexQueryUse (schema : Schema) : String := "indexquery " ++ schema.keyName ++ "=\"<value>\""

/-- The expression of a command, which must not be blank. -/
def requireExpression (expression : Option String) (expected : String) :
    Except CommandFault String :=
  match expression with
  | none => .error (.badUse expected)
  | some text =>
    if (Text.trim text.toList).isEmpty then .error (.badUse expected)
    else .ok (Text.trimmed text)

/-- A selection as JSON. -/
def selectionJson (schema : Schema) (s : Selection) : Json :=
  .sorted [
    ("plan", .string s.plan.name),
    ("selected", .number s.records.length),
    ("records", .array (s.records.map fun r => .sorted (r.viewFields schema)))]

/-- A selection as a listing, under a notice if the index found it. -/
def selectionText (s : Selection) : String :=
  match s.plan with
  | .index => indexNotice ++ "\n" ++ Listing.render s.records
  | .scan => Listing.render s.records

/-- A selection in the format asked for. -/
def answer (schema : Schema) (s : Selection) : Format → Answer
  | .table => .text (selectionText s)
  | .json => .json (selectionJson schema s)

/-- Answers a query. -/
def query (store : Store) (expression : Option String) (format : Format) :
    Except CommandFault Answer := do
  let text ← requireExpression expression queryUse
  let q ← (Query.compile store.schema text).mapError .query
  let selection ← (store.execute q).mapError .evaluation
  return answer store.schema selection format

/-- The sentence for a key that no record has. -/
def missingText (schema : Schema) : String :=
  "A record with the specified " ++ schema.keyName ++ " does not exist."

/-- Answers a query for one key. -/
def indexQuery (store : Store) (expression : Option String) (format : Format) :
    Except CommandFault Answer := do
  let expected := indexQueryUse store.schema
  let text ← requireExpression expression expected
  let q ← (Query.compile store.schema text).mapError .query
  match q.indexKey? with
  | none => .error (.badUse expected)
  | some key =>
    let records := (store.lookup? key).toList
    if format = .table ∧ records = [] then return .text (missingText store.schema)
    else return answer store.schema { plan := .index, records } format

end Command

end Cardfile
