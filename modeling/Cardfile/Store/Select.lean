import Cardfile.Store.Basic
import Cardfile.Query.Compile
/-!
# Stores — selecting records

A query that asks for one key is answered by the index, every other one
by asking its conditions of each record in turn. A selection keeps the
order of the records.
-/

namespace Cardfile

/-- How a query is answered. -/
inductive Plan where
  /-- By looking its key up. -/
  | index
  /-- By reading every record. -/
  | scan
  deriving DecidableEq, Repr

/-- The name of the plan. -/
def Plan.name : Plan → String
  | .index => "index"
  | .scan => "scan"

/-- The records that a query selects, and how they were found. -/
structure Selection where
  /-- How the records were found. -/
  plan : Plan
  /-- The records, in the order of the store. -/
  records : List Record
  deriving DecidableEq, Repr

/-- The records that the filter accepts, unless it fails before the end
is reached. -/
def Record.select {ε : Type} (filter : Record → Except ε Bool) :
    List Record → Except ε (List Record)
  | [] => .ok []
  | r :: rest => do
    let accepted ← filter r
    let records ← Record.select filter rest
    return if accepted then r :: records else records

namespace Store

/-- The number of records. -/
def size (s : Store) : Nat := s.records.size

/-- Whether there are no records. -/
def isEmpty (s : Store) : Bool := s.records.isEmpty

/-- The record with the key. -/
def lookup? (s : Store) (key : String) : Option Record :=
  (s.index.get? key).bind fun i => s.records[i]?

/-- The records that the filter accepts. -/
def scan {ε : Type} (s : Store) (filter : Record → Except ε Bool) : Except ε (List Record) :=
  Record.select filter s.records.toList

/-- The records that the query selects. -/
def execute (s : Store) (q : Query) : Except Query.MatchFault Selection :=
  match q.indexKey? with
  | some key => .ok { plan := .index, records := (s.lookup? key).toList }
  | none => (s.scan (Query.accepts q.conditions)).map fun records => { plan := .scan, records }

end Store

end Cardfile
