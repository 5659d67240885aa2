import Cardfile.Record.Basic
import Cardfile.Query.Operator
/-!
# Query — conditions

A condition compares one field of a record with a literal. A record is
accepted by a list of conditions if all of them hold; they are asked in
order, and the first that fails or has no answer decides.
-/

namespace Cardfile

namespace Query

/-- A comparison of a field with a literal. -/
structure Condition where
  /-- The place of the field. -/
  column : Nat
  /-- The comparison. -/
  operator : Operator
  /-- The text compared with. -/
  literal : String
  deriving DecidableEq, Repr

end Query

/-- The field of a record at a place that the record should have. -/
def Record.fieldAt (r : Record) (column : Nat) : Except Query.MatchFault String :=
  match r.field? column with
  | some value => .ok value
  | none => .error (.noField column r.values.length)

namespace Query

/-- Whether the condition holds of the record. -/
def Condition.holds (c : Condition) (r : Record) : Except MatchFault Bool := do
  let value ← r.fieldAt c.column
  c.operator.holds value c.literal

/-- Whether all conditions hold of the record. -/
def accepts : List Condition → Record → Except MatchFault Bool
  | [], _ => .ok true
  | c :: rest, r => do
    if ← c.holds r then accepts rest r else return false

end Query

end Cardfile
