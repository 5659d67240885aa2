import Cardfile.Table.Hashing
/-!
# Records

A record is a row of fields. The first field is its key, and two records
count as the same one if their keys are the same, whatever their other
fields hold.
-/

namespace Cardfile

/-- A row of fields. -/
structure Record where
  /-- The fields, the key first. -/
  values : List String
  deriving DecidableEq, Repr

namespace Record

/-- The key of the record. -/
def key (r : Record) : String := r.values.headD ""

/-- The field at a place. -/
def field? (r : Record) (i : Nat) : Option String := r.values[i]?

/-- Whether the two are the same record. -/
def isSame (r s : Record) : Bool := r.key == s.key

/-- The hash of a record is the hash of its key. -/
def hash (r : Record) : UInt64 := Hashing.ofString r.key

end Record

end Cardfile
