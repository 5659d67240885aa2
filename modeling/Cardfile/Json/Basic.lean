/-!
# JSON — values

The values that the program writes as JSON. The fields of an object keep
the order they are given in; `sorted` puts them in the order of their
names.
-/

namespace Cardfile

/-- A JSON value without the kinds that the program never writes. -/
inductive Json where
  /-- A whole number. -/
  | number (n : Int)
  /-- A string. -/
  | string (s : String)
  /-- A list. -/
  | array (items : List Json)
  /-- Named fields. -/
  | object (fields : List (String × Json))

namespace Json

/-- An object with its fields in the order of their names. -/
def sorted (fields : List (String × Json)) : Json :=
  .object (fields.mergeSort fun a b => a.1 ≤ b.1)

end Json

end Cardfile
