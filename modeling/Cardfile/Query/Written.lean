import Cardfile.Query.Compile
/-!
# Query — the written form

A condition is written as the name of its column, its operator and its
literal between quotes, with one space between them, and a query as its
conditions joined by `AND`. A condition on a column that the schema does
not have has no written form.
-/

namespace Cardfile

namespace Query

/-- The literal between quotes. -/
def quotedLiteral (literal : String) : String :=
  quoteChar.toString ++ literal ++ quoteChar.toString

/-- The condition as it is written under the schema. -/
def Condition.text? (schema : Schema) (c : Condition) : Option String :=
  schema.names[c.column]?.map fun name =>
    name ++ " " ++ c.operator.symbol ++ " " ++ quotedLiteral c.literal

/-- The query as it is written under the schema. -/
def text? (schema : Schema) (q : Query) : Option String :=
  (q.conditions.mapM (Condition.text? schema)).map
    ((" " ++ conjunctionWord ++ " ").intercalate ·)

end Query

end Cardfile
