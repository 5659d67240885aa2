import Cardfile.Schema.Basic
import Cardfile.Query.Condition
import Cardfile.Query.Scanner
/-!
# Query — from text to conditions

A query is one or more conditions joined by `AND`, each an attribute, an
operator and a literal between quotes. The text is read token by token:
a quote turns the scanner from one mode to the other, the tokens of a
condition are gathered, and `AND` or the end of the text completes it.
The first fault met in the text is the one reported.
-/

namespace Cardfile

namespace Query

/-- Why a text is no query. -/
inductive QueryFault where
  /-- A token cannot be read. -/
  | lexical (fault : TokenFault)
  /-- A condition does not have three tokens. -/
  | arity (tokens : List Token)
  /-- A condition does not begin with an attribute. -/
  | left (token : Token)
  /-- A condition has no operator in the middle. -/
  | middle (token : Token)
  /-- A condition does not end with a literal. -/
  | right (token : Token)
  /-- The schema has no column of that name. -/
  | unknownColumn (name : String) (known : List String)
  /-- There is no operator of that symbol. -/
  | unknownOperator (symbol : String)
  deriving DecidableEq, Repr

/-- A fault in the form of a query. -/
def malformed (message : String) : Report := { kind := .syntactic, message := some message }

/-- The fault as it is told to the user. -/
def QueryFault.report : QueryFault → Report
  | .lexical fault => fault.report
  | .arity tokens =>
    { malformed ("invalid expression: [" ++ ", ".intercalate (tokens.map Token.shown) ++ "]") with
      hint := some "Each expression is written as attribute operator \"literal\"." }
  | .left token => malformed ("the left-hand side must be an attribute: " ++ token.shown)
  | .middle token => malformed ("the middle token must be an operator: " ++ token.shown)
  | .right token => malformed ("the right-hand side must be a literal: " ++ token.shown)
  | .unknownColumn name known =>
    { malformed ("unknown attribute: " ++ name) with
      hint := some ("Known attributes: " ++ ", ".intercalate known) }
  | .unknownOperator symbol => malformed ("unknown operator: " ++ symbol)

/-- The condition that the tokens spell. -/
def conditionOf (schema : Schema) : List Token → Except QueryFault Condition
  | [field, operator, literal] =>
    if field.kind ≠ .field then .error (.left field)
    else if operator.kind ≠ .operator then .error (.middle operator)
    else if literal.kind ≠ .literal then .error (.right literal)
    else
      match schema.place? field.text, Operator.ofSymbol? operator.text with
      | none, _ => .error (.unknownColumn field.text schema.names)
      | some _, none => .error (.unknownOperator operator.text)
      | some column, some op => .ok { column, operator := op, literal := literal.text }
  | tokens => .error (.arity tokens)

/-- Reads the conditions that are left, the first of which begins with
the gathered tokens. -/
def conditionsFrom (schema : Schema) (s : Scanner) (gathered : List Token) :
    Except QueryFault (List Condition) :=
  match h : s.next with
  | (.error fault, _) => .error (.lexical fault)
  | (.ok t, s') =>
    if ht : t = .finish then (conditionOf schema gathered).map ([·])
    else
      have : s'.rest.length < s.rest.length := Scanner.length_lt_of_next h ht
      match t.kind with
      | .quote => conditionsFrom schema s'.toggled gathered
      | .conjunction => do
        let condition ← conditionOf schema gathered
        let conditions ← conditionsFrom schema s' []
        return condition :: conditions
      | _ => conditionsFrom schema s' (gathered ++ [t])
  termination_by s.rest.length

/-- The conditions that the text spells. -/
def read (schema : Schema) (text : String) : Except QueryFault (List Condition) :=
  conditionsFrom schema (Scanner.ofString text) []

end Query

/-- A conjunction of conditions. -/
structure Query where
  /-- The conditions, in the order of the text. -/
  conditions : List Query.Condition
  deriving DecidableEq, Repr

namespace Query

/-- The query that the text spells. -/
def compile (schema : Schema) (text : String) : Except QueryFault Query :=
  (read schema text).map Query.mk

/-- The key that the query asks for, if all it does is to ask for a key. -/
def indexKey? (q : Query) : Option String :=
  match q.conditions with
  | [c] => if isKeyPlace c.column && c.operator = .equal then some c.literal else none
  | _ => none

end Query

end Cardfile
