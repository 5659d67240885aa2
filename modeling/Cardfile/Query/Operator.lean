import Cardfile.Report
import Cardfile.Text.Pieces
import Cardfile.Collation.Order
import Cardfile.Query.Keyword
/-!
# Query — operators

An operator compares the value of a field with the literal of a
condition. Six of them read the collation; `LIKE` compares character by
character with a pattern, in which one wildcard may stand for any text.
-/

namespace Cardfile

namespace Query

/-- The operators of the query language. -/
inductive Operator where
  | equal
  | notEqual
  | less
  | lessOrEqual
  | greater
  | greaterOrEqual
  | like
  deriving DecidableEq, Repr

/-- Why a condition has no answer for a record. -/
inductive MatchFault where
  /-- The record has no such field. -/
  | noField (column fields : Nat)
  /-- The pattern has more than one wildcard. -/
  | tooManyWildcards (pattern : String)
  deriving DecidableEq, Repr

/-- The fault as it is told to the user. -/
def MatchFault.report : MatchFault → Report
  | .noField column fields =>
    { kind := .usage,
      message := some ("column " ++ toString column ++ " is out of range for a record with "
        ++ toString fields ++ " fields"),
      hint := some "Compile the query against the schema of the store it runs on." }
  | .tooManyWildcards pattern =>
    { kind := .syntactic,
      message := some ("pattern of LIKE may contain at most one '*': " ++ pattern),
      hint := some "Use a single wildcard, e.g. lastName LIKE \"B*ć\"." }

/-! ## Patterns -/

/-- The character that stands for any text. -/
def wildcard : Char := '*'

/-- Whether the value has the form of the pattern: without a wildcard the
two are the same, with one the value begins and ends like the pattern. -/
def fits (value pattern : List Char) : Bool :=
  match Text.cutAt (· == wildcard) pattern with
  | none => value == pattern
  | some (front, back) => front.isPrefixOf value && back.isSuffixOf value

/-- Compares a value with a pattern of at most one wildcard. -/
def matchPattern (value pattern : String) : Except MatchFault Bool :=
  if 1 < pattern.toList.count wildcard then .error (.tooManyWildcards pattern)
  else .ok (fits value.toList pattern.toList)

/-! ## Operators -/

namespace Operator

/-- All operators. -/
def all : List Operator :=
  [.equal, .notEqual, .less, .lessOrEqual, .greater, .greaterOrEqual, .like]

/-- The way an operator is written. -/
def symbol : Operator → String
  | .equal => "="
  | .notEqual => "!="
  | .less => "<"
  | .lessOrEqual => "<="
  | .greater => ">"
  | .greaterOrEqual => ">="
  | .like => likeWord

/-- The operator that is written so. -/
def ofSymbol? (symbol : String) : Option Operator := all.find? fun op => op.symbol == symbol

/-- Whether the operator holds between a value and a literal. -/
def holds (op : Operator) (value literal : String) : Except MatchFault Bool :=
  match op with
  | .equal => .ok (Collation.same value literal)
  | .notEqual => .ok (!Collation.same value literal)
  | .less => .ok (Collation.order value literal == .lt)
  | .lessOrEqual => .ok (Collation.order value literal != .gt)
  | .greater => .ok (Collation.order value literal == .gt)
  | .greaterOrEqual => .ok (Collation.order value literal != .lt)
  | .like => matchPattern value literal

end Operator

/-- Whether the symbol is made of punctuation. -/
def isPunctuated (symbol : List Char) : Bool :=
  match symbol with
  | [] => true
  | c :: _ => !Text.isAlphabetic c

/-- Whether the character occurs in an operator that is made of
punctuation. -/
def isSymbolChar (c : Char) : Bool :=
  Operator.all.any fun op => isPunctuated op.symbol.toList && op.symbol.toList.contains c

end Query

end Cardfile
