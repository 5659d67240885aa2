import Cardfile.Query.Operator
/-!
# Query — tokens

The tokens of a query and the ways to show them. A token may carry the
text it was read from; `Token.text` is that text and `Token.shown` is how
a message shows the token.
-/

namespace Cardfile

namespace Query

/-- The kinds of tokens. -/
inductive TokenKind where
  /-- The end of the query. -/
  | finish
  /-- The name of a field. -/
  | field
  /-- An operator. -/
  | operator
  /-- The word between two conditions. -/
  | conjunction
  /-- A quote at either end of a literal. -/
  | quote
  /-- The text of a literal. -/
  | literal
  deriving DecidableEq, Repr

/-- The name of the kind. -/
def TokenKind.name : TokenKind → String
  | .finish => "End"
  | .field => "Attribute"
  | .operator => "Operator"
  | .conjunction => "And"
  | .quote => "Quote"
  | .literal => "Literal"

/-- A token, with the text it was read from where that can differ. -/
structure Token where
  /-- The kind of the token. -/
  kind : TokenKind
  /-- The text of the token. -/
  value : Option String := none
  deriving DecidableEq, Repr

/-- The character around a literal. -/
def quoteChar : Char := '"'

namespace Token

/-- The end of the query. -/
def finish : Token := { kind := .finish }

/-- The word between two conditions. -/
def conjunction : Token := { kind := .conjunction }

/-- A quote. -/
def quote : Token := { kind := .quote }

/-- The name of a field. -/
def field (name : String) : Token := { kind := .field, value := some name }

/-- An operator, as it is written. -/
def operator (symbol : String) : Token := { kind := .operator, value := some symbol }

/-- The text of a literal. -/
def literal (text : String) : Token := { kind := .literal, value := some text }

/-- The text that the token carries. -/
def text (t : Token) : String := t.value.getD ""

/-- The token as a message shows it. -/
def shown (t : Token) : String :=
  match t.value with
  | some value => if t.kind = .literal then "\"" ++ value ++ "\"" else value
  | none =>
    match t.kind with
    | .finish => "<end>"
    | .conjunction => conjunctionWord
    | .quote => "\""
    | kind => "<" ++ kind.name ++ ">"

end Token

/-- Why no token can be read. -/
inductive TokenFault where
  /-- A run of characters that begins no token. -/
  | unknown (run : String)
  /-- Punctuation that is no operator. -/
  | badOperator (symbol : String)
  /-- A literal without a quote at its end. -/
  | unterminated (fragment : String)
  /-- The end was read before. -/
  | pastEnd
  deriving DecidableEq, Repr

/-- A message that ends with a fragment of the query, if there is one. -/
def withFragment (message fragment : String) : String :=
  if fragment.isEmpty then message else message ++ ": " ++ fragment

/-- The fault in words. -/
def TokenFault.message : TokenFault → String
  | .unknown run => withFragment "unknown token" run
  | .badOperator symbol => withFragment "invalid operator" symbol
  | .unterminated fragment => withFragment "unterminated literal" fragment
  | .pastEnd => "no token after end of input"

/-- The fault as it is told to the user. -/
def TokenFault.report (f : TokenFault) : Report :=
  { kind := .lexical, message := some f.message }

end Query

end Cardfile
