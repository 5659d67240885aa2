import Cardfile.Json.Basic
import Cardfile.Text.Integer
/-!
# JSON — printing

The two written forms of a value: `compact`, without any space between
the tokens, and `pretty`, with each item and each field on a line of its
own, indented by two spaces for each level.
-/

namespace Cardfile

namespace Json

/-- Four hexadecimal digits of a control character. -/
def controlEscape (c : Char) : List Char :=
  ['\\', 'u', '0', '0', (c.toNat / 16).digitChar, (c.toNat % 16).digitChar]

/-- The character as it is written in a string. -/
def escaped (c : Char) : List Char :=
  if c = '"' then ['\\', '"']
  else if c = '\\' then ['\\', '\\']
  else if c = '\x08' then ['\\', 'b']
  else if c = '\x0c' then ['\\', 'f']
  else if c = '\n' then ['\\', 'n']
  else if c = '\r' then ['\\', 'r']
  else if c = '\t' then ['\\', 't']
  else if c.toNat < 0x20 then controlEscape c
  else [c]

/-- The string between quotes. -/
def quoted (s : String) : String :=
  String.ofList ('"' :: s.toList.flatMap escaped ++ ['"'])

/-- Items between an opening and a closing character, with commas
between them. -/
def enclosed (opening closing : Char) (items : List String) : String :=
  opening.toString ++ ",".intercalate items ++ closing.toString

/-- Items on lines of their own, indented for the level. -/
def enclosedLines (opening closing : Char) (level : Nat) (items : List String) : String :=
  match items with
  | [] => enclosed opening closing []
  | items =>
    let line (depth : Nat) := "\n" ++ String.ofList (List.replicate (2 * depth) ' ')
    opening.toString ++ ",".intercalate (items.map (line (level + 1) ++ ·)) ++ line level
      ++ closing.toString

mutual

/-- The value without any space between the tokens. -/
def compact : Json → String
  | .number n => Text.Integer.text n
  | .string s => quoted s
  | .array items => enclosed '[' ']' (compactItems items)
  | .object fields => enclosed '\x7b' '\x7d' (compactFields fields)

/-- The items of a list. -/
def compactItems : List Json → List String
  | [] => []
  | item :: rest => compact item :: compactItems rest

/-- The fields of an object, each as its name and its value. -/
def compactFields : List (String × Json) → List String
  | [] => []
  | (name, value) :: rest => (quoted name ++ ":" ++ compact value) :: compactFields rest

end

mutual

/-- The value with its items and fields on lines of their own. -/
def prettyAt (level : Nat) : Json → String
  | .number n => Text.Integer.text n
  | .string s => quoted s
  | .array items => enclosedLines '[' ']' level (prettyItems (level + 1) items)
  | .object fields => enclosedLines '\x7b' '\x7d' level (prettyFields (level + 1) fields)

/-- The items of a list. -/
def prettyItems (level : Nat) : List Json → List String
  | [] => []
  | item :: rest => prettyAt level item :: prettyItems level rest

/-- The fields of an object, each as its name and its value. -/
def prettyFields (level : Nat) : List (String × Json) → List String
  | [] => []
  | (name, value) :: rest =>
    (quoted name ++ ": " ++ prettyAt level value) :: prettyFields level rest

end

/-- The value with its items and fields on lines of their own. -/
def pretty (j : Json) : String := prettyAt 0 j

end Json

end Cardfile
