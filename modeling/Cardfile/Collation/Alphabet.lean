/-!
# Collation — the alphabet

The letters of the Croatian alphabet with their foreign neighbours, in
dictionary order. Three letters are written with two characters. A
foreign accented letter counts as the letter it is made of, and its
accent only decides between words that are otherwise the same.
-/

namespace Cardfile

namespace Collation

/-- The letters in dictionary order, in lower case. -/
def alphabet : List (List Char) := [
  ['a'], ['b'], ['c'], ['č'], ['ć'], ['d'], ['d', 'ž'], ['đ'], ['e'], ['f'], ['g'], ['h'],
  ['i'], ['j'], ['k'], ['l'], ['l', 'j'], ['m'], ['n'], ['n', 'j'], ['o'], ['p'], ['q'],
  ['r'], ['s'], ['š'], ['t'], ['u'], ['v'], ['w'], ['x'], ['y'], ['z'], ['ž']]

/-- The place of a letter in the alphabet. -/
def place? (letter : List Char) : Option Nat := alphabet.idxOf? letter

/-- The marks that make a foreign letter out of one of the alphabet. -/
inductive Accent where
  | acute
  | grave
  | circumflex
  | tilde
  | diaeresis
  | ring
  | caron
  | cedilla
  | stroke
  deriving DecidableEq, Repr

/-- The rank of an accent; a letter without one has rank 0. -/
def Accent.rank : Accent → Nat
  | .acute => 1
  | .grave => 2
  | .circumflex => 3
  | .tilde => 4
  | .diaeresis => 5
  | .ring => 6
  | .caron => 7
  | .cedilla => 8
  | .stroke => 9

/-- The rank of a hyphen, above every accent. -/
def hyphenRank : Nat := 10

/-- Foreign letters with the letter and the accent they are made of. -/
def foreignLetters : List (Char × Char × Accent) := [
  ('á', 'a', .acute), ('à', 'a', .grave), ('â', 'a', .circumflex), ('ã', 'a', .tilde),
  ('ä', 'a', .diaeresis), ('å', 'a', .ring), ('ă', 'a', .caron), ('ç', 'c', .cedilla),
  ('ď', 'd', .caron), ('é', 'e', .acute), ('è', 'e', .grave), ('ê', 'e', .circumflex),
  ('ë', 'e', .diaeresis), ('ě', 'e', .caron), ('í', 'i', .acute), ('ì', 'i', .grave),
  ('î', 'i', .circumflex), ('ï', 'i', .diaeresis), ('ĺ', 'l', .acute), ('ľ', 'l', .caron),
  ('ł', 'l', .stroke), ('ñ', 'n', .tilde), ('ń', 'n', .acute), ('ň', 'n', .caron),
  ('ó', 'o', .acute), ('ò', 'o', .grave), ('ô', 'o', .circumflex), ('õ', 'o', .tilde),
  ('ö', 'o', .diaeresis), ('ø', 'o', .stroke), ('ŕ', 'r', .acute), ('ř', 'r', .caron),
  ('ś', 's', .acute), ('ş', 's', .cedilla), ('ť', 't', .caron), ('ú', 'u', .acute),
  ('ù', 'u', .grave), ('û', 'u', .circumflex), ('ü', 'u', .diaeresis), ('ů', 'u', .ring),
  ('ý', 'y', .acute), ('ÿ', 'y', .diaeresis), ('ź', 'z', .acute), ('ż', 'z', .stroke)]

/-- The letter and the accent that a foreign letter is made of. -/
def unaccented? (c : Char) : Option (Char × Accent) := foreignLetters.lookup c

end Collation

end Cardfile
