import Cardfile.Text.Class
import Cardfile.Collation.Alphabet
/-!
# Collation — elements

A text is compared through its elements, one for each letter. An element
carries three weights: the letter, the accent, and the case. A letter of
two characters is one element, found greedily from the left.

The first weight puts white space and punctuation below digits, digits
below letters and letters below everything else. A hyphen has no first
weight and counts only as an accent would.
-/

namespace Cardfile

namespace Collation

open Text

/-- The weights of one letter. -/
structure Element where
  /-- The weight of the letter; 0 if it counts for nothing at first. -/
  primary : Nat
  /-- The weight of the accent. -/
  secondary : Nat
  /-- The weight of the case, lower case first. -/
  tertiary : Nat
  deriving DecidableEq, Repr

/-- Where the first weights of punctuation begin. -/
def punctuationBase : Nat := 0x100

/-- Where the first weights of digits begin. -/
def digitBase : Nat := 0x1000

/-- Where the first weights of letters begin. -/
def letterBase : Nat := 0x2000

/-- Where the first weights of all other characters begin. -/
def otherBase : Nat := 0x10000

/-- The first weight of a letter of the alphabet. -/
def letterWeight? (letter : List Char) : Option Nat :=
  (place? letter).map fun place => letterBase + 4 * place

/-- One for an upper-case character and zero for any other. -/
def caseBit (c : Char) : Nat := if isUppercase c then 1 else 0

/-- The element of a letter that is written with two characters. -/
def pair? (c d : Char) : Option Element :=
  (letterWeight? [lower c, lower d]).map fun weight =>
    { primary := weight, secondary := 0, tertiary := 2 * caseBit c + caseBit d }

/-- The first weight and the accent of a letter, foreign ones included. -/
def letter? (c : Char) : Option (Nat × Nat) :=
  match letterWeight? [c] with
  | some weight => some (weight, 0)
  | none => do
    let (base, accent) ← unaccented? c
    let weight ← letterWeight? [base]
    some (weight, accent.rank)

/-- Whether the character is a hyphen or a soft hyphen. -/
def isHyphen (c : Char) : Bool := c == '-' || c == '\u00AD'

/-- Whether the character is one of the ten ASCII digits. -/
def isAsciiDigit (c : Char) : Bool := '0' ≤ c && c ≤ '9'

/-- Whether the character counts as punctuation: the rest of ASCII, and
white space. -/
def isPunctuation (c : Char) : Bool := c.toNat < 0x80 || isBlank c

/-- The element of a character on its own. -/
def single (c : Char) : Element :=
  match letter? (lower c) with
  | some (weight, accent) =>
    { primary := weight, secondary := accent, tertiary := 3 * caseBit c }
  | none =>
    if isHyphen c then { primary := 0, secondary := hyphenRank, tertiary := 0 }
    else if isAsciiDigit c then
      { primary := digitBase + (c.toNat - '0'.toNat), secondary := 0, tertiary := 0 }
    else if isPunctuation c then
      { primary := punctuationBase + c.toNat, secondary := 0, tertiary := 0 }
    else { primary := otherBase + (lower c).toNat, secondary := 0, tertiary := 3 * caseBit c }

/-- The elements of a text, from the left. -/
def elements : List Char → List Element
  | [] => []
  | [c] => [single c]
  | c :: d :: rest =>
    match pair? c d with
    | some e => e :: elements rest
    | none => single c :: elements (d :: rest)

end Collation

end Cardfile
