import Cardfile.Text.Alphabetic
import Cardfile.Text.Numeric
import Cardfile.Text.Uppercase
import Cardfile.Text.Lowercase
import Cardfile.Text.Blank
import Cardfile.Text.Extending
import Cardfile.Text.Ignorable
import Cardfile.Text.Unprintable
/-!
# Text — classes of characters

The questions the rest of the library asks of a character, each answered
by the table of one property of the Unicode Character Database. Names are
spelled with `isNameStart` and `isNamePart`, words are separated by
`isBlank`, and the collation folds case with `lower` and `isUppercase`.
-/

namespace Cardfile

namespace Text

/-- Whether the character is alphabetic. -/
def isAlphabetic (c : Char) : Bool := covered alphabeticSpans c.toNat

/-- Whether the character is a digit or another number. -/
def isNumeric (c : Char) : Bool := covered numericSpans c.toNat

/-- Whether the character is white space. -/
def isBlank (c : Char) : Bool := covered blankSpans c.toNat

/-- Whether the character is upper case. -/
def isUppercase (c : Char) : Bool := struck uppercaseStrides c.toNat

/-- Whether the character joins the one before it. -/
def isExtending (c : Char) : Bool := covered extendingSpans c.toNat

/-- Whether the character may be shown as nothing. -/
def isIgnorable (c : Char) : Bool := covered ignorableSpans c.toNat

/-- Whether the character has a printed form. -/
def isPrintable (c : Char) : Bool :=
  !(covered unprintableSpans c.toNat || isIgnorable c)

/-- Whether a name may begin with the character. -/
def isNameStart (c : Char) : Bool := isAlphabetic c || c == '_'

/-- Whether a name may go on with the character. -/
def isNamePart (c : Char) : Bool := isAlphabetic c || isNumeric c || c == '_'

/-- The image of a code point under the lowerings that remain. -/
def lowered : List Lowering → Nat → Nat
  | [], n => n
  | l :: rest, n =>
    if n < l.upper.first then n
    else if l.upper.holds n then (n + l.shift).toNat
    else lowered rest n

/-- The first character of the lower-case mapping. -/
def lower (c : Char) : Char := Char.ofNat (lowered lowerings c.toNat)

/-- The letter of an ASCII upper-case letter in lower case; every other
character stands for itself. -/
def asciiLower (c : Char) : Char :=
  if 'A' ≤ c ∧ c ≤ 'Z' then Char.ofNat (c.toNat + 32) else c

/-- Whether two texts are the same up to the case of ASCII letters. -/
def sameIgnoringCase (s t : List Char) : Bool :=
  s.map asciiLower == t.map asciiLower

/-- A name may begin only with a character that it may go on with. -/
theorem isNamePart_of_isNameStart {c : Char} (h : isNameStart c = true) :
    isNamePart c = true := by
  simp only [isNameStart, isNamePart, Bool.or_eq_true] at h ⊢
  exact h.elim (fun h => Or.inl (Or.inl h)) Or.inr

end Text

end Cardfile
