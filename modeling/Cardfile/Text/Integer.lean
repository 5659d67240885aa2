/-!
# Text — integers of 64 bits

A written integer is an optional sign and one or more decimal digits,
read from the left; the first character that cannot be accepted decides
the fault. What is read lies between `-2^63` and `2^63 - 1`, and is
written back by `Integer.text` in the one form without a plus sign or
leading zeros.
-/

namespace Cardfile

namespace Text

/-- Why a text is not an integer of 64 bits. -/
inductive IntegerFault where
  /-- There is nothing to read. -/
  | empty
  /-- A character is not a digit, or a sign stands alone. -/
  | digit
  /-- The digits so far exceed the greatest integer. -/
  | high
  /-- The digits so far fall below the least integer. -/
  | low
  deriving DecidableEq, Repr

/-- The fault in words. -/
def IntegerFault.text : IntegerFault → String
  | .empty => "cannot parse integer from empty string"
  | .digit => "invalid digit found in string"
  | .high => "number too large to fit in target type"
  | .low => "number too small to fit in target type"

namespace Integer

/-- The value of a decimal digit. -/
def digit? (c : Char) : Option Nat :=
  if '0' ≤ c ∧ c ≤ '9' then some (c.toNat - '0'.toNat) else none

/-- The magnitude of the digits, which follow digits of the magnitude
`soFar`, with `beyond` as the fault once `limit` is passed. -/
def magnitude (limit : Nat) (beyond : IntegerFault) (soFar : Nat) :
    List Char → Except IntegerFault Nat
  | [] => .ok soFar
  | c :: rest =>
    match digit? c with
    | none => .error .digit
    | some d =>
      if soFar * 10 + d ≤ limit then magnitude limit beyond (soFar * 10 + d) rest
      else .error beyond

/-- The greatest magnitude below zero, `2^63`; above zero it is one less. -/
def bound : Nat := 9223372036854775808

/-- Reads the text as an integer of 64 bits. -/
def read : List Char → Except IntegerFault Int
  | [] => .error .empty
  | '-' :: [] => .error .digit
  | '+' :: [] => .error .digit
  | '-' :: digits => (magnitude bound .low 0 digits).map fun n => -(n : Int)
  | '+' :: digits => (magnitude (bound - 1) .high 0 digits).map fun n => (n : Int)
  | digits => (magnitude (bound - 1) .high 0 digits).map fun n => (n : Int)

/-- The digits of the integer, after a minus sign if it is negative. -/
def digits : Int → List Char
  | .ofNat n => Nat.toDigits 10 n
  | .negSucc n => '-' :: Nat.toDigits 10 (n + 1)

/-- The integer in its canonical decimal form. -/
def text (i : Int) : String := String.ofList (digits i)

end Integer

end Text

end Cardfile
