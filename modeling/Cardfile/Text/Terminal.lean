/-!
# Text — terminal sequences

A terminal takes some characters as instructions and shows the others.
An instruction begins with the escape character and ends where its kind
says so: at its next character, at a final character after parameters, or
only at a terminator or another instruction. `shown` keeps what is no
part of an instruction, without the control characters other than white
space.

An instruction is made of ASCII alone, and its reader takes octets. The
octets of a character beyond ASCII do nothing to it, except that one of
them may be the terminator of a payload; the character is not shown.
-/

namespace Cardfile

namespace Text

namespace Terminal

/-- The character that begins an instruction. -/
def escapeChar : Char := '\x1b'

/-- Whether the character is a control character of ASCII. -/
def isControl (c : Char) : Bool := c.toNat < 0x20 || c.toNat == 0x7F

/-- Whether the control character is white space. -/
def isSpacing (c : Char) : Bool := ['\t', '\n', '\x0c', '\r'].contains c

/-- Whether the character breaks off any instruction. -/
def isCancel (c : Char) : Bool := c == '\x18' || c == '\x1a'

/-- Whether the character stands between the escape character and the
last character of an instruction that has more than these two. -/
def isIntermediate (c : Char) : Bool := 0x20 ≤ c.toNat && c.toNat < 0x30

/-- Whether the character may be part of a parameter. -/
def isParameter (c : Char) : Bool := 0x30 ≤ c.toNat && c.toNat < 0x40

/-- Whether the character separates parameters or is a digit of one. -/
def isDigitOrSeparator (c : Char) : Bool := 0x30 ≤ c.toNat && c.toNat < 0x3C

/-- The octet that ends a payload. -/
def terminator : UInt8 := 0x9C

/-- Whether an octet of the character ends a payload. -/
def holdsTerminator (c : Char) : Bool := (String.utf8EncodeChar c).contains terminator

/-- How far a terminal has read an instruction. -/
inductive Progress where
  /-- Not at all: characters are shown. -/
  | outside
  /-- Up to its escape character. -/
  | escaped
  /-- Up to an intermediate character. -/
  | intermediate
  /-- Up to the parameters, which a final character ends. -/
  | parameters
  /-- Up to the text of a title, which the bell ends. -/
  | title
  /-- Up to the beginning of a device's instruction. -/
  | device
  /-- Up to the parameters of a device's instruction. -/
  | deviceParameters
  /-- Up to an intermediate character of a device's instruction. -/
  | deviceIntermediate
  /-- Up to a text that only the terminator ends. -/
  | payload
  deriving DecidableEq, Repr

namespace Progress

/-- Whether control characters inside the instruction keep their
effect. -/
def keepsControls : Progress → Bool
  | .outside | .escaped | .intermediate | .parameters => true
  | .title | .device | .deviceParameters | .deviceIntermediate | .payload => false

/-- The progress after a character of ASCII that is neither the escape
character nor breaks the instruction off. -/
def after : Progress → Char → Progress
  | .outside, _ => .outside
  | .escaped, c =>
    if isControl c then .escaped
    else if isIntermediate c then .intermediate
    else if c = '[' then .parameters
    else if c = ']' then .title
    else if c = 'P' then .device
    else if ['X', '^', '_'].contains c then .payload
    else .outside
  | .intermediate, c => if isControl c || isIntermediate c then .intermediate else .outside
  | .parameters, c =>
    if isControl c || isIntermediate c || isParameter c then .parameters else .outside
  | .title, c => if c = '\x07' then .outside else .title
  | .device, c =>
    if isControl c then .device
    else if isIntermediate c then .deviceIntermediate
    else if isParameter c then .deviceParameters
    else .payload
  | .deviceParameters, c =>
    if isControl c || isDigitOrSeparator c then .deviceParameters
    else if isIntermediate c then .deviceIntermediate
    else .payload
  | .deviceIntermediate, c =>
    if isControl c || isIntermediate c then .deviceIntermediate else .payload
  | .payload, _ => .payload

/-- The progress after a character beyond ASCII. -/
def afterWide (p : Progress) (c : Char) : Progress :=
  if p = .payload && holdsTerminator c then .outside else p

/-- The progress after a character, and what is shown for it. White space
that keeps its effect breaks the instruction off. -/
def read (p : Progress) (c : Char) : Progress × List Char :=
  if c = escapeChar then (.escaped, [])
  else if isCancel c then (.outside, [])
  else if isSpacing c && p.keepsControls then (.outside, [c])
  else if p = .outside then (.outside, if isControl c then [] else [c])
  else if c.toNat < 0x80 then (p.after c, [])
  else (p.afterWide c, [])

end Progress

/-- What is shown of the text by a terminal that has made the
progress. -/
def shownFrom : Progress → List Char → List Char
  | _, [] => []
  | p, c :: rest => (p.read c).2 ++ shownFrom (p.read c).1 rest

/-- What a terminal shows of the text. -/
def shown (text : String) : String := String.ofList (shownFrom .outside text.toList)

end Terminal

end Text

end Cardfile
