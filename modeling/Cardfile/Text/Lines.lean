import Cardfile.Text.Pieces
import Cardfile.Text.Utf8
/-!
# Text — lines of octets

A line ends at a line feed, or at a carriage return and a line feed; the
octets after the last line feed are a line of their own if there are any.
-/

namespace Cardfile

namespace Text

/-- The line feed that ends a line. -/
def lineFeed : UInt8 := 0x0A

/-- The carriage return that may stand before a line feed. -/
def carriageReturn : UInt8 := 0x0D

/-- The lines among the pieces between line feeds: all but the last piece
were ended by a line feed. -/
def linesOfPieces : List (List UInt8) → List (List UInt8)
  | [] => []
  | [last] => if last = [] then [] else [last]
  | piece :: rest => dropLastIf carriageReturn piece :: linesOfPieces rest

/-- The lines of the octets, without their ends. -/
def lines (octets : List UInt8) : List (List UInt8) :=
  linesOfPieces (pieces lineFeed octets)

end Text

end Cardfile
