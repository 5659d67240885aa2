import Cardfile.Query.Scanner
/-!
# Query — the tokens of a text

The tokens that a reader meets who turns the scanner at every quote, up
to the end of the text or the first fault.
-/

namespace Cardfile

namespace Query

/-- The tokens that are left, and the fault that ends them if one does. -/
def tokensFrom (s : Scanner) : List Token × Option TokenFault :=
  match h : s.next with
  | (.error fault, _) => ([], some fault)
  | (.ok t, s') =>
    if ht : t = .finish then ([t], none)
    else
      have : s'.rest.length < s.rest.length := Scanner.length_lt_of_next h ht
      let (tokens, fault) := tokensFrom (if t.kind = .quote then s'.toggled else s')
      (t :: tokens, fault)
  termination_by s.rest.length
  decreasing_by split <;> exact this

/-- The tokens of the text, and the fault that ends them if one does. -/
def tokens (text : String) : List Token × Option TokenFault :=
  tokensFrom (Scanner.ofString text)

end Query

end Cardfile
