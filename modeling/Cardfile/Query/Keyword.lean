import Cardfile.Text.Class
/-!
# Query — keywords

Two words of the query language cannot be names of columns: the one that
joins conditions, written in any case, and the operator that is a word.
-/

namespace Cardfile

namespace Query

/-- The word between two conditions. -/
def conjunctionWord : String := "AND"

/-- The operator that is a word. -/
def likeWord : String := "LIKE"

/-- Whether the word joins two conditions. -/
def isConjunction (word : List Char) : Bool :=
  Text.sameIgnoringCase word conjunctionWord.toList

/-- Whether the word is the operator that is a word. -/
def isLike (word : List Char) : Bool := word == likeWord.toList

end Query

end Cardfile
