import Cardfile.Collation.Element
/-!
# Collation — the order of texts

Two texts are compared by their letters, then by their accents, then by
their case: each level is the lexicographic order of one weight of the
elements, and decides only if the levels before it find no difference.
-/

namespace Cardfile

namespace Collation

/-- The first weights of the elements that have one. -/
def primaries (es : List Element) : List Nat :=
  (es.map Element.primary).filter (· ≠ 0)

/-- The accents of the elements. -/
def secondaries (es : List Element) : List Nat := es.map Element.secondary

/-- The cases of the elements. -/
def tertiaries (es : List Element) : List Nat := es.map Element.tertiary

/-- The order of two lists of elements, level by level. -/
def elementOrder (es fs : List Element) : Ordering :=
  (compare (primaries es) (primaries fs)).then
    ((compare (secondaries es) (secondaries fs)).then
      (compare (tertiaries es) (tertiaries fs)))

/-- The order of two texts. -/
def order (s t : String) : Ordering := elementOrder (elements s.toList) (elements t.toList)

/-- Whether the order finds no difference. -/
def same (s t : String) : Bool := order s t == .eq

/-- The texts in order; texts without a difference keep their places. -/
def sort (texts : List String) : List String := texts.mergeSort fun s t => order s t != .gt

end Collation

end Cardfile
