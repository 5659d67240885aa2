import Cardfile.Proofs.Collation.LowerCase
/-!
# Collation — texts that begin alike

A text comes before every longer one that begins with it
(`order_lt_append`). If the longer text may be cut where the shorter one
ends, it has more elements, and no list comes before a part that it begins
with. If it may not, the last letter of the shorter text becomes another
one, and that is a letter further on in the alphabet
(`primary_single_lt`).
-/

namespace Cardfile

namespace Collation

open Text

variable {c d : Char} {e : Element}

/-- **Two characters are a letter further on** than the first of them. -/
theorem primary_single_lt (h : pair? c d = some e) : (single c).primary < e.primary := by
  -- in lower case there are three such letters
  have hall : ∀ p ∈ [('d', 'ž'), ('l', 'j'), ('n', 'j')], ∀ e ∈ pair? p.1 p.2,
      (single p.1).primary < e.primary := by
    decide
  have hlower : pair? (lower c) (lower d) = some e.inLowerCase := by
    rw [pair?_lower, h, Option.map_some]
  have hlt := hall (lower c, lower d) (mem_of_pair h) e.inLowerCase hlower
  rw [(single_lower c).1] at hlt
  exact hlt

/-- No elements come before any, and the second level sees each of them. -/
theorem elementOrder_nil_cons (f : Element) (fs : List Element) :
    elementOrder [] (f :: fs) = .lt := by
  have hsecond : compare (secondaries []) (secondaries (f :: fs)) = .lt := rfl
  rw [elementOrder, hsecond]
  cases primaries (f :: fs) <;> rfl

/-- **A text comes before those that it begins.** -/
theorem order_lt_append (p s : String) (hs : s ≠ "") : order p (p ++ s) = .lt := by
  have hne : s.toList ≠ [] := fun h => hs (String.toList_eq_nil_iff.1 h)
  rw [order, String.toList_append]
  obtain hseam | ⟨u, c, d, v, e, -, -, hpair, hp, happend⟩ :=
    elements_append_cases p.toList s.toList
  · -- the elements of the shorter text are followed by others
    obtain ⟨c, u, hcu⟩ := List.exists_cons_of_ne_nil hne
    obtain ⟨f, fs, hfs, -⟩ := exists_elements_cons c u
    have hlonger := elementOrder_append_left (elements p.toList) [] (f :: fs)
    rw [List.append_nil] at hlonger
    rw [elements_append hseam, hcu, hfs, hlonger, elementOrder_nil_cons]
  · -- the last of them is another one
    have hlt := primary_single_lt hpair
    have hfirst : compare (primaries [single c]) (primaries (e :: elements v)) = .lt := by
      rw [primaries_cons, primaries_cons, if_neg (Nat.ne_of_gt (Nat.zero_lt_of_lt hlt))]
      split
      · rfl
      · rw [List.compare_cons_cons, Nat.compare_eq_lt.2 hlt]
        rfl
    rw [hp, happend, elementOrder_append_left, elementOrder, hfirst]
    rfl

/-- What follows is the second half of a letter, or nothing but hyphens. -/
theorem order_lt_append_of_seams :
    order "NAD" ("NAD" ++ "žak") = .lt ∧ order "Kos" ("Kos" ++ "-\u00AD") = .lt :=
  ⟨order_lt_append "NAD" "žak" (by decide), order_lt_append "Kos" "-\u00AD" (by decide)⟩

end Collation

end Cardfile
