import Cardfile.Proofs.Collation.Prefixes
import Mathlib
/-!
# Collation — letters, wherever they are looked for

Which characters make up a letter can be told without reading the text
from its beginning: those of a digraph that stand side by side do, and
digraphs do not overlap. `letters` cuts a text up so, from neither end,
and the elements are found to be those of the letters, one each
(`elements_letters`). So reading may begin again at a cut exactly if no
digraph is cut (`elements_append_iff`), and what two texts begin with alike
plays no part in their order if none is (`letters_at_cuts`).
-/

namespace Cardfile

namespace Collation

open Text

variable {b c d : Char} {u v : List Char} {e : Element}

/-! ## Digraphs -/

/-- **The letters of two characters**, in either case of each. -/
def IsDigraph (c d : Char) : Prop :=
  (c = 'd' ∨ c = 'D') ∧ (d = 'ž' ∨ d = 'Ž') ∨
    (c = 'l' ∨ c = 'L' ∨ c = 'n' ∨ c = 'N') ∧ (d = 'j' ∨ d = 'J')

instance : Decidable (IsDigraph c d) := inferInstanceAs (Decidable (_ ∨ _))

/-- The characters of digraphs, in lower case and in upper case. -/
def digraphCases : List (Char × Char) :=
  [('d', 'D'), ('ž', 'Ž'), ('l', 'L'), ('j', 'J'), ('n', 'N')]

/-- No other characters have these in lower case. -/
theorem lower_eq_iff {x y : Char} (h : (x, y) ∈ digraphCases) : lower c = x ↔ c = x ∨ c = y := by
  have htable : ∀ p ∈ digraphCases, 0 < p.1.toNat ∧ ∀ l ∈ lowerings,
      l.upper.holds (p.1.toNat - l.shift).toNat = true →
        p.1.toNat - l.shift = (p.2.toNat : ℤ) := by
    decide +kernel
  have hlower : ∀ p ∈ digraphCases, lower p.1 = p.1 ∧ lower p.2 = p.1 := by decide +kernel
  constructor
  · exact eq_or_eq_of_lower_eq (htable _ h).1 (htable _ h).2
  · rintro (rfl | rfl)
    · exact (hlower _ h).1
    · exact (hlower _ h).2

/-- **Digraphs are what is read as one letter.** -/
theorem exists_pair?_iff : (∃ e, pair? c d = some e) ↔ IsDigraph c d := by
  have hd : lower c = 'd' ↔ c = 'd' ∨ c = 'D' := lower_eq_iff (by decide)
  have hl : lower c = 'l' ↔ c = 'l' ∨ c = 'L' := lower_eq_iff (by decide)
  have hn : lower c = 'n' ↔ c = 'n' ∨ c = 'N' := lower_eq_iff (by decide)
  have hž : lower d = 'ž' ↔ d = 'ž' ∨ d = 'Ž' := lower_eq_iff (by decide)
  have hj : lower d = 'j' ↔ d = 'j' ∨ d = 'J' := lower_eq_iff (by decide)
  rw [← Option.ne_none_iff_exists', ne_eq, pair?_eq_none_iff, not_not]
  simp only [List.mem_cons, Prod.mk.injEq, List.not_mem_nil, or_false, hd, hl, hn, hž, hj]
  rw [← or_and_right, or_assoc, IsDigraph]

theorem pair?_eq_none_iff_not_isDigraph : pair? c d = none ↔ ¬ IsDigraph c d := by
  rw [← exists_pair?_iff, ← Option.ne_none_iff_exists', ne_eq, not_not]

/-- **Digraphs do not overlap.** -/
theorem not_isDigraph_of_isDigraph (h : IsDigraph c d) (b : Char) :
    ¬ IsDigraph b c ∧ ¬ IsDigraph d b := by
  obtain ⟨e, he⟩ := exists_pair?_iff.2 h
  refine ⟨pair?_eq_none_iff_not_isDigraph.1 (pair?_eq_none_of_pair he b), fun hdb => ?_⟩
  -- what begins a digraph does not end one
  obtain ⟨e', he'⟩ := exists_pair?_iff.2 hdb
  have hnone := pair?_eq_none_of_pair he' c
  rw [he] at hnone
  cases hnone

/-! ## Letters -/

/-- The letters of a text: characters that stand side by side belong to
one letter if they are a digraph. -/
def letters (u : List Char) : List (List Char) := u.splitBy fun c d => IsDigraph c d

/-- The cut between the two texts falls within a digraph. -/
def CutsDigraph (u v : List Char) : Prop := ∃ c ∈ u.getLast?, ∃ d ∈ v.head?, IsDigraph c d

instance : Decidable (CutsDigraph u v) :=
  decidable_of_iff ((u.getLast?.any fun c => v.head?.any fun d => IsDigraph c d) = true)
    (by simp only [Option.any_eq_true, decide_eq_true_eq, CutsDigraph, Option.mem_def])

theorem seam_iff : Seam u v ↔ ¬ CutsDigraph u v := by
  simp only [Seam, CutsDigraph, pair?_eq_none_iff_not_isDigraph, not_exists, not_and]

theorem letters_append (h : ¬ CutsDigraph u v) : letters (u ++ v) = letters u ++ letters v := by
  refine List.splitBy_append fun c hc d hd => ?_
  rw [decide_eq_false_iff_not]
  exact fun hcd => h ⟨c, hc, d, hd, hcd⟩

/-- **The elements of a text are those of its letters**, one each. -/
theorem elements_letters (u : List Char) :
    List.Forall₂ (fun letter e => elements letter = [e]) (letters u) (elements u) := by
  induction u using elements.induct with
  | case1 => exact .nil
  | case2 c => exact .cons rfl .nil
  | case3 c d rest e hpair ih =>
    have hcd : IsDigraph c d := exists_pair?_iff.1 ⟨e, hpair⟩
    have hcut : ¬ CutsDigraph [c, d] rest := by
      rintro ⟨_, ⟨⟩, b, -, hb⟩
      exact (not_isDigraph_of_isDigraph hcd b).2 hb
    have hletter : letters [c, d] = [[c, d]] :=
      List.splitBy_of_isChain (by simp) (by simpa using hcd)
    have hone : elements [c, d] = [e] := elements_of_pair hpair
    rw [elements_of_pair hpair, ← List.nil_append rest, ← List.cons_append, ← List.cons_append,
      letters_append hcut, hletter]
    exact .cons hone ih
  | case4 c d rest hpair ih =>
    have hcut : ¬ CutsDigraph [c] (d :: rest) := by
      rintro ⟨_, ⟨⟩, _, ⟨⟩, hcd⟩
      exact pair?_eq_none_iff_not_isDigraph.1 hpair hcd
    rw [elements_of_unpaired hpair, ← List.singleton_append, letters_append hcut]
    exact .cons rfl ih

/-! ## Cuts -/

/-- **Reading may begin again at a cut** exactly if no digraph is cut. -/
theorem elements_append_iff :
    elements (u ++ v) = elements u ++ elements v ↔ ¬ CutsDigraph u v := by
  rw [← seam_iff]
  refine ⟨fun h => ?_, elements_append⟩
  obtain hseam | ⟨u', c, d, v', e, rfl, rfl, hpair, hu, huv⟩ := elements_append_cases u v
  · exact hseam
  · -- the letter that is cut is no character alone
    rw [hu, huv, List.append_assoc, List.append_cancel_left_eq] at h
    have hlt := primary_single_lt hpair
    rw [(List.cons.inj h).1] at hlt
    exact absurd hlt (Nat.lt_irrefl _)

/-- **What texts begin with alike does not decide their order**, if no
digraph is cut where it ends. -/
theorem order_append_left {p s t : String} (hs : ¬ CutsDigraph p.toList s.toList)
    (ht : ¬ CutsDigraph p.toList t.toList) : order (p ++ s) (p ++ t) = order s t := by
  rw [order, order, String.toList_append, String.toList_append, elements_append_iff.2 hs,
    elements_append_iff.2 ht, elementOrder_append_left]

/-- **Where a text may be cut.** Its elements are those of the parts
exactly if no digraph is cut, for they are those of its letters, and
digraphs do not overlap. So texts that begin alike are in the order of what
is left of them, if no digraph is cut there. -/
theorem letters_at_cuts :
    (∀ u v : String, elements (u ++ v).toList = elements u.toList ++ elements v.toList ↔
      ¬ CutsDigraph u.toList v.toList) ∧
    (∀ u : String, List.Forall₂ (fun letter e => elements letter = [e])
      (letters u.toList) (elements u.toList)) ∧
    (∀ b c d : Char, IsDigraph c d → ¬ IsDigraph b c ∧ ¬ IsDigraph d b) ∧
    ∀ p a b : String, ¬ CutsDigraph p.toList a.toList → ¬ CutsDigraph p.toList b.toList →
      order (p ++ a) (p ++ b) = order a b := by
  refine ⟨fun u v => ?_, fun u => elements_letters _, fun b c d h =>
    not_isDigraph_of_isDigraph h b, fun p a b => order_append_left⟩
  rw [String.toList_append]
  exact elements_append_iff

/-- The cut falls behind the second character of a digraph, and in front of
one that would begin another. -/
theorem letters_at_cuts_behind_digraph :
    elements ("kolj" ++ "jen").toList = elements "kolj".toList ++ elements "jen".toList ∧
      order ("kolj" ++ "jen") ("kolj" ++ "Nje") = order "jen" "Nje" :=
  ⟨(letters_at_cuts.1 "kolj" "jen").2 (by decide),
    letters_at_cuts.2.2.2 "kolj" "jen" "Nje" (by decide) (by decide)⟩

end Collation

end Cardfile
