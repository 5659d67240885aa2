import Cardfile.Query.Operator
import Mathlib
/-!
# Collation — a total preorder

The order of texts compares three lists of weights, one after the other.
Each of these comparisons is lexicographic, so together they are a total
preorder: texts are the same under it exactly where no level finds a
difference, and the same texts are told apart from no others. What the
operators of the query language say of a value and a literal, and what
sorting does to texts, follow from it (`order_totalPreorder`).
-/

namespace Cardfile

namespace Collation

variable {a b c : String}

/-! ## The laws of the order -/

/-- **Level by level is one lexicographic order.** -/
instance transCmp_elementOrder : Std.TransCmp elementOrder :=
  inferInstanceAs (Std.TransCmp (compareLex (compareOn primaries)
    (compareLex (compareOn secondaries) (compareOn tertiaries))))

/-- Texts are ordered as their elements are. -/
instance transCmp_order : Std.TransCmp order where
  eq_swap := transCmp_elementOrder.eq_swap
  isLE_trans := transCmp_elementOrder.isLE_trans

/-- A text does not come after another if it comes before or with it. -/
theorem isLE_order : (order a b).isLE = true ↔ order a b ≠ .gt :=
  Ordering.isLE_iff_ne_gt

theorem same_iff : same a b = true ↔ order a b = .eq := by
  rw [same, beq_iff_eq]

/-- A text is the same as itself. -/
theorem same_self (text : String) : same text text = true :=
  same_iff.2 Std.ReflCmp.compare_self

/-- **One step up is enough.** Along texts none of which comes after the
next, the first comes before the last if any step goes up. -/
theorem order_trans (hab : order a b ≠ .gt) (hbc : order b c ≠ .gt) :
    order a c ≠ .gt ∧ (order a b = .lt ∨ order b c = .lt → order a c = .lt) := by
  rw [← isLE_order] at hab hbc
  refine ⟨isLE_order.1 (Std.TransCmp.isLE_trans hab hbc), ?_⟩
  rintro (hlt | hlt)
  · exact Std.TransCmp.lt_of_lt_of_isLE hlt hbc
  · exact Std.TransCmp.lt_of_isLE_of_lt hab hlt

/-- Being the same is an equivalence. -/
theorem same_equivalence : Equivalence fun a b => same a b = true where
  refl := same_self
  symm h := same_iff.2 (Std.OrientedCmp.eq_symm (same_iff.1 h))
  trans h h' := same_iff.2 (Std.TransCmp.eq_trans (same_iff.1 h) (same_iff.1 h'))

/-- **The same texts stand in the same places.** -/
theorem order_congr {a' b' : String} (ha : same a a' = true) (hb : same b b' = true) :
    order a b = order a' b' :=
  (Std.TransCmp.congr_left (same_iff.1 ha)).trans (Std.TransCmp.congr_right (same_iff.1 hb))

/-! ## Operators -/

section Operators

open Query

/-- **The operators that read the collation always answer.** Exactly one
of `<`, `=` and `>` holds, and the other three are told by these. -/
theorem holds_trichotomy (value literal : String) :
    ∃ lt eq gt : Bool,
      Operator.less.holds value literal = .ok lt ∧
      Operator.equal.holds value literal = .ok eq ∧
      Operator.greater.holds value literal = .ok gt ∧
      [lt, eq, gt].count true = 1 ∧
      Operator.lessOrEqual.holds value literal = .ok (lt || eq) ∧
      Operator.greaterOrEqual.holds value literal = .ok (gt || eq) ∧
      Operator.notEqual.holds value literal = .ok (!eq) := by
  refine ⟨_, _, _, rfl, rfl, rfl, ?_⟩
  simp only [Operator.holds, same]
  cases order value literal <;> decide

end Operators

/-! ## Sorting -/

section Sorting

variable (texts : List String)

theorem bne_gt_trans (a b c : String) :
    (order a b != .gt) = true → (order b c != .gt) = true → (order a c != .gt) = true := by
  rw [bne_iff_ne, bne_iff_ne, bne_iff_ne]
  exact fun hab hbc => (order_trans hab hbc).1

theorem bne_gt_total (a b : String) :
    ((order a b != .gt) || (order b a != .gt)) = true := by
  have hswap : order b a = (order a b).swap := Std.OrientedCmp.eq_swap
  rw [hswap]
  cases order a b <;> rfl

/-- Sorting loses no text and adds none. -/
theorem sort_perm : (sort texts).Perm texts := List.mergeSort_perm _ _

/-- **No text comes after one that follows it.** -/
theorem pairwise_sort : (sort texts).Pairwise fun a b => order a b ≠ .gt :=
  (List.pairwise_mergeSort bne_gt_trans bne_gt_total texts).imp bne_iff_ne.1

/-- **Texts that are the same keep their places** to one another. -/
theorem filter_sort (text : String) :
    (sort texts).filter (same text ·) = texts.filter (same text ·) := by
  -- the texts that are the same as this one are sorted as they stand
  have hsorted : (texts.filter (same text ·)).Pairwise fun a b => (order a b != .gt) = true := by
    refine List.pairwise_of_forall_mem_list fun a ha b hb => ?_
    have heq := same_iff.1 (same_equivalence.trans
      (same_equivalence.symm (List.mem_filter.1 ha).2) (List.mem_filter.1 hb).2)
    rw [heq]
    rfl
  have hsub := (List.sublist_mergeSort bne_gt_trans bne_gt_total hsorted
    List.filter_sublist).filter (same text ·)
  simp only [List.filter_filter, Bool.and_self] at hsub
  have hlength := ((sort_perm texts).filter (same text ·)).length_eq
  exact (hsub.eq_of_length hlength.symm).symm

end Sorting

/-! ## The total preorder -/

/-- **The order is a total preorder**, the operators of the query language
say what it says, and sorting puts texts in order without moving those
that are the same past one another. -/
theorem order_totalPreorder :
    (∀ a, order a a = .eq) ∧
    (∀ a b, order b a = (order a b).swap) ∧
    (∀ a b c, order a b ≠ .gt → order b c ≠ .gt →
      order a c ≠ .gt ∧ (order a b = .lt ∨ order b c = .lt → order a c = .lt)) ∧
    (Equivalence fun a b => same a b = true) ∧
    (∀ a a' b b', same a a' = true → same b b' = true → order a b = order a' b') ∧
    (∀ value literal, ∃ lt eq gt : Bool,
      Query.Operator.less.holds value literal = .ok lt ∧
      Query.Operator.equal.holds value literal = .ok eq ∧
      Query.Operator.greater.holds value literal = .ok gt ∧
      [lt, eq, gt].count true = 1 ∧
      Query.Operator.lessOrEqual.holds value literal = .ok (lt || eq) ∧
      Query.Operator.greaterOrEqual.holds value literal = .ok (gt || eq) ∧
      Query.Operator.notEqual.holds value literal = .ok (!eq)) ∧
    ∀ texts, (sort texts).Perm texts ∧
      ((sort texts).Pairwise fun a b => order a b ≠ .gt) ∧
      ∀ text, (sort texts).filter (same text ·) = texts.filter (same text ·) :=
  ⟨fun _ => Std.ReflCmp.compare_self, fun _ _ => Std.OrientedCmp.eq_swap,
    fun _ _ _ => order_trans, same_equivalence, fun _ _ _ _ => order_congr, holds_trichotomy,
    fun texts => ⟨sort_perm texts, pairwise_sort texts, filter_sort texts⟩⟩

/-- A step up that only the hyphen makes, at the second level, is kept by
one at the first level after it. -/
theorem order_totalPreorder_of_hyphen :
    order "KosGrabar" "Kos-Grabar" = .lt ∧ order "Kos-Grabar" "Kosz" ≠ .gt ∧
      order "KosGrabar" "Kosz" = .lt := by
  have hhyphen : order "KosGrabar" "Kos-Grabar" = .lt := by decide +kernel
  have hletter : order "Kos-Grabar" "Kosz" ≠ .gt := by decide +kernel
  obtain ⟨-, -, htrans, -⟩ := order_totalPreorder
  exact ⟨hhyphen, hletter, (htrans _ _ _ (by rw [hhyphen]; decide) hletter).2 (.inl hhyphen)⟩

end Collation

end Cardfile
