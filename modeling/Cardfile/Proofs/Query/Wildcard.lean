import Cardfile.Proofs.Query.Satisfies
/-!
# Query — what a wildcard stands for

A pattern of one wildcard is a text in front of it and a text after it,
and the wildcard stands for any text in between (`Spans`). A comparison
asks for the two texts apart, so it also holds of a value in which they
overlap (`holds_like_iff`). Where they do not, `LIKE` means what its
wildcard says (`like_answers`).
-/

namespace Cardfile

namespace Query

variable {value front back : List Char}

/-- **The wildcard stands for a text** of the value, between one in front
and one after it. -/
def Spans (front back value : List Char) : Prop := ∃ middle, value = front ++ (middle ++ back)

/-- **The texts overlap in the value**: it begins with one and ends with
the other, but has no room for both. -/
structure Overlaps (front back value : List Char) : Prop where
  begins : front <+: value
  ends : back <:+ value
  short : value.length < front.length + back.length

/-- A value with a text for the wildcard has room for what is around it. -/
theorem Spans.length_le (h : Spans front back value) :
    front.length + back.length ≤ value.length := by
  obtain ⟨middle, rfl⟩ := h
  simp only [List.length_append]
  omega

/-- What the two texts leave is the text that the wildcard stands for. -/
theorem spans_of_length_le (hbegins : front <+: value) (hends : back <:+ value)
    (hroom : front.length + back.length ≤ value.length) : Spans front back value := by
  obtain ⟨rest, rfl⟩ := hbegins
  rw [List.length_append] at hroom
  -- both are ends of the value, and the shorter is an end of the longer
  obtain ⟨middle, rfl⟩ : back <:+ rest :=
    List.suffix_of_suffix_length_le hends (List.suffix_append front rest) (by omega)
  exact ⟨middle, rfl⟩

/-- **A value that begins and ends so** has a text for the wildcard, or
the texts overlap in it. -/
theorem prefix_and_suffix_iff :
    front <+: value ∧ back <:+ value ↔ Spans front back value ∨ Overlaps front back value := by
  constructor
  · rintro ⟨hbegins, hends⟩
    by_cases hroom : front.length + back.length ≤ value.length
    · exact .inl (spans_of_length_le hbegins hends hroom)
    · exact .inr ⟨hbegins, hends, Nat.not_le.1 hroom⟩
  · rintro (⟨middle, rfl⟩ | hoverlap)
    · exact ⟨List.prefix_append _ _, (List.suffix_append _ _).trans (List.suffix_append _ _)⟩
    · exact ⟨hoverlap.begins, hoverlap.ends⟩

variable {text pattern : String}

/-- **A pattern fails if it has a second wildcard**, whatever the value. -/
theorem holds_like_eq_error_iff {fault : MatchFault} :
    Operator.like.holds text pattern = .error fault ↔
      2 ≤ pattern.toList.count wildcard ∧ fault = .tooManyWildcards pattern := by
  rw [Operator.holds, matchPattern]
  split_ifs with hcount
  · rw [Except.error.injEq, eq_comm]
    exact (and_iff_right hcount).symm
  · constructor
    · intro h
      cases h
    · exact fun h => absurd h.1 hcount

/-- A pattern of at most one wildcard holds of the values of its form. -/
theorem holds_like_eq_ok_true_iff :
    Operator.like.holds text pattern = .ok true ↔ Fits text.toList pattern.toList := by
  rw [Operator.holds, matchPattern, fits_iff]
  split_ifs with hcount
  · constructor
    · intro h
      cases h
    · exact fun h => absurd h.1 (Nat.not_le.2 hcount)
  · rw [Except.ok.injEq]
    exact (and_iff_right (Nat.not_lt.1 hcount)).symm

/-- **What a comparison with one wildcard holds of.** -/
theorem holds_like_iff (hpattern : pattern.toList = front ++ wildcard :: back)
    (hfront : wildcard ∉ front) (hback : wildcard ∉ back) :
    Operator.like.holds text pattern = .ok true ↔
      Spans front back text.toList ∨ Overlaps front back text.toList := by
  have hcount : (front ++ wildcard :: back).count wildcard ≤ 1 := by
    simp [List.count_eq_zero.2 hfront, List.count_eq_zero.2 hback]
  rw [holds_like_eq_ok_true_iff, hpattern, fits_iff, and_iff_right hcount, fits_append hfront,
    Bool.and_eq_true, List.isPrefixOf_iff_prefix, List.isSuffixOf_iff_suffix,
    prefix_and_suffix_iff]

/-- **What `LIKE` says of a value and a pattern.** -/
structure LikeAnswers (text pattern : String) : Prop where
  /-- It has no answer if the pattern has a second wildcard. -/
  fails_iff : (∃ fault, Operator.like.holds text pattern = .error fault) ↔
    2 ≤ pattern.toList.count wildcard
  /-- That is a fault of syntax. -/
  kind : ∀ fault, Operator.like.holds text pattern = .error fault →
    fault.report.kind = .syntactic
  /-- Without a wildcard it holds of the pattern alone. -/
  literal : wildcard ∉ pattern.toList →
    (Operator.like.holds text pattern = .ok true ↔ text = pattern)
  /-- With one it holds of the values that have a text for it, unless the
  texts around it overlap. -/
  around : ∀ front back, pattern.toList = front ++ wildcard :: back →
    wildcard ∉ front → wildcard ∉ back →
    ((Operator.like.holds text pattern = .ok true ↔ Spans front back text.toList) ↔
      ¬ Overlaps front back text.toList)

/-- **`LIKE` means what its wildcard says** wherever the texts around the
wildcard do not overlap, and only there. -/
theorem like_answers (text pattern : String) : LikeAnswers text pattern where
  fails_iff := by
    simp only [holds_like_eq_error_iff, exists_and_left, exists_eq, and_true]
  kind := by
    intro fault h
    obtain ⟨-, rfl⟩ := holds_like_eq_error_iff.1 h
    rfl
  literal := by
    intro hnot
    rw [holds_like_eq_ok_true_iff, fits_iff, fits_of_not_mem hnot, beq_iff_eq,
      List.count_eq_zero.2 hnot, and_iff_right (Nat.zero_le 1), String.toList_inj]
  around := by
    intro front back hpattern hfront hback
    rw [holds_like_iff hpattern hfront hback]
    refine ⟨fun h hoverlap => ?_, fun hnot => or_iff_left hnot⟩
    exact absurd (h.1 (.inr hoverlap)).length_le (Nat.not_le.2 hoverlap.short)

/-- `ab*ba` holds of `aba`, in which no text stands for the wildcard. -/
theorem like_of_overlap :
    "ab*ba".toList = ['a', 'b'] ++ wildcard :: ['b', 'a'] ∧
      wildcard ∉ ['a', 'b'] ∧ wildcard ∉ ['b', 'a'] ∧
      Operator.like.holds "aba" "ab*ba" = .ok true ∧
      ¬ Spans ['a', 'b'] ['b', 'a'] "aba".toList := by
  refine ⟨by decide, by decide, by decide, by decide, fun hspans => ?_⟩
  exact absurd hspans.length_le (by decide)

end Query

end Cardfile
