import Cardfile.Query.Condition
import Cardfile.Proofs.Text.Pieces
import Mathlib
/-!
# Query — what satisfies a condition

A condition is satisfied by a record that has the field it asks for, if
the field relates to the literal as the operator says. It is broken for
records of too few fields, and so is a pattern with two wildcards for all
records. Asked of a record, a condition that is not broken answers
whether it is satisfied, and a broken one fails (`holds_of_not_broken`,
`holds_of_broken`). Conditions are asked up to the first that is not
satisfied, so what stands after it does not matter
(`accepts_of_not_broken`, `accepts_of_broken`).
-/

namespace Cardfile

namespace Query

/-! ## Patterns -/

/-- **The value has the form of the pattern**: it is the pattern, or it
begins and ends like the text around its one wildcard. -/
inductive Fits : List Char → List Char → Prop
  | exact {text : List Char} : wildcard ∉ text → Fits text text
  | around {value front back : List Char} :
      wildcard ∉ front → wildcard ∉ back → front <+: value → back <:+ value →
      Fits value (front ++ wildcard :: back)

section Patterns

variable {value pattern front back : List Char}

theorem fits_of_not_mem (h : wildcard ∉ pattern) : fits value pattern = (value == pattern) := by
  have hcut : Text.cutAt (· == wildcard) pattern = none :=
    Text.cutAt_of_forall fun c hc => beq_eq_false_iff_ne.2 fun heq => h (heq ▸ hc)
  rw [fits, hcut]

theorem fits_append (h : wildcard ∉ front) :
    fits value (front ++ wildcard :: back) = (front.isPrefixOf value && back.isSuffixOf value) := by
  have hcut : Text.cutAt (· == wildcard) (front ++ wildcard :: back) = some (front, back) :=
    Text.cutAt_append (fun c hc => beq_eq_false_iff_ne.2 fun heq => h (heq ▸ hc))
      (beq_self_eq_true _)
  rw [fits, hcut]

/-- **The comparison finds the form**, if there is at most one wildcard. -/
theorem fits_iff : Fits value pattern ↔ pattern.count wildcard ≤ 1 ∧ fits value pattern = true := by
  constructor
  · intro h
    cases h with
    | exact hnot =>
      rw [List.count_eq_zero.2 hnot, fits_of_not_mem hnot]
      exact ⟨Nat.zero_le 1, beq_self_eq_true _⟩
    | around hfront hback hbegins hends =>
      rw [List.count_append, List.count_cons_self, List.count_eq_zero.2 hfront,
        List.count_eq_zero.2 hback, fits_append hfront, Bool.and_eq_true,
        List.isPrefixOf_iff_prefix, List.isSuffixOf_iff_suffix]
      exact ⟨le_rfl, hbegins, hends⟩
  · rintro ⟨hcount, hfits⟩
    by_cases hmem : wildcard ∈ pattern
    · -- cut at the first wildcard, and the count leaves none for what is after it
      obtain ⟨front, back, rfl, hfront⟩ := List.eq_append_cons_of_mem hmem
      rw [List.count_append, List.count_cons_self, List.count_eq_zero.2 hfront] at hcount
      rw [fits_append hfront, Bool.and_eq_true, List.isPrefixOf_iff_prefix,
        List.isSuffixOf_iff_suffix] at hfits
      exact .around hfront (List.count_eq_zero.1 (by omega)) hfits.1 hfits.2
    · rw [fits_of_not_mem hmem, beq_iff_eq] at hfits
      subst hfits
      exact .exact hmem

instance decidableFits (value pattern : List Char) : Decidable (Fits value pattern) :=
  decidable_of_iff _ fits_iff.symm

end Patterns

/-! ## Conditions -/

/-- **The value relates to the literal** as the operator says. -/
def Operator.Relates (op : Operator) (value literal : String) : Prop :=
  match op with
  | .equal => Collation.order value literal = .eq
  | .notEqual => Collation.order value literal ≠ .eq
  | .less => Collation.order value literal = .lt
  | .lessOrEqual => Collation.order value literal ≠ .gt
  | .greater => Collation.order value literal = .gt
  | .greaterOrEqual => Collation.order value literal ≠ .lt
  | .like => Fits value.toList literal.toList

instance decidableRelates : (op : Operator) → (value literal : String) →
    Decidable (op.Relates value literal)
  | .equal, value, literal => decEq (Collation.order value literal) .eq
  | .less, value, literal => decEq (Collation.order value literal) .lt
  | .greater, value, literal => decEq (Collation.order value literal) .gt
  | .notEqual, value, literal =>
    inferInstanceAs (Decidable (Collation.order value literal ≠ .eq))
  | .lessOrEqual, value, literal =>
    inferInstanceAs (Decidable (Collation.order value literal ≠ .gt))
  | .greaterOrEqual, value, literal =>
    inferInstanceAs (Decidable (Collation.order value literal ≠ .lt))
  | .like, value, literal => decidableFits value.toList literal.toList

/-- **The record satisfies the condition.** -/
def Condition.Satisfied (c : Condition) (r : Record) : Prop :=
  ∃ value ∈ r.field? c.column, c.operator.Relates value c.literal

instance decidableSatisfied (c : Condition) (r : Record) : Decidable (c.Satisfied r) :=
  inferInstanceAs (Decidable (∃ value ∈ r.field? c.column, c.operator.Relates value c.literal))

/-- **The condition is broken** for records of so many fields: it asks for
none of them, or its pattern has a second wildcard. -/
def Condition.Broken (width : ℕ) (c : Condition) : Prop :=
  width ≤ c.column ∨ c.operator = .like ∧ 2 ≤ c.literal.toList.count wildcard

instance decidableBroken (width : ℕ) (c : Condition) : Decidable (c.Broken width) :=
  inferInstanceAs (Decidable (_ ∨ _ ∧ _))

/-- What a broken condition fails with. -/
def Condition.fault (width : ℕ) (c : Condition) : MatchFault :=
  if width ≤ c.column then .noField c.column width else .tooManyWildcards c.literal

section Answers

variable {c : Condition} {r : Record} {conditions before after : List Condition}

/-- An operator answers whether the value relates to the literal, unless
the literal is a pattern of two wildcards. -/
theorem Operator.holds_eq {op : Operator} {value literal : String}
    (h : ¬ (op = .like ∧ 2 ≤ literal.toList.count wildcard)) :
    op.holds value literal = .ok (decide (op.Relates value literal)) := by
  cases op with
  | like =>
    have hcount : literal.toList.count wildcard ≤ 1 := by simpa using h
    have hfits :
        decide (Operator.like.Relates value literal) = fits value.toList literal.toList := by
      simp [Operator.Relates, fits_iff, hcount]
    rw [Operator.holds, matchPattern, if_neg (Nat.not_lt.2 hcount), hfits]
  | equal | notEqual | less | lessOrEqual | greater | greaterOrEqual =>
    rw [Operator.holds, Except.ok.injEq, Bool.eq_iff_iff, decide_eq_true_iff]
    simp [Operator.Relates, Collation.same]

/-- **A condition that is not broken has an answer.** -/
theorem Condition.holds_of_not_broken (h : ¬ c.Broken r.values.length) :
    c.holds r = .ok (decide (c.Satisfied r)) := by
  obtain ⟨hcolumn, hpattern⟩ := not_or.1 h
  obtain ⟨value, hfield⟩ : ∃ value, r.field? c.column = some value :=
    ⟨_, List.getElem?_eq_getElem (Nat.not_le.1 hcolumn)⟩
  have hsatisfied : c.Satisfied r ↔ c.operator.Relates value c.literal := by
    rw [Condition.Satisfied, hfield]
    simp
  rw [Condition.holds, Record.fieldAt, hfield, decide_eq_decide.2 hsatisfied]
  exact Operator.holds_eq hpattern

/-- **A broken condition has none.** -/
theorem Condition.holds_of_broken (h : c.Broken r.values.length) :
    c.holds r = .error (c.fault r.values.length) := by
  rw [Condition.holds, Record.fieldAt, Condition.fault]
  by_cases hcolumn : r.values.length ≤ c.column
  · have hfield : r.field? c.column = none := List.getElem?_eq_none hcolumn
    rw [hfield, if_pos hcolumn]
    rfl
  · have hfield : r.field? c.column = some _ := List.getElem?_eq_getElem (Nat.not_le.1 hcolumn)
    obtain ⟨hlike, hcount⟩ := h.resolve_left hcolumn
    rw [hfield, if_neg hcolumn, hlike]
    exact if_pos hcount

/-- Conditions are asked if those that stand before them hold. -/
theorem accepts_append : accepts (before ++ after) r = do
    if ← accepts before r then accepts after r else return false := by
  induction before with
  | nil => rfl
  | cons c before ih =>
    rw [List.cons_append, accepts, accepts, ih]
    cases c.holds r with
    | error fault => rfl
    | ok held => cases held <;> rfl

/-- **Conditions none of which is broken have an answer.** -/
theorem accepts_of_not_broken (h : ∀ c ∈ conditions, ¬ c.Broken r.values.length) :
    accepts conditions r = .ok (decide (∀ c ∈ conditions, c.Satisfied r)) := by
  induction conditions with
  | nil => simp [accepts]
  | cons c rest ih =>
    obtain ⟨hc, hrest⟩ := List.forall_mem_cons.1 h
    rw [accepts, Condition.holds_of_not_broken hc, ih hrest]
    by_cases hsatisfied : c.Satisfied r <;>
      simp [bind, Except.bind, pure, Except.pure, hsatisfied]

/-- **A broken condition fails where those before it are satisfied**, and
is not asked where they are not. -/
theorem accepts_of_broken (hbefore : ∀ c ∈ before, ¬ c.Broken r.values.length)
    (hc : c.Broken r.values.length) :
    accepts (before ++ c :: after) r =
      if ∀ c ∈ before, c.Satisfied r then .error (c.fault r.values.length) else .ok false := by
  rw [accepts_append, accepts_of_not_broken hbefore, accepts, Condition.holds_of_broken hc]
  by_cases hsatisfied : ∀ c ∈ before, c.Satisfied r <;>
    simp [bind, Except.bind, pure, Except.pure, hsatisfied]

end Answers

end Query

end Cardfile
