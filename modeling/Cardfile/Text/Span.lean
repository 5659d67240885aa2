/-!
# Text — spans of code points

A character property is a set of code points, written down as an
ascending list of closed spans. `covered` reads such a list and stops at
the first span beyond the code point it looks for, so the list has to be
`Ascending`; under that condition `covered_iff` says that it decides
membership in the union. Properties that alternate, such as case, are
shorter as ascending `Stride`s, which keep every `step`-th code point of
a span.
-/

namespace Cardfile

namespace Text

/-- The code points from `first` to `last`, both included. -/
structure Span where
  /-- The least code point of the span. -/
  first : Nat
  /-- The greatest code point of the span. -/
  last : Nat

/-- Every `step`-th code point from `first` to `last`. -/
structure Stride where
  /-- The least code point of the stride. -/
  first : Nat
  /-- The greatest code point of the stride. -/
  last : Nat
  /-- The distance between neighbours. -/
  step : Nat

/-- Whether the stride holds the code point. -/
def Stride.holds (s : Stride) (n : Nat) : Bool :=
  s.first ≤ n && n ≤ s.last && (n - s.first) % s.step == 0

/-- Whether one of the spans holds the code point, read from the least
span up. -/
def covered : List Span → Nat → Bool
  | [], _ => false
  | s :: rest, n => if n < s.first then false else n ≤ s.last || covered rest n

/-- Whether one of the strides holds the code point, read from the least
stride up. -/
def struck : List Stride → Nat → Bool
  | [], _ => false
  | s :: rest, n => if n < s.first then false else s.holds n || struck rest n

/-- Each span ends before the next one begins. -/
def Ascending (spans : List Span) : Prop :=
  spans.Pairwise fun s t => s.last < t.first

/-- **Reading an ascending list decides its union.** -/
theorem covered_iff {spans : List Span} (hasc : Ascending spans)
    (hne : ∀ s ∈ spans, s.first ≤ s.last) (n : Nat) :
    covered spans n = true ↔ ∃ s ∈ spans, s.first ≤ n ∧ n ≤ s.last := by
  induction spans with
  | nil => simp [covered]
  | cons s rest ih =>
    obtain ⟨hs, hrest⟩ := List.pairwise_cons.1 hasc
    have ih := ih hrest fun t ht => hne t (List.mem_cons_of_mem _ ht)
    by_cases hlt : n < s.first
    · simp only [covered, hlt, if_true, List.mem_cons, exists_eq_or_imp]
      constructor
      · intro h
        cases h
      · rintro (⟨h, -⟩ | ⟨t, ht, h, -⟩)
        · omega
        · have := hs t ht
          have := hne s (List.mem_cons_self ..)
          omega
    · simp only [covered, hlt, if_false, Bool.or_eq_true, decide_eq_true_eq, ih,
        List.mem_cons, exists_eq_or_imp]
      constructor
      · exact Or.imp_left fun h => ⟨by omega, h⟩
      · exact Or.imp_left And.right

end Text

end Cardfile
