import Cardfile.Proofs.Collation.Levels
/-!
# Collation — case

Case decides only between texts that are otherwise the same, and lower case
comes first (`order_up_to_case`). A text in lower case has the elements of
the text itself but for their third weights (`elements_map_lower`), and
these follow from the first ones. So two texts in lower case are told apart
at the first two levels or not at all (`order_inLowerCase`).
-/

namespace Cardfile

namespace Collation

open Text

variable {c d : Char} {e : Element} {es fs : List Element}

/-! ## Letters and marks -/

/-- Letters in lower case are not upper case. -/
theorem caseBit_lower_of_isLetter (h : IsLetter c) : caseBit (lower c) = 0 := by
  have hall : ∀ n ∈ letterCodes, struck uppercaseStrides n = false := by decide
  rw [caseBit, isUppercase, hall _ (mem_letterCodes h)]
  rfl

/-- No character has more case in lower case. -/
theorem caseBit_lower_le (c : Char) : caseBit (lower c) ≤ caseBit c := by
  by_cases h : lower c = c
  · rw [h]
  · rw [caseBit, isUppercase_lower h]
    exact Nat.zero_le _

/-- Marks are what is weighed neither as a letter nor in the highest class. -/
theorem mem_markCodes_iff (h : ¬ IsLetter c) :
    c.toNat ∈ markCodes ↔ isHyphen c = true ∨ isPunctuation c = true := by
  have hblank : ∀ n ∈ blankCodes, covered blankSpans n = true := by decide
  rw [isPunctuation, Bool.or_eq_true, decide_eq_true_iff]
  constructor
  · rw [markCodes, List.cons_append, List.mem_cons, List.mem_append, List.mem_filter,
      List.mem_range]
    rintro (hsoft | hwhite | ⟨hascii, -⟩)
    · exact .inl (Bool.or_eq_true_iff.2 (.inr (beq_iff_eq.2 (Char.toNat_inj.1 hsoft))))
    · exact .inr (.inr (hblank _ hwhite))
    · exact .inr (.inl hascii)
  · rintro (hhyphen | hlt | hwhite)
    · rcases Bool.or_eq_true_iff.1 hhyphen with hc | hc
      · exact beq_iff_eq.1 hc ▸ mem_markCodes_of_ascii (by decide) (by decide)
      · exact beq_iff_eq.1 hc ▸ List.mem_cons_self
    · exact mem_markCodes_of_ascii hlt fun ha => h ((isLetter_iff_isAlpha (.inr hlt)).2 ha)
    · exact mem_markCodes_of_isBlank hwhite

/-- The element of a mark has no third weight. -/
theorem single_of_mark (h : c.toNat ∈ markCodes) :
    (single c).primary < otherBase ∧ (single c).tertiary = 0 := by
  have hall : ∀ n ∈ markCodes, n ≤ 0x3000 := by decide
  have hle := hall _ h
  have hletter := not_isLetter_of_mark h
  unfold single
  rw [letter?_eq_none_iff.2 hletter]
  simp only
  split_ifs with hhyphen hdigit hpunctuation
  · exact ⟨by decide, rfl⟩
  · refine ⟨?_, rfl⟩
    simp only [digitBase, otherBase]
    omega
  · refine ⟨?_, rfl⟩
    simp only [punctuationBase, otherBase]
    omega
  · exact absurd ((mem_markCodes_iff hletter).1 h) (not_or_intro hhyphen hpunctuation)

/-- The element of a character that is neither a letter nor a mark. -/
theorem single_of_other (hletter : ¬ IsLetter c) (h : c.toNat ∉ markCodes) :
    single c = { primary := otherBase + (lower c).toNat, secondary := 0,
                 tertiary := 3 * caseBit c } := by
  obtain ⟨hhyphen, hpunctuation⟩ := not_or.1 ((mem_markCodes_iff hletter).not.1 h)
  -- a digit would be found within ASCII
  have hdigit : ¬ isAsciiDigit c = true := by
    intro hdigit
    rw [isAsciiDigit_eq] at hdigit
    have hascii := (ascii_of_isDigit hdigit).1
    exact hpunctuation (Bool.or_eq_true_iff.2 (.inl (decide_eq_true hascii)))
  unfold single
  rw [letter?_eq_none_iff.2 hletter]
  simp only [if_neg hhyphen, if_neg hpunctuation, if_neg hdigit]

/-! ## Elements in lower case -/

/-- **The element in lower case.** Only the third weight is another one:
none at all, but for characters that are upper case and have no other
case; these keep it. -/
def Element.inLowerCase (e : Element) : Element :=
  { e with tertiary :=
      if e.primary < otherBase then 0 else 3 * caseBit (Char.ofNat (e.primary - otherBase)) }

/-- Below the highest class no third weight is left. -/
theorem Element.inLowerCase_of_lt (h : e.primary < otherBase) :
    e.inLowerCase = { e with tertiary := 0 } := by
  rw [Element.inLowerCase, if_pos h]

/-- In the highest class it is that of the character in lower case. -/
theorem Element.inLowerCase_of_other (second third : ℕ) (c : Char) :
    Element.inLowerCase ⟨otherBase + c.toNat, second, third⟩ =
      ⟨otherBase + c.toNat, second, 3 * caseBit c⟩ := by
  rw [Element.inLowerCase, if_neg (Nat.not_lt.2 (Nat.le_add_right _ _)), Nat.add_sub_cancel_left,
    Char.ofNat_toNat]

/-- **A character in lower case** has its element in lower case, and its
third weight is no greater. -/
theorem single_lower (c : Char) :
    single (lower c) = (single c).inLowerCase ∧
      (single c).inLowerCase.tertiary ≤ (single c).tertiary := by
  by_cases hletter : IsLetter c
  · obtain ⟨w, accent, hw⟩ := exists_letter?_of_isLetter hletter
    have hlower : letter? (lower (lower c)) = some (w, accent) := by rw [lower_lower, hw]
    have hlt : w < otherBase := (letter?_bounds hw).2.trans_lt (by decide)
    rw [single_of_letter? hw, single_of_letter? hlower, Element.inLowerCase_of_lt hlt,
      caseBit_lower_of_isLetter hletter]
    exact ⟨rfl, Nat.zero_le _⟩
  · by_cases hmark : c.toNat ∈ markCodes
    · obtain ⟨hlt, hthird⟩ := single_of_mark hmark
      rw [lower_eq_of_mark (.inl hmark), Element.inLowerCase_of_lt hlt, ← hthird]
      exact ⟨rfl, le_rfl⟩
    · have hmark' : (lower c).toNat ∉ markCodes := fun h => hmark (lower_eq_of_mark (.inr h) ▸ h)
      have hletter' : ¬ IsLetter (lower c) := by rwa [IsLetter, lower_lower]
      rw [single_of_other hletter hmark, single_of_other hletter' hmark', lower_lower,
        Element.inLowerCase_of_other]
      exact ⟨rfl, Nat.mul_le_mul_left 3 (caseBit_lower_le c)⟩

/-- The element of two characters in lower case has no third weight. -/
theorem inLowerCase_of_pair (h : pair? c d = some e) :
    e.inLowerCase = { e with tertiary := 0 } := by
  obtain ⟨w, hw, rfl⟩ := Option.map_eq_some_iff.1 h
  have hlt : w < otherBase := (letterWeight?_bounds hw).2.trans_lt (by decide)
  exact Element.inLowerCase_of_lt hlt

/-- **Two characters in lower case** are the same letter in lower case. -/
theorem pair?_lower (c d : Char) :
    pair? (lower c) (lower d) = (pair? c d).map Element.inLowerCase := by
  cases h : pair? c d with
  | none =>
    rw [pair?_eq_none_iff] at h
    rw [Option.map_none, pair?_eq_none_iff, lower_lower, lower_lower]
    exact h
  | some e =>
    obtain ⟨hc, hd⟩ := mem_alphabet_of_pair h
    rw [Option.map_some, inLowerCase_of_pair h]
    obtain ⟨w, hw, rfl⟩ := Option.map_eq_some_iff.1 h
    rw [pair?, lower_lower, lower_lower, hw, caseBit_lower_of_isLetter (.inl hc),
      caseBit_lower_of_isLetter (.inl hd)]
    rfl

/-- **A text in lower case has its elements in lower case.** -/
theorem elements_map_lower (u : List Char) :
    elements (u.map lower) = (elements u).map Element.inLowerCase := by
  induction u using elements.induct with
  | case1 => rfl
  | case2 c => exact congrArg (fun e => [e]) (single_lower c).1
  | case3 c d rest e hpair ih =>
    have hpair' : pair? (lower c) (lower d) = some e.inLowerCase := by
      rw [pair?_lower, hpair, Option.map_some]
    rw [List.map_cons, List.map_cons, elements_of_pair hpair, elements_of_pair hpair', ih,
      List.map_cons]
  | case4 c d rest hpair ih =>
    have hpair' : pair? (lower c) (lower d) = none := by
      rw [pair?_lower, hpair, Option.map_none]
    rw [List.map_cons] at ih
    rw [List.map_cons, List.map_cons, elements_of_unpaired hpair', elements_of_unpaired hpair,
      List.map_cons, ← (single_lower c).1, ih]

/-! ## The levels in lower case -/

theorem primaries_inLowerCase (es : List Element) :
    primaries (es.map Element.inLowerCase) = primaries es := by
  rw [primaries, List.map_map]
  rfl

theorem secondaries_inLowerCase (es : List Element) :
    secondaries (es.map Element.inLowerCase) = secondaries es := by
  rw [secondaries, List.map_map]
  rfl

/-- **The first weights decide the third ones** in lower case. -/
theorem tertiaries_inLowerCase (h : es.map Element.primary = fs.map Element.primary) :
    tertiaries (es.map Element.inLowerCase) = tertiaries (fs.map Element.inLowerCase) := by
  have hthird : ∀ es : List Element, tertiaries (es.map Element.inLowerCase) =
      (es.map Element.primary).map fun w =>
        if w < otherBase then 0 else 3 * caseBit (Char.ofNat (w - otherBase)) := by
    intro es
    rw [tertiaries, List.map_map, List.map_map]
    rfl
  rw [hthird, hthird, h]

/-- The order at the first two levels. -/
def baseOrder (es fs : List Element) : Ordering :=
  (compare (primaries es) (primaries fs)).then (compare (secondaries es) (secondaries fs))

theorem elementOrder_eq_baseOrder_then (es fs : List Element) :
    elementOrder es fs = (baseOrder es fs).then (compare (tertiaries es) (tertiaries fs)) := by
  rw [elementOrder, baseOrder, Ordering.then_assoc]

theorem baseOrder_eq_eq : baseOrder es fs = .eq ↔
    primaries es = primaries fs ∧ secondaries es = secondaries fs := by
  rw [baseOrder, Ordering.then_eq_eq, Std.compare_eq_iff_eq, Std.compare_eq_iff_eq]

theorem baseOrder_inLowerCase (es fs : List Element) :
    baseOrder (es.map Element.inLowerCase) (fs.map Element.inLowerCase) = baseOrder es fs := by
  simp only [baseOrder, primaries_inLowerCase, secondaries_inLowerCase]

/-- A difference at the first two levels decides. -/
theorem elementOrder_of_baseOrder (h : baseOrder es fs ≠ .eq) :
    elementOrder es fs = baseOrder es fs := by
  rw [elementOrder_eq_baseOrder_then]
  cases hbase : baseOrder es fs with
  | eq => exact absurd hbase h
  | lt => rfl
  | gt => rfl

/-- **In lower case the third level finds nothing** that the others do not. -/
theorem elementOrder_inLowerCase (hes : ∀ e ∈ es, e.IsProper) (hfs : ∀ f ∈ fs, f.IsProper) :
    elementOrder (es.map Element.inLowerCase) (fs.map Element.inLowerCase) = baseOrder es fs := by
  rw [elementOrder_eq_baseOrder_then, baseOrder_inLowerCase]
  cases hbase : baseOrder es fs with
  | eq =>
    obtain ⟨hp, hs⟩ := baseOrder_eq_eq.1 hbase
    rw [tertiaries_inLowerCase (map_primary_eq hes hfs hp hs)]
    exact Std.compare_eq_iff_eq.2 rfl
  | lt => rfl
  | gt => rfl

/-- Lists of which one is nowhere above the other. -/
theorem compare_map_ne_gt {f g : Element → ℕ} (h : ∀ e ∈ es, f e ≤ g e) :
    compare (es.map f) (es.map g) ≠ .gt := by
  induction es with
  | nil => exact nofun
  | cons e es ih =>
    obtain ⟨he, hes⟩ := List.forall_mem_cons.1 h
    rw [List.map_cons, List.map_cons, List.compare_cons_cons]
    rcases he.lt_or_eq with hlt | heq
    · rw [Nat.compare_eq_lt.2 hlt]
      exact nofun
    · rw [heq, compare_eq_iff_eq.2 rfl]
      exact ih hes

/-! ## Texts and case -/

/-- The order of two texts without their case. -/
theorem order_inLowerCase (s t : String) :
    order (inLowerCase s) (inLowerCase t) = baseOrder (elements s.toList) (elements t.toList) := by
  rw [order, toList_inLowerCase, toList_inLowerCase, elements_map_lower, elements_map_lower,
    elementOrder_inLowerCase]
  · exact fun _ => isProper_of_mem_elements
  · exact fun _ => isProper_of_mem_elements

/-- **A text in lower case comes first** among the texts that differ from it
in case. -/
theorem order_inLowerCase_ne_gt (s : String) : order (inLowerCase s) s ≠ .gt := by
  have hthird : ∀ e ∈ elements s.toList, e.inLowerCase.tertiary ≤ e.tertiary := by
    intro e he
    obtain ⟨c, -, rfl⟩ | ⟨c, -, d, -, hpair⟩ := mem_elements he
    · exact (single_lower c).2
    · rw [inLowerCase_of_pair hpair]
      exact Nat.zero_le _
  have hbase : baseOrder ((elements s.toList).map Element.inLowerCase) (elements s.toList) = .eq :=
    baseOrder_eq_eq.2 ⟨primaries_inLowerCase _, secondaries_inLowerCase _⟩
  rw [order, toList_inLowerCase, elements_map_lower, elementOrder_eq_baseOrder_then, hbase,
    tertiaries, List.map_map]
  exact compare_map_ne_gt hthird

/-- **Case breaks ties and does nothing else.** Two texts that differ in
lower case are in the order of their lower case; a text in lower case does
not come after the text itself; and texts with a difference in a letter, an
accent or a hyphen are never the same, and keep their order in every case
they are written in. -/
theorem order_up_to_case (s t : String) :
    (order (inLowerCase s) (inLowerCase t) ≠ .eq →
      order s t = order (inLowerCase s) (inLowerCase t)) ∧
    order (inLowerCase s) s ≠ .gt ∧
    ∀ s' t', inLowerCase s' = inLowerCase s → inLowerCase t' = inLowerCase t →
      primaries (elements s.toList) ≠ primaries (elements t.toList) ∨
        secondaries (elements s.toList) ≠ secondaries (elements t.toList) →
      order s t ≠ .eq ∧ order s' t' = order s t := by
  have hdecides : ∀ s t, order (inLowerCase s) (inLowerCase t) ≠ .eq →
      order s t = order (inLowerCase s) (inLowerCase t) := by
    intro s t h
    rw [order_inLowerCase] at h ⊢
    exact elementOrder_of_baseOrder h
  refine ⟨hdecides s t, order_inLowerCase_ne_gt s, fun s' t' hs ht hdiffer => ?_⟩
  have hne : order (inLowerCase s) (inLowerCase t) ≠ .eq := by
    rw [order_inLowerCase, Ne, baseOrder_eq_eq, not_and_or]
    exact hdiffer
  have hne' : order (inLowerCase s') (inLowerCase t') ≠ .eq := by rwa [hs, ht]
  rw [hdecides s t hne, hdecides s' t' hne', hs, ht]
  exact ⟨hne, rfl⟩

/-- Either half of a letter of two characters may be in upper case. -/
theorem order_up_to_case_of_halves :
    order "DŽep" "Lj-" = order (inLowerCase "DŽep") (inLowerCase "Lj-") ∧
      order "DŽep" "Lj-" ≠ .eq ∧ order "džep" "lJ-" = order "DŽep" "Lj-" := by
  have hs : inLowerCase "džep" = inLowerCase "DŽep" := by decide +kernel
  have ht : inLowerCase "lJ-" = inLowerCase "Lj-" := by decide +kernel
  have hne : order (inLowerCase "DŽep") (inLowerCase "Lj-") ≠ .eq := by decide +kernel
  have hdiffer : primaries (elements "DŽep".toList) ≠ primaries (elements "Lj-".toList) := by
    decide +kernel
  obtain ⟨hlower, -, hrecased⟩ := order_up_to_case "DŽep" "Lj-"
  exact ⟨hlower hne, hrecased "džep" "lJ-" hs ht (.inl hdiffer)⟩

end Collation

end Cardfile
