import Cardfile.Query.Operator
import Cardfile.Proofs.Text.Numeral
import Cardfile.Proofs.Collation.Elements
import Mathlib
/-!
# Collation — dictionary order

A word of a dictionary is a sequence of symbols, each a digit or a letter
in lower case, and some letters are written with two characters. Written
down one after the other, the symbols are found again if no two of them
run together into another letter, and the texts are then ordered as the
words are, symbol by symbol (`dictionary_order`). Texts of digits are
such words, so where they are equally long their order is that of their
numbers.
-/

namespace Cardfile

namespace Collation

open Text

/-! ## Words -/

/-- The symbols as they are written, in the order of a dictionary. -/
def symbols : Vector String 44 := #v[
  "0", "1", "2", "3", "4", "5", "6", "7", "8", "9",
  "a", "b", "c", "č", "ć", "d", "dž", "đ", "e", "f", "g", "h", "i", "j", "k", "l", "lj", "m",
  "n", "nj", "o", "p", "q", "r", "s", "š", "t", "u", "v", "w", "x", "y", "z", "ž"]

/-- **A symbol**, by its place among them. -/
abbrev Symbol : Type := Fin 44

/-- The characters that the symbol is written with. -/
def Symbol.chars (s : Symbol) : List Char := symbols[s].toList

/-- **The symbols run together**: written one after the other they are
another letter. -/
def Symbol.Fuses (s t : Symbol) : Prop :=
  s.chars = ['d'] ∧ t.chars = ['ž'] ∨ (s.chars = ['l'] ∨ s.chars = ['n']) ∧ t.chars = ['j']

instance decidableFuses (s t : Symbol) : Decidable (s.Fuses t) :=
  inferInstanceAs (Decidable (_ ∨ _))

/-- **No two neighbours run together.** -/
def Apart (word : List Symbol) : Prop := word.IsChain fun s t => ¬ s.Fuses t

instance decidableApart : DecidablePred Apart := fun word =>
  inferInstanceAs (Decidable (word.IsChain fun s t => ¬ s.Fuses t))

/-- The word as it is written. -/
def written (word : List Symbol) : String := String.ofList (word.flatMap Symbol.chars)

/-! ## The elements of a word -/

/-- The weight of a symbol. -/
def Symbol.weight (s : Symbol) : ℕ :=
  if s.val < 10 then digitBase + s.val else letterBase + 4 * (s.val - 10)

/-- The element of a symbol: it has no accent and is in lower case. -/
def Symbol.element (s : Symbol) : Element := { primary := s.weight, secondary := 0, tertiary := 0 }

/-- A symbol on its own is one element. -/
theorem elements_chars : ∀ s : Symbol, elements s.chars = [s.element] := by decide +kernel

/-- Symbols are in lower case. -/
theorem lower_of_mem_chars {s : Symbol} {c : Char} (hc : c ∈ s.chars) : lower c = c := by
  have hmap : ∀ s : Symbol, s.chars.map lower = s.chars := by decide +kernel
  exact List.map_inj_left.1 ((hmap s).trans (List.map_id _).symm) c hc

/-- **Symbols that do not run together meet in a seam.** -/
theorem seam_chars {s t : Symbol} (h : ¬ s.Fuses t) : Seam s.chars t.chars := by
  -- what ends, or begins, as a letter of two characters does not is one character
  have hlast : ∀ s : Symbol, (s.chars.getLast? = some 'd' → s.chars = ['d']) ∧
      (s.chars.getLast? = some 'l' → s.chars = ['l']) ∧
      (s.chars.getLast? = some 'n' → s.chars = ['n']) := by
    decide +kernel
  have hhead : ∀ t : Symbol, (t.chars.head? = some 'ž' → t.chars = ['ž']) ∧
      (t.chars.head? = some 'j' → t.chars = ['j']) := by
    decide +kernel
  intro c hc d hd
  rw [pair?_eq_none_iff, lower_of_mem_chars (List.mem_of_getLast? hc),
    lower_of_mem_chars (List.mem_of_head? hd)]
  simp only [List.mem_cons, Prod.mk.injEq, List.not_mem_nil, or_false]
  rintro (⟨rfl, rfl⟩ | ⟨rfl, rfl⟩ | ⟨rfl, rfl⟩)
  · exact h (.inl ⟨(hlast s).1 hc, (hhead t).1 hd⟩)
  · exact h (.inr ⟨.inl ((hlast s).2.1 hc), (hhead t).2 hd⟩)
  · exact h (.inr ⟨.inr ((hlast s).2.2 hc), (hhead t).2 hd⟩)

/-- **The symbols of a word are found again**, one element for each. -/
theorem elements_written {word : List Symbol} (h : Apart word) :
    elements (word.flatMap Symbol.chars) = word.map Symbol.element := by
  induction word with
  | nil => rfl
  | cons s word ih =>
    obtain ⟨hnext, hword⟩ := List.isChain_cons.1 h
    have hseam : Seam s.chars (word.flatMap Symbol.chars) := by
      cases word with
      | nil => exact fun _ _ => nofun
      | cons t word =>
        -- the word goes on with the first character of the next symbol
        have hhead : ((t :: word).flatMap Symbol.chars).head? = t.chars.head? := by
          rw [List.flatMap_cons, List.head?_append_of_ne_nil]
          intro hnil
          have hone := elements_chars t
          rw [hnil] at hone
          cases hone
        rw [Seam, hhead]
        exact seam_chars (hnext t rfl)
    rw [List.flatMap_cons, elements_append hseam, elements_chars, ih hword]
    rfl

/-! ## The order of words -/

/-- **Weights ascend with the symbols.** -/
theorem compare_weight (s t : Symbol) : compare s.weight t.weight = compare s t := by
  have hlt (s t : Symbol) : s.weight < t.weight ↔ s < t := by
    rw [Fin.lt_def]
    unfold Symbol.weight digitBase letterBase
    split_ifs <;> omega
  rcases lt_trichotomy s t with h | rfl | h
  · rw [compare_lt_iff_lt.2 h, compare_lt_iff_lt.2 ((hlt s t).2 h)]
  · rw [compare_eq_iff_eq.2 rfl, compare_eq_iff_eq.2 rfl]
  · rw [compare_gt_iff_gt.2 h, compare_gt_iff_gt.2 ((hlt t s).2 h)]

/-- A lexicographic order is kept by what keeps the order of the entries. -/
theorem compare_map {α β : Type} [Ord α] [Ord β] {f : α → β}
    (hf : ∀ x y, compare (f x) (f y) = compare x y) (l m : List α) :
    compare (l.map f) (m.map f) = compare l m := by
  induction l generalizing m with
  | nil => cases m <;> rfl
  | cons x l ih =>
    cases m with
    | nil => rfl
    | cons y m => rw [List.map_cons, List.map_cons, List.compare_cons_cons,
        List.compare_cons_cons, hf, ih]

theorem primaries_element (word : List Symbol) :
    primaries (word.map Symbol.element) = word.map Symbol.weight := by
  have hweight : ∀ s : Symbol, s.weight ≠ 0 := by
    intro s
    unfold Symbol.weight digitBase letterBase
    split_ifs <;> omega
  rw [primaries, List.map_map]
  refine List.filter_eq_self.2 fun w hw => ?_
  obtain ⟨s, -, rfl⟩ := List.mem_map.1 hw
  exact decide_eq_true (hweight s)

/-- **Texts are ordered as the words that they spell.** -/
theorem order_written {a b : List Symbol} (ha : Apart a) (hb : Apart b) :
    order (written a) (written b) = compare a b := by
  rw [order, written, written, String.toList_ofList, String.toList_ofList, elements_written ha,
    elements_written hb, elementOrder, primaries_element, primaries_element,
    compare_map compare_weight]
  cases h : compare a b with
  | lt | gt => rfl
  | eq =>
    obtain rfl := Std.compare_eq_iff_eq.1 h
    exact congrArg₂ Ordering.then Std.ReflCmp.compare_self Std.ReflCmp.compare_self

/-! ## Texts of digits -/

section Digits

variable {c : Char} {s t : List Char}

/-- The symbol of a digit. -/
def digitSymbol (c : Char) : Symbol := Fin.ofNat _ (c.toNat - '0'.toNat)

theorem val_digitSymbol (h : c.isDigit = true) : (digitSymbol c).val = c.toNat - '0'.toNat := by
  have hlt := (Integer.digitChar_of_isDigit h).2
  exact Nat.mod_eq_of_lt (hlt.trans (by decide))

theorem chars_digitSymbol (h : c.isDigit = true) : (digitSymbol c).chars = [c] := by
  have hall : ∀ n < 10, Symbol.chars (Fin.ofNat _ n) = [Nat.digitChar n] := by decide +kernel
  obtain ⟨hchar, hlt⟩ := Integer.digitChar_of_isDigit h
  rw [digitSymbol, hall _ hlt, hchar]

/-- **A text of digits is a word.** -/
theorem written_digits (h : ∀ c ∈ s, c.isDigit = true) :
    written (s.map digitSymbol) = String.ofList s ∧ Apart (s.map digitSymbol) := by
  have hchars : (s.map digitSymbol).flatMap Symbol.chars = s := by
    induction s with
    | nil => rfl
    | cons c s ih =>
      obtain ⟨hc, hs⟩ := List.forall_mem_cons.1 h
      rw [List.map_cons, List.flatMap_cons, chars_digitSymbol hc, ih hs, List.singleton_append]
  refine ⟨congrArg String.ofList hchars, ?_⟩
  -- a digit does not run together with anything
  have hnot : ∀ c ∈ s, ∀ x, ¬ (digitSymbol c).Fuses x := by
    intro c hc x hfuses
    have hdigit := h c hc
    rw [Symbol.Fuses, chars_digitSymbol hdigit] at hfuses
    rcases hfuses with ⟨heq, -⟩ | ⟨heq | heq, -⟩ <;> cases heq <;> cases hdigit
  exact (List.pairwise_map.2 (List.pairwise_of_forall_mem_list fun c hc d _ => hnot c hc _)).isChain

/-- A number grows by its next digit. -/
theorem compare_add_digit {a b x y : ℕ} (hx : x < 10) (hy : y < 10) :
    compare (10 * a + x) (10 * b + y) = (compare a b).then (compare x y) := by
  rcases lt_trichotomy a b with h | rfl | h
  · rw [compare_lt_iff_lt.2 h, compare_lt_iff_lt.2 (by omega)]
    rfl
  · rw [compare_eq_iff_eq.2 rfl, Nat.compare_eq_ite_lt, Nat.compare_eq_ite_lt]
    simp
  · rw [compare_gt_iff_gt.2 h, compare_gt_iff_gt.2 (by omega)]
    rfl

/-- **Digits of one number are compared as the numbers**, if there are as
many. -/
theorem compare_ofDigitChars (hs : ∀ c ∈ s, c.isDigit = true) (ht : ∀ c ∈ t, c.isDigit = true)
    (hlength : s.length = t.length) (a b : ℕ) :
    compare (Nat.ofDigitChars 10 s a) (Nat.ofDigitChars 10 t b) =
      (compare a b).then (compare (s.map digitSymbol) (t.map digitSymbol)) := by
  induction s generalizing t a b with
  | nil =>
    obtain rfl := List.length_eq_zero_iff.1 hlength.symm
    rw [Nat.ofDigitChars_nil, Nat.ofDigitChars_nil]
    cases compare a b <;> rfl
  | cons c s ih =>
    obtain ⟨d, t, rfl⟩ := List.exists_cons_of_length_eq_add_one hlength.symm
    obtain ⟨hc, hs⟩ := List.forall_mem_cons.1 hs
    obtain ⟨hd, ht⟩ := List.forall_mem_cons.1 ht
    have hcd : compare (digitSymbol c) (digitSymbol d) =
        compare (c.toNat - '0'.toNat) (d.toNat - '0'.toNat) := by
      rw [← val_digitSymbol hc, ← val_digitSymbol hd]
      rfl
    rw [Nat.ofDigitChars_cons, Nat.ofDigitChars_cons, ih hs ht (Nat.succ.inj hlength),
      compare_add_digit (Integer.digitChar_of_isDigit hc).2 (Integer.digitChar_of_isDigit hd).2,
      List.map_cons, List.map_cons, List.compare_cons_cons, hcd, Ordering.then_assoc]

/-- The number that the digits of the text denote. -/
def number (text : String) : ℕ := Nat.ofDigitChars 10 text.toList 0

/-- **Equally long texts of digits are ordered as their numbers.** -/
theorem order_digits {s t : String} (hs : ∀ c ∈ s.toList, c.isDigit = true)
    (ht : ∀ c ∈ t.toList, c.isDigit = true) (hlength : s.length = t.length) :
    order s t = compare (number s) (number t) := by
  obtain ⟨hwritten, hapart⟩ := written_digits hs
  obtain ⟨hwritten', hapart'⟩ := written_digits ht
  rw [String.ofList_toList] at hwritten hwritten'
  rw [← hwritten, ← hwritten', order_written hapart hapart', hwritten, hwritten', number, number,
    compare_ofDigitChars hs ht (by rwa [String.length_toList, String.length_toList])]
  rfl

end Digits

/-! ## The order of a dictionary -/

section Order

open Query

/-- **Texts are in the order of a dictionary.** Words whose neighbours do
not run together are ordered symbol by symbol, a word before those that
it begins, and no two of them are the same. Equally long texts of digits
are ordered as their numbers, and a range of them is one of numbers. -/
theorem dictionary_order :
    (∀ a b : List Symbol, Apart a → Apart b →
      order (written a) (written b) = compare a b ∧
        (order (written a) (written b) = .eq → a = b)) ∧
    ∀ s t : String, (∀ c ∈ s.toList, c.isDigit = true) → (∀ c ∈ t.toList, c.isDigit = true) →
      s.length = t.length →
      order s t = compare (number s) (number t) ∧
        Operator.less.holds s t = .ok (decide (number s < number t)) ∧
        Operator.lessOrEqual.holds s t = .ok (decide (number s ≤ number t)) ∧
        Operator.greater.holds s t = .ok (decide (number s > number t)) ∧
        Operator.greaterOrEqual.holds s t = .ok (decide (number s ≥ number t)) := by
  constructor
  · intro a b ha hb
    rw [order_written ha hb]
    exact ⟨rfl, Std.compare_eq_iff_eq.1⟩
  · intro s t hs ht hlength
    have horder := order_digits hs ht hlength
    refine ⟨horder, ?_⟩
    simp only [Operator.holds, horder, Except.ok.injEq]
    rcases lt_trichotomy (number s) (number t) with h | h | h
    · rw [compare_lt_iff_lt.2 h]
      simp [h, h.le, h.not_ge, h.not_gt]
    · rw [compare_eq_iff_eq.2 h]
      simp [h]
    · rw [compare_gt_iff_gt.2 h]
      simp [h, h.le, h.not_ge, h.not_gt]

/-- The letter `n` with `lj` and `j` after it comes before `nj`, and the
number 99 before 100. -/
theorem dictionary_order_of_digraphs :
    Apart [28, 26, 23] ∧ Apart [29, 10] ∧ written [28, 26, 23] = "nljj" ∧
      written [29, 10] = "nja" ∧ order "nljj" "nja" = .lt ∧
      order "0099" "0100" = .lt ∧ Operator.less.holds "0099" "0100" = .ok true := by
  have hapart : Apart [28, 26, 23] ∧ Apart [29, 10] := by decide +kernel
  have hfirst : written [28, 26, 23] = "nljj" := by decide +kernel
  have hsecond : written [29, 10] = "nja" := by decide +kernel
  obtain ⟨hwords, hdigits⟩ := dictionary_order
  obtain ⟨hword, -⟩ := hwords [28, 26, 23] [29, 10] hapart.1 hapart.2
  obtain ⟨hnumber, hless, -⟩ := hdigits "0099" "0100" (List.all_eq_true.1 (by decide))
    (List.all_eq_true.1 (by decide)) rfl
  rw [hfirst, hsecond] at hword
  exact ⟨hapart.1, hapart.2, hfirst, hsecond, hword, hnumber, hless⟩

end Order

end Collation

end Cardfile
