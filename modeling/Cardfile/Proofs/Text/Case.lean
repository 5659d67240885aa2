import Cardfile.Text.Class
import Mathlib
/-!
# Text — lower case

A character in lower case stays as it is (`lower_lower`), and it is not
upper case unless it is its own image (`isUppercase_lower`). Both are read
off the tables: no code point that is an image has another one, or is among
those of upper case. There are more than a thousand images, too many to
look each of them up, so sets of code points are compared as numbers whose
bits they are: two sets have no code point in common if their numbers have
no bit in common (`testBit_eq_false`).
-/

namespace Cardfile

namespace Text

/-! ## Sets of code points -/

/-- **Sets without a common bit** have no code point in common. -/
theorem testBit_eq_false {a b n : ℕ} (h : a &&& b = 0) (ha : a.testBit n = true) :
    b.testBit n = false := by
  have hbit := congrArg (Nat.testBit · n) h
  simpa [Nat.testBit_and, ha] using hbit

/-- The set of the code points. -/
def codeSet (codes : List ℕ) : ℕ := codes.foldr (fun n set => set ||| 2 ^ n) 0

theorem testBit_codeSet {codes : List ℕ} {n : ℕ} (h : n ∈ codes) :
    (codeSet codes).testBit n = true := by
  induction codes with
  | nil => cases h
  | cons m codes ih =>
    have hcons : codeSet (m :: codes) = codeSet codes ||| 2 ^ m := rfl
    rw [hcons, Nat.testBit_or, Bool.or_eq_true]
    rcases List.mem_cons.1 h with rfl | h
    · exact .inr Nat.testBit_two_pow_self
    · exact .inl (ih h)

/-- The powers of a power of two are bits at one distance. -/
theorem testBit_geomSum {step count i : ℕ} (hstep : 0 < step) (hi : i < count) :
    (∑ j ∈ Finset.range count, (2 ^ step) ^ j).testBit (step * i) = true := by
  induction count with
  | zero => cases hi
  | succ count ih =>
    have hlt : ∑ j ∈ Finset.range count, (2 ^ step) ^ j < 2 ^ (step * count) := by
      rw [pow_mul]
      exact Nat.geomSum_lt (Nat.one_lt_two_pow hstep.ne') fun j => Finset.mem_range.1
    rw [Finset.sum_range_succ, add_comm, ← pow_mul]
    rcases Nat.lt_succ_iff_lt_or_eq.1 hi with hi | rfl
    · rw [Nat.testBit_two_pow_add_gt (Nat.mul_lt_mul_of_pos_left hi hstep), ih hi]
    · rw [Nat.testBit_two_pow_add_eq, Nat.testBit_lt_two_pow hlt]
      rfl

theorem Stride.holds_iff {s : Stride} {n : ℕ} : s.holds n = true ↔
    s.first ≤ n ∧ n ≤ s.last ∧ (n - s.first) % s.step = 0 := by
  simp [Stride.holds, and_assoc]

/-- The set of the code points on the stride: a sum of powers in closed
form, which need not be counted out. -/
def Stride.set (s : Stride) : ℕ :=
  2 ^ s.first *
    (((2 ^ s.step) ^ ((s.last - s.first) / s.step + 1) - 1) / (2 ^ s.step - 1))

theorem Stride.testBit_set {s : Stride} {n : ℕ} (hstep : 0 < s.step) (h : s.holds n = true) :
    s.set.testBit n = true := by
  obtain ⟨hfirst, hlast, hmod⟩ := Stride.holds_iff.1 h
  have hplace : n - s.first = s.step * ((n - s.first) / s.step) :=
    (Nat.mul_div_cancel' (Nat.dvd_of_mod_eq_zero hmod)).symm
  have hcount : (n - s.first) / s.step < (s.last - s.first) / s.step + 1 :=
    Nat.lt_succ_of_le (Nat.div_le_div_right (Nat.sub_le_sub_right hlast _))
  rw [set, ← Nat.geomSum_eq (Nat.one_lt_two_pow hstep.ne'), Nat.testBit_two_pow_mul,
    Bool.and_eq_true, decide_eq_true_iff, hplace]
  exact ⟨hfirst, testBit_geomSum hstep hcount⟩

/-- The set of the code points on the strides. -/
def strideSet (strides : List Stride) : ℕ := strides.foldr (fun s set => set ||| s.set) 0

theorem testBit_strideSet {strides : List Stride} {s : Stride} {n : ℕ} (hs : s ∈ strides)
    (hstep : 0 < s.step) (h : s.holds n = true) : (strideSet strides).testBit n = true := by
  induction strides with
  | nil => cases hs
  | cons s' strides ih =>
    have hcons : strideSet (s' :: strides) = strideSet strides ||| s'.set := rfl
    rw [hcons, Nat.testBit_or, Bool.or_eq_true]
    rcases List.mem_cons.1 hs with rfl | hs
    · exact .inr (Stride.testBit_set hstep h)
    · exact .inl (ih hs)

/-- What is struck is on one of the strides. -/
theorem exists_holds_of_struck {strides : List Stride} {n : ℕ} (h : struck strides n = true) :
    ∃ s ∈ strides, s.holds n = true := by
  induction strides with
  | nil => cases h
  | cons s strides ih =>
    rw [struck] at h
    split_ifs at h
    rcases Bool.or_eq_true_iff.1 h with h | h
    · exact ⟨s, List.mem_cons_self, h⟩
    · obtain ⟨s', hs', h⟩ := ih h
      exact ⟨s', List.mem_cons_of_mem _ hs', h⟩

/-! ## Images -/

/-- The stride of the images. -/
def Lowering.image (l : Lowering) : Stride where
  first := (l.upper.first + l.shift).toNat
  last := (l.upper.last + l.shift).toNat
  step := l.upper.step

/-- The code points that have an image of their own. -/
def loweredSet : ℕ := strideSet (lowerings.map Lowering.upper)

/-- Their images. -/
def imageSet : ℕ := strideSet (lowerings.map Lowering.image)

/-- The stride is shifted as a whole. -/
theorem Lowering.holds_image {l : Lowering} {n : ℕ} (hnonneg : 0 ≤ l.upper.first + l.shift)
    (h : l.upper.holds n = true) : l.image.holds (n + l.shift).toNat = true := by
  have himagefirst : l.image.first = (l.upper.first + l.shift).toNat := rfl
  have himagelast : l.image.last = (l.upper.last + l.shift).toNat := rfl
  rw [Stride.holds_iff] at h ⊢
  obtain ⟨hfirst, hlast, hstep⟩ := h
  have hdistance : (n + l.shift).toNat - l.image.first = n - l.upper.first := by omega
  exact ⟨by omega, by omega, hdistance ▸ hstep⟩

/-- What is not left as it is lies on a stride and is shifted with it. -/
theorem lowered_cases (ls : List Lowering) (n : ℕ) :
    lowered ls n = n ∨
      ∃ l ∈ ls, l.upper.holds n = true ∧ lowered ls n = (n + l.shift).toNat := by
  induction ls with
  | nil => exact .inl rfl
  | cons l ls ih =>
    rw [lowered]
    split_ifs with hfirst hholds
    · exact .inl rfl
    · exact .inr ⟨l, List.mem_cons_self, hholds, rfl⟩
    · exact ih.imp_right fun ⟨l', hl', h⟩ => ⟨l', List.mem_cons_of_mem _ hl', h⟩

variable {c : Char}

/-- **Characters that are not in lower case** are in the table, and so are
their images. -/
theorem testBit_of_lower_ne (h : lower c ≠ c) :
    loweredSet.testBit c.toNat = true ∧ imageSet.testBit (lower c).toNat = true := by
  -- the images are code points of characters
  have hvalid : ∀ l ∈ lowerings, 0 < l.upper.step ∧ 0 ≤ l.upper.first + l.shift ∧
      (l.image.last < 0xD800 ∨ 0xE000 ≤ l.image.first ∧ l.image.last < 0x110000) := by
    decide +kernel
  obtain hsame | ⟨l, hl, hholds, himage⟩ := lowered_cases lowerings c.toNat
  · rw [lower, hsame, Char.ofNat_toNat] at h
    exact absurd rfl h
  · obtain ⟨hstep, hnonneg, hrange⟩ := hvalid l hl
    have hholds' := Lowering.holds_image hnonneg hholds
    have hchar : (c.toNat + l.shift).toNat.isValidChar := by
      obtain ⟨hfirst, hlast, -⟩ := Stride.holds_iff.1 hholds'
      rw [Nat.isValidChar]
      omega
    refine ⟨testBit_strideSet (List.mem_map_of_mem hl) hstep hholds, ?_⟩
    rw [lower, himage, Char.toNat_ofNat, if_pos hchar]
    exact testBit_strideSet (List.mem_map_of_mem hl) hstep hholds'

/-- **What is in lower case stays as it is.** -/
theorem lower_lower (c : Char) : lower (lower c) = lower c := by
  have hdisjoint : imageSet &&& loweredSet = 0 := by decide +kernel
  by_cases h : lower c = c
  · rw [h, h]
  · by_contra hne
    have hnot := testBit_eq_false hdisjoint (testBit_of_lower_ne h).2
    rw [(testBit_of_lower_ne hne).1] at hnot
    cases hnot

/-- **The image of another character is not upper case.** -/
theorem isUppercase_lower (h : lower c ≠ c) : isUppercase (lower c) = false := by
  have hdisjoint : imageSet &&& strideSet uppercaseStrides = 0 := by decide +kernel
  have hsteps : ∀ s ∈ uppercaseStrides, 0 < s.step := by decide +kernel
  have hnot := testBit_eq_false hdisjoint (testBit_of_lower_ne h).2
  by_contra hupper
  rw [Bool.not_eq_false] at hupper
  obtain ⟨s, hs, hholds⟩ := exists_holds_of_struck hupper
  rw [testBit_strideSet hs (hsteps s hs) hholds] at hnot
  cases hnot

/-- **What a character in lower case is the image of**: itself, and the one
character that the table has for it. -/
theorem eq_or_eq_of_lower_eq {x y : Char} (hpos : 0 < x.toNat)
    (htable : ∀ l ∈ lowerings, l.upper.holds (x.toNat - l.shift).toNat = true →
      x.toNat - l.shift = (y.toNat : ℤ))
    (h : lower c = x) : c = x ∨ c = y := by
  have hcode : lowered lowerings c.toNat = x.toNat := by
    have hcodes := congrArg Char.toNat h
    rw [lower, Char.toNat_ofNat] at hcodes
    split_ifs at hcodes
    · exact hcodes
    · omega
  obtain hsame | ⟨l, hl, hholds, himage⟩ := lowered_cases lowerings c.toNat
  · exact .inl (Char.toNat_inj.1 (hsame.symm.trans hcode))
  · have hshift : (x.toNat : ℤ) - l.shift = c.toNat := by omega
    have hcode' := htable l hl (by rw [hshift]; exact hholds)
    exact .inr (Char.toNat_inj.1 (by omega))

/-- The text in lower case, character by character. -/
def inLowerCase (text : String) : String := String.ofList (text.toList.map lower)

@[simp]
theorem toList_inLowerCase (text : String) :
    (inLowerCase text).toList = text.toList.map lower := String.toList_ofList

end Text

end Cardfile
