import Cardfile.Text.Class
import Cardfile.Text.Integer
import Cardfile.Proofs.Outcome
import Cardfile.Proofs.Query.Characters
import Mathlib
/-!
# Text — decimal numerals

A numeral is one or more digits after a sign or none. What is read as an
integer of 64 bits is a numeral of it, and every numeral of such an
integer is read (`read_eq_ok_iff`). Among the numerals of an integer one
is canonical, and it is the one that is written (`canonical_iff`).
-/

namespace Cardfile

namespace Text

/-- A digit is no white space. -/
theorem isBlank_of_isDigit {c : Char} (h : c.isDigit = true) : isBlank c = false := by
  rw [Char.isDigit, Bool.and_eq_true, decide_eq_true_iff, decide_eq_true_iff] at h
  have hlow : 48 ≤ c.toNat := h.1
  have hhigh : c.toNat ≤ 57 := h.2
  exact isBlank_of_ascii (by omega) (by omega)

namespace Integer

/-- Decimal digits, at least one. -/
def IsDigits (text : List Char) : Prop := text ≠ [] ∧ ∀ c ∈ text, c.isDigit = true

/-- **A numeral of the integer**: digits, after a sign or none. -/
inductive Numeral : List Char → ℤ → Prop
  | unsigned {ds : List Char} : IsDigits ds → Numeral ds (Nat.ofDigitChars 10 ds 0)
  | plus {ds : List Char} : IsDigits ds → Numeral ('+' :: ds) (Nat.ofDigitChars 10 ds 0)
  | minus {ds : List Char} : IsDigits ds → Numeral ('-' :: ds) (-(Nat.ofDigitChars 10 ds 0 : ℤ))

/-- The integers of 64 bits. -/
def InRange (n : ℤ) : Prop := -2 ^ 63 ≤ n ∧ n < 2 ^ 63

/-- **The canonical numeral** has no plus sign, no zero in front of another
digit, and no minus sign in front of zero. -/
structure Canonical (text : List Char) (n : ℤ) : Prop where
  numeral : Numeral text n
  plus : ∀ ds, text ≠ '+' :: ds
  zero : ∀ ds, text = '0' :: ds → ds = []
  minus_zero : ∀ ds, text ≠ '-' :: '0' :: ds

variable {text ds : List Char} {n m : ℤ}

/-! ## Signs and digits -/

theorem IsDigits.ne_cons {c : Char} (h : IsDigits text) (hc : c.isDigit = false) :
    text ≠ c :: ds := by
  rintro rfl
  rw [h.2 c List.mem_cons_self] at hc
  cases hc

theorem numeral_minus :
    Numeral ('-' :: ds) n ↔ IsDigits ds ∧ n = -(Nat.ofDigitChars 10 ds 0 : ℤ) := by
  constructor
  · intro h
    cases h with
    | unsigned hds => exact absurd rfl (hds.ne_cons (by decide))
    | minus hds => exact ⟨hds, rfl⟩
  · rintro ⟨hds, rfl⟩
    exact .minus hds

theorem numeral_plus : Numeral ('+' :: ds) n ↔ IsDigits ds ∧ n = Nat.ofDigitChars 10 ds 0 := by
  constructor
  · intro h
    cases h with
    | unsigned hds => exact absurd rfl (hds.ne_cons (by decide))
    | plus hds => exact ⟨hds, rfl⟩
  · rintro ⟨hds, rfl⟩
    exact .plus hds

theorem numeral_unsigned (hminus : ∀ ds, text ≠ '-' :: ds) (hplus : ∀ ds, text ≠ '+' :: ds) :
    Numeral text n ↔ IsDigits text ∧ n = Nat.ofDigitChars 10 text 0 := by
  constructor
  · intro h
    cases h with
    | unsigned hds => exact ⟨hds, rfl⟩
    | plus => exact absurd rfl (hplus _)
    | minus => exact absurd rfl (hminus _)
  · rintro ⟨hds, rfl⟩
    exact .unsigned hds

/-- **A numeral has one value.** -/
theorem Numeral.unique (h : Numeral text n) (h' : Numeral text m) : n = m := by
  cases h with
  | unsigned hds =>
    have hminus (ds) : text ≠ '-' :: ds := hds.ne_cons (by decide)
    have hplus (ds) : text ≠ '+' :: ds := hds.ne_cons (by decide)
    exact ((numeral_unsigned hminus hplus).1 h').2.symm
  | plus => exact (numeral_plus.1 h').2.symm
  | minus => exact (numeral_minus.1 h').2.symm

theorem Numeral.ne_nil (h : Numeral text n) : text ≠ [] := by
  cases h with
  | unsigned hds => exact hds.1
  | plus | minus => exact List.cons_ne_nil _ _

/-- There is no white space in a numeral. -/
theorem Numeral.isBlank_of_mem (h : Numeral text n) {c : Char} (hc : c ∈ text) :
    isBlank c = false := by
  cases h with
  | unsigned hds => exact isBlank_of_isDigit (hds.2 c hc)
  | plus hds | minus hds =>
    obtain rfl | hc := List.mem_cons.1 hc
    · decide
    · exact isBlank_of_isDigit (hds.2 c hc)

/-! ## Reading -/

/-- A decimal digit and its value. -/
theorem digit?_eq (c : Char) :
    digit? c = if c.isDigit = true then some (c.toNat - '0'.toNat) else none := by
  have hdigit : ('0' ≤ c ∧ c ≤ '9') ↔ c.isDigit = true := by
    rw [Char.isDigit, Bool.and_eq_true, decide_eq_true_iff, decide_eq_true_iff]
    rfl
  rw [digit?]
  simp only [hdigit]

/-- Digits that follow others only add to them. -/
theorem le_ofDigitChars (ds : List Char) (soFar : ℕ) : soFar ≤ Nat.ofDigitChars 10 ds soFar := by
  rw [Nat.ofDigitChars_eq_ofDigitChars_zero]
  have hpos : 0 < 10 ^ ds.length := Nat.pow_pos (by decide)
  exact (Nat.le_mul_of_pos_left _ hpos).trans (Nat.le_add_right _ _)

/-- **Digits are read up to the limit.** -/
theorem magnitude_eq_ok {limit soFar k : ℕ} {beyond : IntegerFault} (h : soFar ≤ limit) :
    magnitude limit beyond soFar ds = .ok k ↔
      (∀ c ∈ ds, c.isDigit = true) ∧ k = Nat.ofDigitChars 10 ds soFar ∧ k ≤ limit := by
  induction ds generalizing soFar with
  | nil =>
    rw [magnitude, Except.ok.injEq, Nat.ofDigitChars_nil]
    constructor
    · rintro rfl
      exact ⟨List.forall_mem_nil _, rfl, h⟩
    · rintro ⟨-, rfl, -⟩
      rfl
  | cons c ds ih =>
    rw [magnitude, digit?_eq, List.forall_mem_cons, Nat.ofDigitChars_cons, Nat.mul_comm 10]
    by_cases hc : c.isDigit = true
    · simp only [hc, if_true, true_and]
      split_ifs with hle
      · exact ih hle
      · -- the digits that follow do not bring it below the limit again
        have hge := le_ofDigitChars ds (soFar * 10 + (c.toNat - '0'.toNat))
        constructor
        · intro hk
          cases hk
        · rintro ⟨-, rfl, hk⟩
          exact absurd (hge.trans hk) hle
    · simp [hc]

/-- Digits that follow a sign, or none, are read unless there are none. -/
theorem map_magnitude_eq_ok {limit : ℕ} {beyond : IntegerFault} {f : ℤ → ℤ} (hne : ds ≠ []) :
    (do let k ← magnitude limit beyond 0 ds; pure (k : ℤ)).map f = .ok n ↔
      IsDigits ds ∧ n = f (Nat.ofDigitChars 10 ds 0) ∧ Nat.ofDigitChars 10 ds 0 ≤ limit := by
  rw [map_eq_ok]
  simp only [bind_eq_ok, magnitude_eq_ok (Nat.zero_le limit)]
  constructor
  · rintro ⟨_, ⟨_, ⟨hds, rfl, hle⟩, ⟨⟩⟩, rfl⟩
    exact ⟨⟨hne, hds⟩, rfl, hle⟩
  · rintro ⟨hds, rfl, hle⟩
    exact ⟨_, ⟨_, ⟨hds.2, rfl, hle⟩, rfl⟩, rfl⟩

/-- **What is read is a numeral** of an integer of 64 bits, and every
numeral of one is read. -/
theorem read_eq_ok_iff : read text = .ok n ↔ Numeral text n ∧ InRange n := by
  rw [read.eq_def, InRange]
  split
  · simp [numeral_unsigned, IsDigits]
  · simp [numeral_minus, IsDigits]
  · simp [numeral_plus, IsDigits]
  · next hne =>
    rw [map_magnitude_eq_ok hne, numeral_minus, bound, and_assoc]
    refine and_congr_right fun _ => and_congr_right fun hn => ?_
    omega
  · next hne =>
    rw [map_magnitude_eq_ok hne, numeral_plus, bound, and_assoc]
    refine and_congr_right fun _ => and_congr_right fun hn => ?_
    omega
  · next hne _ _ hminus hplus =>
    rw [map_magnitude_eq_ok hne, numeral_unsigned hminus hplus, bound, and_assoc]
    refine and_congr_right fun _ => and_congr_right fun hn => ?_
    omega

/-! ## Writing -/

/-- A digit is that of its value. -/
theorem digitChar_of_isDigit {c : Char} (h : c.isDigit = true) :
    Nat.digitChar (c.toNat - '0'.toNat) = c ∧ c.toNat - '0'.toNat < 10 := by
  rw [Char.isDigit, Bool.and_eq_true, decide_eq_true_iff, decide_eq_true_iff] at h
  have hlow : 48 ≤ c.toNat := h.1
  have hhigh : c.toNat ≤ 57 := h.2
  have hlt : c.toNat - '0'.toNat < 10 := by
    have hzero : '0'.toNat = 48 := rfl
    omega
  refine ⟨Char.toNat_inj.1 ?_, hlt⟩
  rw [Nat.toNat_digitChar_of_lt_ten hlt]
  exact Nat.add_sub_of_le hlow

/-- **Digits go on** from a number above zero as its own digits do. -/
theorem toDigits_ofDigitChars {soFar : ℕ} (hpos : 0 < soFar) (h : ∀ c ∈ ds, c.isDigit = true) :
    Nat.toDigits 10 (Nat.ofDigitChars 10 ds soFar) = Nat.toDigits 10 soFar ++ ds := by
  induction ds generalizing soFar with
  | nil => rw [Nat.ofDigitChars_nil, List.append_nil]
  | cons c ds ih =>
    obtain ⟨hc, hds⟩ := List.forall_mem_cons.1 h
    obtain ⟨hchar, hlt⟩ := digitChar_of_isDigit hc
    rw [Nat.ofDigitChars_cons, ih (by omega) hds,
      ← Nat.toDigits_append_toDigits (by decide) hpos hlt, Nat.toDigits_of_lt_base hlt, hchar,
      List.append_assoc, List.singleton_append]

/-- Digits without a zero in front are those of their number. -/
theorem toDigits_of_isDigits (h : IsDigits ds) (hzero : ∀ rest, ds = '0' :: rest → rest = []) :
    Nat.toDigits 10 (Nat.ofDigitChars 10 ds 0) = ds := by
  obtain ⟨hne, hall⟩ := h
  obtain ⟨c, rest, rfl⟩ := List.exists_cons_of_ne_nil hne
  obtain ⟨hc, hrest⟩ := List.forall_mem_cons.1 hall
  by_cases hc0 : c = '0'
  · subst hc0
    rw [hzero rest rfl]
    rfl
  · obtain ⟨hchar, hlt⟩ := digitChar_of_isDigit hc
    have hpos : 0 < c.toNat - '0'.toNat := by
      refine Nat.pos_of_ne_zero fun hnil => hc0 ?_
      rw [hnil] at hchar
      exact hchar.symm
    rw [Nat.ofDigitChars_cons, Nat.mul_zero, Nat.zero_add, toDigits_ofDigitChars hpos hrest,
      Nat.toDigits_of_lt_base hlt, hchar, List.singleton_append]

/-- The digits of a number do not begin with zero, unless it is zero. -/
theorem head?_toDigits {k : ℕ} (h : 0 < k) : (Nat.toDigits 10 k).head? ≠ some '0' := by
  induction k using Nat.strong_induction_on with
  | _ k ih =>
    rw [Nat.toDigits_eq_if (by decide)]
    split_ifs with hlt
    · rw [List.head?_cons, ne_eq, Option.some.injEq, Nat.digitChar_eq_zero]
      omega
    · rw [List.head?_append_of_ne_nil _ Nat.toDigits_ne_nil]
      exact ih (k / 10) (by omega) (by omega)

theorem isDigits_toDigits (k : ℕ) : IsDigits (Nat.toDigits 10 k) :=
  ⟨Nat.toDigits_ne_nil, fun _ => Nat.isDigit_of_mem_toDigits (by decide) (by decide)⟩

/-- **An integer is written as a numeral of it.** -/
theorem numeral_digits (n : ℤ) : Numeral (digits n) n := by
  have hvalue (k : ℕ) : Nat.ofDigitChars 10 (Nat.toDigits 10 k) 0 = k :=
    Nat.ofDigitChars_ten_toDigits
  cases n with
  | ofNat k =>
    have hnumeral := Numeral.unsigned (isDigits_toDigits k)
    rwa [hvalue] at hnumeral
  | negSucc k =>
    have hnumeral := Numeral.minus (isDigits_toDigits (k + 1))
    rwa [hvalue] at hnumeral

/-- **The canonical numeral is the one that is written.** -/
theorem canonical_iff : Canonical text n ↔ text = digits n := by
  constructor
  · rintro ⟨hnumeral, hplus, hzero, hminus⟩
    cases hnumeral with
    | unsigned hds => exact (toDigits_of_isDigits hds hzero).symm
    | plus => exact absurd rfl (hplus _)
    | @minus ds hds =>
      have hfront (rest) : ds = '0' :: rest → rest = [] := by
        rintro rfl
        exact absurd rfl (hminus rest)
      have hds' := toDigits_of_isDigits hds hfront
      -- zero is apart, since no minus sign may stand in front of its digit
      cases hvalue : Nat.ofDigitChars 10 ds 0 with
      | zero =>
        rw [hvalue] at hds'
        exact absurd (congrArg _ hds'.symm) (hminus [])
      | succ k =>
        rw [hvalue] at hds'
        exact congrArg _ hds'.symm
  · rintro rfl
    refine ⟨numeral_digits n, fun ds => ?_, fun ds hds => ?_, fun ds hds => ?_⟩
    · cases n with
      | ofNat k => exact (isDigits_toDigits k).ne_cons (by decide)
      | negSucc k => exact nofun
    · cases n with
      | ofNat k =>
        change Nat.toDigits 10 k = _ at hds
        by_cases hk : 0 < k
        · exact absurd (by rw [hds]; rfl) (head?_toDigits hk)
        · obtain rfl : k = 0 := by omega
          exact (List.cons.inj hds).2.symm
      | negSucc k => cases hds
    · cases n with
      | ofNat k => exact (isDigits_toDigits k).ne_cons (by decide) hds
      | negSucc k =>
        have htail : Nat.toDigits 10 (k + 1) = '0' :: ds := (List.cons.inj hds).2
        exact absurd (by rw [htail]; rfl) (head?_toDigits k.succ_pos)

end Integer

end Text

end Cardfile
