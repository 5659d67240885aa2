import Cardfile.Proofs.Query.Characters
import Cardfile.Proofs.Text.Numeral
import Cardfile.Proofs.Text.Case
import Cardfile.Proofs.Collation.Elements
import Mathlib
/-!
# Collation — classes of characters

White space and punctuation, digits, letters, and all other characters
are classes, and texts are meant to be ordered by the classes of their
first characters wherever these differ. The first weights of the classes
lie in different ranges (`exists_primaries_cons`), but that of white space
goes on with its code points: beyond U+1680 it reaches above the digits,
and beyond U+2000 above the letters. So the order goes by the classes
exactly where no such white space is compared with a digit or a letter
(`order_classes_iff`).
-/

namespace Cardfile

namespace Collation

open Text

/-! ## Classes -/

/-- The classes of characters, from the lowest up. -/
inductive CharClass where
  /-- White space, and what else of ASCII is neither a letter nor a digit. -/
  | blank
  /-- The digits of ASCII. -/
  | digit
  /-- The letters of the alphabet and the accented letters that count as one. -/
  | letter
  /-- All other characters. -/
  | other
  deriving DecidableEq

/-- The place of the class among them. -/
def CharClass.rank : CharClass → ℕ
  | blank => 0
  | digit => 1
  | letter => 2
  | other => 3

/-- The character is a letter of the alphabet, or made of one and an
accent, in either case. -/
def IsLetter (c : Char) : Prop := [lower c] ∈ alphabet ∨ (unaccented? (lower c)).isSome = true

instance decidableIsLetter : DecidablePred IsLetter := fun _ => inferInstanceAs (Decidable (_ ∨ _))

/-- **The class of a character.** -/
def classOf (c : Char) : CharClass :=
  if isBlank c = true ∨ c.toNat < 0x80 ∧ c.isAlphanum = false then .blank
  else if c.isDigit = true then .digit
  else if IsLetter c then .letter
  else .other

variable {c d : Char} {e : Element} {u v : List Char}

/-! ## Letters -/

theorem letterWeight?_bounds {letter : List Char} {w : ℕ} (h : letterWeight? letter = some w) :
    letterBase ≤ w ∧ w ≤ letterBase + 4 * 33 := by
  obtain ⟨place, hplace, rfl⟩ := Option.map_eq_some_iff.1 h
  obtain ⟨hlt, -⟩ := List.idxOf?_eq_some_iff.1 hplace
  have hlength : alphabet.length = 34 := rfl
  omega

/-- A foreign letter is made of one of the alphabet. -/
theorem mem_alphabet_of_unaccented? {base : Char} {accent : Accent}
    (h : unaccented? c = some (base, accent)) : [base] ∈ alphabet := by
  have hall : ∀ e ∈ foreignLetters, [e.2.1] ∈ alphabet := by decide
  obtain ⟨front, back, heq, -⟩ := List.lookup_eq_some_iff.1 h
  exact hall (c, base, accent) (heq ▸ by simp)

/-- **Letters and no others have the weight of a letter.** -/
theorem letter?_eq_none_iff : letter? (lower c) = none ↔ ¬ IsLetter c := by
  rw [IsLetter, letter?]
  split
  · next w hw =>
    have hmem : [lower c] ∈ alphabet := by
      by_contra hnot
      rw [letterWeight?_eq_none.2 hnot] at hw
      cases hw
    simp [hmem]
  · next hnone =>
    cases hforeign : unaccented? (lower c) with
    | none => simp [letterWeight?_eq_none.1 hnone]
    | some made =>
      obtain ⟨base, accent⟩ := made
      have hmem := mem_alphabet_of_unaccented? hforeign
      cases hbase : letterWeight? [base] with
      | none => exact absurd hmem (letterWeight?_eq_none.1 hbase)
      | some w => simp [hbase]

theorem exists_letter?_of_isLetter (h : IsLetter c) :
    ∃ w accent, letter? (lower c) = some (w, accent) := by
  obtain ⟨⟨w, accent⟩, hw⟩ :=
    Option.ne_none_iff_exists'.1 fun hnone => letter?_eq_none_iff.1 hnone h
  exact ⟨w, accent, hw⟩

theorem letter?_bounds {w accent : ℕ} (h : letter? c = some (w, accent)) :
    letterBase ≤ w ∧ w ≤ letterBase + 4 * 33 := by
  rw [letter?] at h
  split at h
  · next w' hw =>
    cases h
    exact letterWeight?_bounds hw
  · simp only [bind, Option.bind_eq_some_iff, Option.some.injEq, Prod.mk.injEq] at h
    obtain ⟨_, _, _, hw, rfl, -⟩ := h
    exact letterWeight?_bounds hw

/-! ## Marks -/

/-- The code points of the letters in lower case. -/
def letterCodes : List ℕ := (alphabet.flatten ++ foreignLetters.map Prod.fst).map Char.toNat

theorem mem_letterCodes (h : IsLetter c) : (lower c).toNat ∈ letterCodes := by
  refine List.mem_map_of_mem ?_
  rcases h with h | h
  · exact List.mem_append_left _ (List.mem_flatten.2 ⟨_, h, List.mem_singleton_self _⟩)
  · obtain ⟨made, hmade⟩ := Option.isSome_iff_exists.1 h
    obtain ⟨front, back, heq, -⟩ := List.lookup_eq_some_iff.1 hmade
    exact List.mem_append_right _ (heq ▸ by simp)

/-- The code points of white space, of hyphens, and of what else is no
letter in ASCII. -/
def markCodes : List ℕ :=
  0xAD :: blankCodes ++ (List.range 0x80).filter fun n => !(Char.ofNat n).isAlpha

theorem mem_markCodes_of_isBlank (h : isBlank c = true) : c.toNat ∈ markCodes :=
  List.mem_append_left _ (List.mem_cons_of_mem _ (mem_blankCodes h))

theorem mem_markCodes_of_ascii (h : c.toNat < 0x80) (halpha : ¬ c.isAlpha = true) :
    c.toNat ∈ markCodes :=
  List.mem_append_right _ (by simp [h, halpha])

/-- **Marks have no case**: they are their own images, and those of no
other characters. -/
theorem lower_eq_of_mark (h : c.toNat ∈ markCodes ∨ (lower c).toNat ∈ markCodes) :
    lower c = c := by
  have hdisjoint : codeSet markCodes &&& (loweredSet ||| imageSet) = 0 := by decide +kernel
  by_contra hne
  obtain ⟨hcode, hcode'⟩ := testBit_of_lower_ne hne
  rcases h with h | h <;>
    simpa [Nat.testBit_or, hcode, hcode'] using testBit_eq_false hdisjoint (testBit_codeSet h)

/-- **Marks are no letters.** -/
theorem not_isLetter_of_mark (h : c.toNat ∈ markCodes) : ¬ IsLetter c := by
  have hdisjoint : codeSet markCodes &&& codeSet letterCodes = 0 := by decide +kernel
  intro hletter
  have hcode := mem_letterCodes hletter
  have hnot := testBit_eq_false hdisjoint (testBit_codeSet h)
  rw [lower_eq_of_mark (.inl h)] at hcode
  rw [testBit_codeSet hcode] at hnot
  cases hnot

theorem isAlphanum_of_isBlank (h : isBlank c = true) : c.isAlphanum = false := by
  have hall : ∀ n ∈ blankCodes, (Char.ofNat n).isAlphanum = false := by decide
  simpa only [Char.ofNat_toNat] using hall _ (mem_blankCodes h)

/-- Within ASCII and white space the letters are those of ASCII. -/
theorem isLetter_iff_isAlpha (h : isBlank c = true ∨ c.toNat < 0x80) :
    IsLetter c ↔ c.isAlpha = true := by
  have hletters : ∀ n ∈ (List.range 0x80).filter fun n => (Char.ofNat n).isAlpha,
      [lower (Char.ofNat n)] ∈ alphabet := by
    decide +kernel
  rcases h with hblank | hlt
  · have halpha : c.isAlpha = false := (Bool.or_eq_false_iff.1 (isAlphanum_of_isBlank hblank)).1
    rw [halpha]
    exact iff_of_false (not_isLetter_of_mark (mem_markCodes_of_isBlank hblank)) Bool.false_ne_true
  · by_cases halpha : c.isAlpha = true
    · have hmem := hletters c.toNat (by simp [hlt, halpha])
      rw [Char.ofNat_toNat] at hmem
      exact iff_of_true (.inl hmem) halpha
    · exact iff_of_false (not_isLetter_of_mark (mem_markCodes_of_ascii hlt halpha)) halpha

/-! ## First weights -/

/-- **The first weight of a character of the class**: white space and
punctuation, and the characters of the highest class, go by a code point,
and digits and letters keep to a range. -/
inductive Weighs (c : Char) : CharClass → ℕ → Prop
  | blank : Weighs c .blank (punctuationBase + c.toNat)
  | digit {w : ℕ} : digitBase ≤ w → w < digitBase + 10 → Weighs c .digit w
  | letter {w : ℕ} : letterBase ≤ w → w ≤ letterBase + 4 * 33 → Weighs c .letter w
  | other : Weighs c .other (otherBase + (lower c).toNat)

theorem isAsciiDigit_eq (c : Char) : isAsciiDigit c = c.isDigit := by
  rw [isAsciiDigit, Char.isDigit]
  rfl

/-- White space and punctuation are no letters. -/
theorem not_isLetter_of_blank (h : isBlank c = true ∨ c.toNat < 0x80 ∧ c.isAlphanum = false) :
    ¬ IsLetter c ∧ c.isDigit = false := by
  have hno : c.isAlphanum = false := h.elim isAlphanum_of_isBlank And.right
  obtain ⟨halpha, hdigit⟩ := Bool.or_eq_false_iff.1 hno
  rw [isLetter_iff_isAlpha (h.imp_right And.left), halpha]
  exact ⟨Bool.false_ne_true, hdigit⟩

theorem ascii_of_isDigit (h : c.isDigit = true) : c.toNat < 0x80 ∧ c.isAlpha = false := by
  have hall : ∀ n < 10, (Nat.digitChar n).toNat < 0x80 ∧ (Nat.digitChar n).isAlpha = false := by
    decide
  obtain ⟨hchar, hlt⟩ := Integer.digitChar_of_isDigit h
  exact hchar ▸ hall _ hlt

/-- And neither are digits. -/
theorem not_isLetter_of_isDigit (h : c.isDigit = true) : ¬ IsLetter c := by
  obtain ⟨hascii, halpha⟩ := ascii_of_isDigit h
  rw [isLetter_iff_isAlpha (.inr hascii), halpha]
  exact Bool.false_ne_true

theorem classOf_of_isLetter (h : IsLetter c) : classOf c = .letter := by
  rw [classOf, if_neg fun hblank => (not_isLetter_of_blank hblank).1 h,
    if_neg fun hdigit => not_isLetter_of_isDigit hdigit h, if_pos h]

/-- What is no letter is weighed by its code point. -/
theorem primary_single_of_not_isLetter (h : ¬ IsLetter c) :
    (single c).primary = if isHyphen c then 0
      else if c.isDigit then digitBase + (c.toNat - '0'.toNat)
      else if isPunctuation c then punctuationBase + c.toNat
      else otherBase + (lower c).toNat := by
  unfold single
  rw [letter?_eq_none_iff.2 h, isAsciiDigit_eq]
  simp only
  split_ifs <;> rfl

/-- **The first weight of a character** is that of its class, unless it is
a hyphen. -/
theorem weighs_single (h : isHyphen c = false) : Weighs c (classOf c) (single c).primary := by
  rw [classOf]
  split_ifs with hblank hdigit hletter
  · obtain ⟨hnot, hdigit⟩ := not_isLetter_of_blank hblank
    have hpunctuation : isPunctuation c = true := by
      rw [isPunctuation, Bool.or_eq_true, decide_eq_true_iff]
      exact hblank.symm.imp_left And.left
    rw [primary_single_of_not_isLetter hnot, h, hdigit, hpunctuation]
    exact .blank
  · rw [primary_single_of_not_isLetter (not_isLetter_of_isDigit hdigit), h, if_pos hdigit]
    have hlt := (Integer.digitChar_of_isDigit hdigit).2
    exact .digit (Nat.le_add_right _ _) (Nat.add_lt_add_left hlt _)
  · cases hw : letter? (lower c) with
    | none => exact absurd hletter (letter?_eq_none_iff.1 hw)
    | some weights =>
      obtain ⟨w, accent⟩ := weights
      unfold single
      rw [hw]
      obtain ⟨hle, hge⟩ := letter?_bounds hw
      exact .letter hle hge
  · have hpunctuation : isPunctuation c = false := by
      rw [isPunctuation, Bool.or_eq_false_iff, decide_eq_false_iff_not]
      refine ⟨fun hascii => ?_, Bool.eq_false_iff.2 fun h => hblank (.inl h)⟩
      have halpha : c.isAlpha = false :=
        Bool.eq_false_iff.2 fun h => hletter ((isLetter_iff_isAlpha (.inr hascii)).2 h)
      have hno : c.isAlphanum = false :=
        Bool.or_eq_false_iff.2 ⟨halpha, Bool.eq_false_iff.2 hdigit⟩
      exact hblank (.inr ⟨hascii, hno⟩)
    rw [primary_single_of_not_isLetter hletter, h, if_neg hdigit, hpunctuation]
    exact .other

/-- A letter of two characters begins with a letter. -/
theorem weighs_pair (h : pair? c d = some e) : Weighs c (classOf c) e.primary := by
  have hletter : [lower c] ∈ alphabet := (mem_alphabet_of_pair h).1
  obtain ⟨w, hw, rfl⟩ := Option.map_eq_some_iff.1 h
  obtain ⟨hle, hge⟩ := letterWeight?_bounds hw
  rw [classOf_of_isLetter (.inl hletter)]
  exact .letter hle hge

theorem Weighs.pos {k : CharClass} {w : ℕ} (h : Weighs c k w) : 0 < w := by
  cases h with
  | blank | digit | letter | other =>
    simp only [punctuationBase, digitBase, letterBase, otherBase] at *
    omega

/-- **The first weight of a text** is one of the class of its first
character, whatever follows. -/
theorem exists_primaries_cons (h : isHyphen c = false) (u : List Char) :
    ∃ w ws, primaries (elements (c :: u)) = w :: ws ∧ Weighs c (classOf c) w := by
  obtain ⟨e, es, helements, he⟩ := exists_elements_cons c u
  have hweighs : Weighs c (classOf c) e.primary := by
    rcases he with rfl | ⟨d, hpair⟩
    · exact weighs_single h
    · exact weighs_pair hpair
  refine ⟨e.primary, primaries es, ?_, hweighs⟩
  rw [helements, primaries, List.map_cons]
  exact List.filter_cons_of_pos (decide_eq_true hweighs.pos.ne')

/-! ## The order of classes -/

/-- **White space that is put too high**: its weight is above those of
digits, or of letters. -/
def Overtakes (c d : Char) : Prop :=
  classOf c = .blank ∧
    (0x1680 ≤ c.toNat ∧ classOf d = .digit ∨ 0x2000 ≤ c.toNat ∧ classOf d = .letter)

theorem toNat_of_blank (h : classOf c = .blank) :
    c.toNat ≤ 0xA0 ∨ c.toNat = 0x1680 ∨ 0x2000 ≤ c.toNat ∧ c.toNat ≤ 0x3000 := by
  have hall : ∀ n ∈ blankCodes, n ≤ 0xA0 ∨ n = 0x1680 ∨ 0x2000 ≤ n ∧ n ≤ 0x3000 := by decide
  rw [classOf] at h
  split_ifs at h with hblank
  rcases hblank with hblank | ⟨hascii, -⟩
  · exact hall _ (mem_blankCodes hblank)
  · omega

/-- **The ranges of the classes** ascend, but for white space that is put
too high. -/
theorem Weighs.lt_or_gt {w w' : ℕ} (hw : Weighs c (classOf c) w) (hw' : Weighs d (classOf d) w')
    (h : (classOf c).rank < (classOf d).rank) :
    ¬ Overtakes c d ∧ w < w' ∨ Overtakes c d ∧ w' < w := by
  have hblank := toNat_of_blank (c := c)
  rw [Overtakes]
  generalize classOf c = k at *
  generalize classOf d = k' at *
  cases hw with
  | blank =>
    specialize hblank rfl
    cases hw' with
    | blank => cases h
    | digit | letter | other =>
      simp only [punctuationBase, digitBase, letterBase, otherBase, reduceCtorEq, true_and,
        and_true, and_false, or_false, false_or, not_false_eq_true, false_and] at *
      omega
  | digit | letter | other =>
    refine .inl ⟨(nomatch ·.1), ?_⟩
    cases hw' with
    | blank | digit | letter | other =>
      simp only [CharClass.rank, digitBase, letterBase, otherBase] at *
      omega

/-- The first weights decide if they differ. -/
theorem order_of_primaries {s t : String} {w w' : ℕ} {ws ws' : List ℕ}
    (hs : primaries (elements s.toList) = w :: ws) (ht : primaries (elements t.toList) = w' :: ws')
    (h : w ≠ w') : order s t = compare w w' := by
  rw [order, elementOrder, hs, ht, List.compare_cons_cons]
  rcases lt_or_gt_of_ne h with hlt | hgt
  · rw [compare_lt_iff_lt.2 hlt]
    rfl
  · rw [compare_gt_iff_gt.2 hgt]
    rfl

/-- **Where the order goes by the classes.** A text that begins with a
character of a lower class comes first, whatever follows, exactly if this
is not white space that overtakes the first character of the other text;
and if it is, the text comes last. -/
theorem order_classes_iff (hc : isHyphen c = false) (hd : isHyphen d = false)
    (h : (classOf c).rank < (classOf d).rank) (u v : List Char) :
    (order (String.ofList (c :: u)) (String.ofList (d :: v)) = .lt ↔ ¬ Overtakes c d) ∧
      (order (String.ofList (c :: u)) (String.ofList (d :: v)) = .gt ↔ Overtakes c d) := by
  obtain ⟨w, ws, hu, hw⟩ := exists_primaries_cons hc u
  obtain ⟨w', ws', hv, hw'⟩ := exists_primaries_cons hd v
  rw [← String.toList_ofList (l := c :: u)] at hu
  rw [← String.toList_ofList (l := d :: v)] at hv
  rcases hw.lt_or_gt hw' h with ⟨hnot, hlt⟩ | ⟨hover, hgt⟩
  · rw [order_of_primaries hu hv hlt.ne, compare_lt_iff_lt.2 hlt]
    simp [hnot]
  · rw [order_of_primaries hu hv hgt.ne', compare_gt_iff_gt.2 hgt]
    simp [hover]

/-- A mark of white space and a letter of two characters. -/
theorem order_classes_of_ogham :
    classOf '\u1680' = .blank ∧ classOf 'D' = .letter ∧ ¬ Overtakes '\u1680' 'D' ∧
      order "\u1680z" "Džep" = .lt := by
  have hclasses : classOf '\u1680' = .blank ∧ classOf 'D' = .letter := by decide +kernel
  have hnot : ¬ Overtakes '\u1680' 'D' := by
    rintro ⟨-, ⟨-, hd⟩ | ⟨hc, -⟩⟩
    · rw [hclasses.2] at hd
      cases hd
    · exact absurd hc (by decide)
  have hrank : (classOf '\u1680').rank < (classOf 'D').rank := by
    rw [hclasses.1, hclasses.2]
    decide
  exact ⟨hclasses.1, hclasses.2, hnot,
    (order_classes_iff (by decide) (by decide) hrank ['z'] ['ž', 'e', 'p']).1.2 hnot⟩

/-- **White space comes after a letter.** The em space has a weight above
all letters. -/
theorem order_of_em_space :
    classOf '\u2003' = .blank ∧ classOf 'a' = .letter ∧ order "\u2003" "a" = .gt := by
  decide +kernel

end Collation

end Cardfile
