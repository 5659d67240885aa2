import Cardfile.Proofs.Collation.Levels
import Cardfile.Proofs.Collation.Preorder
/-!
# Collation — texts without a difference

The order finds no difference between two texts exactly if it finds none
between their characters, one by one (`same_characterwise`). A letter of
two characters has a first weight that no character has
(`primary_single_ne`), so the same elements come from the same characters
(`singles_of_pair`); and characters that are the same make the same
letters with their neighbours (`pair?_congr`). So it makes no difference
that some letters are written with two characters.
-/

namespace Cardfile

namespace Collation

open Text

variable {c d c' d' : Char} {e : Element} {u v : List Char}

/-! ## Letters and their weights -/

/-- **Letters are told apart by their weights.** -/
theorem letterWeight?_inj {l m : List Char} {w : ℕ} (hl : letterWeight? l = some w)
    (hm : letterWeight? m = some w) : l = m := by
  obtain ⟨i, hi, rfl⟩ := Option.map_eq_some_iff.1 hl
  obtain ⟨j, hj, hij⟩ := Option.map_eq_some_iff.1 hm
  obtain ⟨hlt, rfl, -⟩ := List.idxOf?_eq_some_iff.1 hi
  obtain ⟨hlt', rfl, -⟩ := List.idxOf?_eq_some_iff.1 hj
  have : i = j := by omega
  subst this
  rfl

/-- The weight of a character is that of a letter of one character. Without
an accent it is that of the character itself. -/
theorem exists_letterWeight?_of_letter? {w accent : ℕ} (h : letter? c = some (w, accent)) :
    ∃ x, letterWeight? [x] = some w ∧ (accent = 0 → x = c) := by
  rw [letter?] at h
  split at h
  · next w' hw =>
    cases h
    exact ⟨c, hw, fun _ => rfl⟩
  · simp only [bind, Option.bind_eq_some_iff, Option.some.injEq, Prod.mk.injEq] at h
    obtain ⟨⟨x, a⟩, _, w', hw, rfl, rfl⟩ := h
    have hrank : ∀ a : Accent, a.rank ≠ 0 := by
      intro a
      cases a <;> decide
    exact ⟨x, hw, fun h => absurd h (hrank a)⟩

/-- **Only letters have first weights among those of letters.** -/
theorem isLetter_of_primary (hlow : letterBase ≤ (single c).primary)
    (hhigh : (single c).primary ≤ letterBase + 4 * 33) : IsLetter c := by
  have hblank : ∀ n ∈ blankCodes, n ≤ 0x1680 ∨ 0x2000 ≤ n := by decide
  by_contra h
  rw [primary_single_of_not_isLetter h] at hlow hhigh
  simp only [letterBase] at hlow hhigh
  split_ifs at hlow hhigh with hhyphen hdigit hpunctuation
  · omega
  · have := (Integer.digitChar_of_isDigit hdigit).2
    simp only [digitBase] at hlow
    omega
  · simp only [isPunctuation, Bool.or_eq_true, decide_eq_true_eq] at hpunctuation
    simp only [punctuationBase] at hlow hhigh
    rcases hpunctuation with hascii | hwhite
    · omega
    · have := hblank _ (mem_blankCodes hwhite)
      omega
  · simp only [otherBase] at hhigh
    omega

theorem caseBit_le_one (c : Char) : caseBit c ≤ 1 := by
  rw [caseBit]
  split_ifs <;> decide

/-- **A character that is the same as a letter of the alphabet** is that
letter, in the same case. -/
theorem lower_eq_of_single_eq (hmem : [lower c] ∈ alphabet) (h : single d = single c) :
    lower d = lower c ∧ caseBit d = caseBit c := by
  obtain ⟨w, hw⟩ : ∃ w, letterWeight? [lower c] = some w :=
    Option.ne_none_iff_exists'.1 fun hnone => letterWeight?_eq_none.1 hnone hmem
  have hletter : letter? (lower c) = some (w, 0) := by rw [letter?, hw]
  rw [single_of_letter? hletter] at h
  have hbounds := letterWeight?_bounds hw
  have hisletter : IsLetter d := isLetter_of_primary (h ▸ hbounds.1) (h ▸ hbounds.2)
  obtain ⟨w', accent, hd⟩ := exists_letter?_of_isLetter hisletter
  rw [single_of_letter? hd] at h
  simp only [Element.mk.injEq] at h
  obtain ⟨rfl, rfl, hcase⟩ := h
  obtain ⟨x, hx, hxd⟩ := exists_letterWeight?_of_letter? hd
  rw [hxd rfl] at hx
  have heq := letterWeight?_inj hx hw
  exact ⟨List.singleton_inj.1 heq, by omega⟩

/-- And letters in the same case are the same. -/
theorem single_eq_of_lower_eq (hletter : IsLetter c) (hlower : lower d = lower c)
    (hcase : caseBit d = caseBit c) : single d = single c := by
  obtain ⟨w, accent, hc⟩ := exists_letter?_of_isLetter hletter
  have hd : letter? (lower d) = some (w, accent) := hlower ▸ hc
  rw [single_of_letter? hc, single_of_letter? hd, hcase]

/-! ## Letters of two characters -/

/-- **No character has the first weight of two.** -/
theorem primary_single_ne (h : pair? c d = some e) (x : Char) :
    (single x).primary ≠ e.primary := by
  obtain ⟨w, hw, rfl⟩ := Option.map_eq_some_iff.1 h
  intro heq
  have heq : (single x).primary = w := heq
  have hbounds := letterWeight?_bounds hw
  have hisletter : IsLetter x := isLetter_of_primary (heq ▸ hbounds.1) (heq ▸ hbounds.2)
  obtain ⟨w', accent, hx⟩ := exists_letter?_of_isLetter hisletter
  rw [single_of_letter? hx] at heq
  obtain ⟨y, hy, -⟩ := exists_letterWeight?_of_letter? hx
  obtain rfl : w' = w := heq
  cases letterWeight?_inj hy hw

/-- **The same letter of two characters** is written with characters that
are the same. -/
theorem singles_of_pair (h : pair? c d = some e) (h' : pair? c' d' = some e) :
    single c = single c' ∧ single d = single d' := by
  obtain ⟨hc, hd⟩ := mem_alphabet_of_pair h'
  obtain ⟨w, hw, rfl⟩ := Option.map_eq_some_iff.1 h
  obtain ⟨w', hw', heq⟩ := Option.map_eq_some_iff.1 h'
  simp only [Element.mk.injEq, true_and] at heq
  obtain ⟨rfl, hcase⟩ := heq
  have hlower := letterWeight?_inj hw hw'
  simp only [List.cons.injEq, and_true] at hlower
  have := caseBit_le_one c
  have := caseBit_le_one d
  have := caseBit_le_one c'
  have := caseBit_le_one d'
  exact ⟨single_eq_of_lower_eq (.inl hc) hlower.1 (by omega),
    single_eq_of_lower_eq (.inl hd) hlower.2 (by omega)⟩

/-- Characters that are the same make the letter, if others do. -/
theorem pair?_of_single_eq (hc : single c' = single c) (hd : single d' = single d)
    (h : pair? c d = some e) : pair? c' d' = some e := by
  obtain ⟨hc', hd'⟩ := mem_alphabet_of_pair h
  obtain ⟨hlower, hcase⟩ := lower_eq_of_single_eq hc' hc
  obtain ⟨hlower', hcase'⟩ := lower_eq_of_single_eq hd' hd
  rw [← h, pair?, pair?, hlower, hcase, hlower', hcase']

/-- **Characters that are the same make the same letters** with their
neighbours. -/
theorem pair?_congr (hc : single c = single c') (hd : single d = single d') :
    pair? c d = pair? c' d' := by
  cases h : pair? c' d' with
  | some e => exact pair?_of_single_eq hc hd h
  | none =>
    rw [Option.eq_none_iff_forall_ne_some]
    intro e he
    rw [pair?_of_single_eq hc.symm hd.symm he] at h
    cases h

/-! ## Texts -/

/-- The first element takes one character, or two. -/
theorem elements_cons_cases (c : Char) (u : List Char) :
    elements (c :: u) = single c :: elements u ∨
      ∃ d rest e, u = d :: rest ∧ pair? c d = some e ∧ elements (c :: u) = e :: elements rest := by
  cases u with
  | nil => exact .inl rfl
  | cons d rest =>
    cases hpair : pair? c d with
    | none => exact .inl (elements_of_unpaired hpair)
    | some e => exact .inr ⟨d, rest, e, rfl, hpair, elements_of_pair hpair⟩

theorem elements_eq_nil : elements u = [] ↔ u = [] := by
  cases u with
  | nil => exact ⟨fun _ => rfl, fun _ => rfl⟩
  | cons c u =>
    obtain ⟨e, es, helements, -⟩ := exists_elements_cons c u
    rw [helements]
    exact ⟨nofun, nofun⟩

/-- Characters that are the same one by one have the same elements. -/
theorem elements_congr (h : u.map single = v.map single) : elements u = elements v := by
  induction u using elements.induct generalizing v with
  | case1 =>
    obtain rfl := List.map_eq_nil_iff.1 h.symm
    rfl
  | case2 c =>
    obtain ⟨c', rfl, hc⟩ := List.map_eq_singleton_iff.1 h.symm
    exact congrArg (fun e => [e]) hc.symm
  | case3 c d rest e hpair ih =>
    obtain ⟨c', v, rfl, hc, h⟩ := List.map_eq_cons_iff.1 h.symm
    obtain ⟨d', v, rfl, hd, h⟩ := List.map_eq_cons_iff.1 h
    rw [elements_of_pair hpair, elements_of_pair ((pair?_congr hc hd).trans hpair), ih h.symm]
  | case4 c d rest hpair ih =>
    obtain ⟨c', v, rfl, hc, h⟩ := List.map_eq_cons_iff.1 h.symm
    obtain ⟨d', v', rfl, hd, -⟩ := List.map_eq_cons_iff.1 h
    have hpair' : pair? c' d' = none := (pair?_congr hc hd).trans hpair
    rw [elements_of_unpaired hpair, elements_of_unpaired hpair', hc, ih h.symm]

/-- **The same elements come from characters that are the same.** The
first element tells whether it takes one character or two. -/
theorem map_single_eq_of_elements (h : elements u = elements v) : u.map single = v.map single := by
  induction hn : u.length using Nat.strong_induction_on generalizing u v with
  | _ n ih =>
    cases u with
    | nil =>
      obtain rfl := elements_eq_nil.1 h.symm
      rfl
    | cons c u =>
      cases v with
      | nil => cases elements_eq_nil.1 h
      | cons c' v =>
        obtain hu | ⟨d, u, e, rfl, hpair, hu⟩ := elements_cons_cases c u
        · obtain hv | ⟨d', v, e', rfl, hpair', hv⟩ := elements_cons_cases c' v
          · rw [hu, hv] at h
            obtain ⟨hc, h⟩ := List.cons.inj h
            rw [List.map_cons, List.map_cons, hc, ih u.length (by simp [← hn]) h rfl]
          · rw [hu, hv] at h
            exact absurd (congrArg Element.primary (List.cons.inj h).1) (primary_single_ne hpair' c)
        · obtain hv | ⟨d', v, e', rfl, hpair', hv⟩ := elements_cons_cases c' v
          · rw [hu, hv] at h
            exact absurd (congrArg Element.primary (List.cons.inj h).1.symm)
              (primary_single_ne hpair c')
          · rw [hu, hv] at h
            obtain ⟨rfl, hrest⟩ := List.cons.inj h
            obtain ⟨hc, hd⟩ := singles_of_pair hpair hpair'
            simp only [List.map_cons, hc, hd, ih u.length (by simp [← hn]) hrest rfl]

/-- **The same elements are the same characters, one by one.** -/
theorem elements_eq_iff : elements u = elements v ↔ u.map single = v.map single :=
  ⟨map_single_eq_of_elements, elements_congr⟩

/-- Lists that are the same one by one. -/
theorem map_single_eq_iff : u.map single = v.map single ↔
    u.length = v.length ∧
      ∀ (i : ℕ) c d, u[i]? = some c → v[i]? = some d → single c = single d := by
  constructor
  · intro h
    refine ⟨by simpa using congrArg List.length h, fun i c d hc hd => ?_⟩
    have hi := congrArg (·[i]?) h
    simpa [hc, hd] using hi
  · rintro ⟨hlength, hall⟩
    refine List.ext_getElem? fun i => ?_
    rw [List.getElem?_map, List.getElem?_map]
    cases hc : u[i]? with
    | none =>
      have hd : v[i]? = none := by
        rw [List.getElem?_eq_none_iff] at hc ⊢
        omega
      rw [hd]
    | some c =>
      obtain ⟨d, hd⟩ : ∃ d, v[i]? = some d := by
        have hlt := (List.getElem?_eq_some_iff.1 hc).1
        exact ⟨_, List.getElem?_eq_getElem (hlength ▸ hlt)⟩
      rw [hd, Option.map_some, Option.map_some, hall i c d hc hd]

/-- A hyphen is known by its first weight. -/
theorem isHyphen_iff : isHyphen c = true ↔ (single c).primary = 0 := by
  constructor
  · intro h
    rw [(of_isHyphen h).2]
    rfl
  · intro h
    by_contra hnot
    exact (weighs_single (Bool.not_eq_true _ ▸ hnot)).pos.ne' h

theorem same_iff_elements {s t : String} :
    same s t = true ↔ elements s.toList = elements t.toList := by
  rw [same_iff, order, elementOrder_eq_iff]
  · exact fun _ => isProper_of_mem_elements
  · exact fun _ => isProper_of_mem_elements

/-- **Texts are the same character by character**: they are equally long,
and no two characters in the same place differ in a weight that they have
on their own. So letters of two characters make no difference, and hyphens
stand in the same places. -/
theorem same_characterwise (s t : String) :
    (same s t = true ↔ s.length = t.length ∧
      ∀ (i : ℕ) c d, s.toList[i]? = some c → t.toList[i]? = some d → single c = single d) ∧
    (same s t = true ↔ elementOrder (s.toList.map single) (t.toList.map single) = .eq) ∧
    (same s t = true → s.toList.map isHyphen = t.toList.map isHyphen) := by
  have hproper : ∀ u : List Char, ∀ e ∈ u.map single, e.IsProper :=
    fun u => List.forall_mem_map.2 fun c _ => isProper_single c
  have hsingles : same s t = true ↔ s.toList.map single = t.toList.map single :=
    same_iff_elements.trans elements_eq_iff
  refine ⟨?_, ?_, fun h => ?_⟩
  · rw [hsingles, map_single_eq_iff, String.length_toList, String.length_toList]
  · rw [hsingles, elementOrder_eq_iff (hproper _) (hproper _)]
  · have hhyphen : isHyphen = fun c => decide ((single c).primary = 0) := by
      funext c
      rw [Bool.eq_iff_iff, decide_eq_true_iff]
      exact isHyphen_iff
    have hmap : ∀ u : List Char,
        u.map isHyphen = (u.map single).map fun e => decide (e.primary = 0) := by
      intro u
      rw [List.map_map, hhyphen]
      rfl
    rw [hmap, hmap, hsingles.1 h]

/-- A hyphen and a soft hyphen are the same, within a letter of two
characters too. -/
theorem same_characterwise_of_hyphens :
    same "Nj-ž" "Nj\u00ADž" = true ∧
      "Nj-ž".toList.map isHyphen = "Nj\u00ADž".toList.map isHyphen := by
  obtain ⟨-, -, hhyphens⟩ := same_characterwise "Nj-ž" "Nj\u00ADž"
  have h : same "Nj-ž" "Nj\u00ADž" = true := by decide +kernel
  exact ⟨h, hhyphens h⟩

end Collation

end Cardfile
