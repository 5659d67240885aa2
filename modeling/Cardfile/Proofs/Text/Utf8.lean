import Cardfile.Text.Lines
import Cardfile.Proofs.Outcome
import Cardfile.Proofs.Text.Pieces
import Mathlib
/-!
# Text — encoded texts

The octets of a text are those of its characters. Reading them gives the
text back, and no other octets are read (`decode_eq_ok_iff`). A line feed
and a carriage return are octets that no other character has. So cutting
the octets at line feeds is as good as cutting the text (`pieces_encode`),
and a carriage return ends the octets of a piece where one ends the piece
(`dropLastIf_encode`).
-/

namespace Cardfile

namespace Text

namespace Utf8

/-- The octets of the characters. -/
def encode (s : List Char) : List UInt8 := s.flatMap String.utf8EncodeChar

/-- A text is kept as the octets of its characters. -/
theorem toUTF8_eq_encode (text : String) : text.toUTF8.data.toList = encode text.toList := by
  have hbytes : text.toUTF8 = text.toList.utf8Encode := by
    rw [← String.toByteArray_ofList, String.ofList_toList]
    rfl
  rw [hbytes, List.utf8Encode, List.toList_data_toByteArray]
  rfl

theorem toNat_octet {n : ℕ} (h : n < 0x100) : (UInt8.ofNat n).toNat = n :=
  UInt8.toNat_ofNat_of_lt' h

variable {c : Char}

/-! ## Reading characters -/

theorem scalar?_toNat {least : ℕ} (h : least ≤ c.toNat) : scalar? least c.toNat = some c := by
  rw [scalar?, dif_pos ⟨h, c.valid⟩]
  rfl

theorem continuation?_octet (n : ℕ) :
    continuation? (UInt8.ofNat (n % 0x40 + 0x80)) = some (n % 0x40) := by
  rw [continuation?, toNat_octet (by omega), if_pos (by omega), Nat.add_sub_cancel]

/-- **A character is read from its octets.** -/
theorem character?_encodeChar (c : Char) (rest : List UInt8) :
    character? (String.utf8EncodeChar c ++ rest) = some (c, rest) := by
  have hvalid : c.toNat < 0x110000 := by
    rcases c.valid with h | ⟨-, h⟩
    · exact h.trans (by decide)
    · exact h
  have hval : c.val.toNat = c.toNat := rfl
  rw [String.utf8EncodeChar]
  simp only [hval]
  split_ifs with h₁ h₂ h₃
  · have hlead : c.toNat < 0x100 := by omega
    simp only [List.singleton_append, character?, toNat_octet hlead]
    rw [if_pos (by omega), scalar?_toNat (Nat.zero_le _)]
    rfl
  · have hlead : c.toNat / 0x40 % 0x20 + 0xC0 < 0x100 := by omega
    have hjoin : (c.toNat / 0x40 % 0x20 + 0xC0 - 0xC0) * 64 + c.toNat % 0x40 = c.toNat := by omega
    simp only [List.cons_append, List.nil_append, character?, toNat_octet hlead]
    rw [if_neg (by omega), if_pos (by omega), continuation?_octet]
    simp only [bind, Option.bind_some, hjoin]
    rw [scalar?_toNat (by omega), Option.bind_some]
  · have hlead : c.toNat / 0x1000 % 0x10 + 0xE0 < 0x100 := by omega
    have hjoin : ((c.toNat / 0x1000 % 0x10 + 0xE0 - 0xE0) * 64 + c.toNat / 0x40 % 0x40) * 64 +
        c.toNat % 0x40 = c.toNat := by omega
    simp only [List.cons_append, List.nil_append, character?, toNat_octet hlead]
    rw [if_neg (by omega), if_neg (by omega), if_pos (by omega), continuation?_octet,
      continuation?_octet]
    simp only [bind, Option.bind_some, hjoin]
    rw [scalar?_toNat (by omega), Option.bind_some]
  · have hlead : c.toNat / 0x40000 % 8 + 0xF0 < 0x100 := by omega
    have hjoin : (((c.toNat / 0x40000 % 8 + 0xF0 - 0xF0) * 64 + c.toNat / 0x1000 % 0x40) * 64 +
        c.toNat / 0x40 % 0x40) * 64 + c.toNat % 0x40 = c.toNat := by omega
    simp only [List.cons_append, List.nil_append, character?, toNat_octet hlead]
    rw [if_neg (by omega), if_neg (by omega), if_neg (by omega), if_pos (by omega),
      continuation?_octet, continuation?_octet, continuation?_octet]
    simp only [bind, Option.bind_some, hjoin]
    rw [scalar?_toNat (by omega), Option.bind_some]

theorem scalar?_eq_some {least n : ℕ} (h : scalar? least n = some c) :
    least ≤ n ∧ c.toNat = n := by
  rw [scalar?] at h
  split_ifs at h with hn
  rw [Option.some.injEq] at h
  rw [← h]
  exact ⟨hn.1, rfl⟩

theorem continuation?_eq_some {b : UInt8} {x : ℕ} (h : continuation? b = some x) :
    x < 0x40 ∧ b = UInt8.ofNat (x + 0x80) := by
  rw [continuation?] at h
  split_ifs at h with hb
  rw [Option.some.injEq] at h
  have hx : x + 0x80 = b.toNat := by omega
  rw [hx, UInt8.ofNat_toNat]
  exact ⟨by omega, rfl⟩

theorem octet_eq {a : UInt8} {n : ℕ} (h : a.toNat = n) : a = UInt8.ofNat n := by
  rw [← h, UInt8.ofNat_toNat]

/-- **Nothing else is read as a character.** -/
theorem eq_encodeChar_of_character? {octets rest : List UInt8}
    (h : character? octets = some (c, rest)) : octets = String.utf8EncodeChar c ++ rest := by
  have hval : c.val.toNat = c.toNat := rfl
  rw [String.utf8EncodeChar]
  simp only [hval]
  cases octets with
  | nil => cases h
  | cons a tail =>
    simp only [character?] at h
    split_ifs at h with h₁ h₂ h₃ h₄
    · obtain ⟨c, hscalar, heq⟩ := Option.map_eq_some_iff.1 h
      obtain ⟨rfl, rfl⟩ := Prod.mk.inj heq
      obtain ⟨-, hc⟩ := scalar?_eq_some hscalar
      rw [if_pos (by omega), hc, UInt8.ofNat_toNat, List.singleton_append]
    · split at h
      · simp only [bind, Option.bind_eq_some_iff, Option.some.injEq, Prod.mk.injEq] at h
        obtain ⟨x, hx, c, hscalar, rfl, rfl⟩ := h
        obtain ⟨hleast, hc⟩ := scalar?_eq_some hscalar
        obtain ⟨hlt, rfl⟩ := continuation?_eq_some hx
        have ha : a = UInt8.ofNat (c.toNat / 0x40 % 0x20 + 0xC0) := octet_eq (by omega)
        have hlast : c.toNat % 0x40 = x := by omega
        rw [if_neg (by omega), if_pos (by omega), ← ha, hlast]
        rfl
      · cases h
    · split at h
      · simp only [bind, Option.bind_eq_some_iff, Option.some.injEq, Prod.mk.injEq] at h
        obtain ⟨x, hx, y, hy, c, hscalar, rfl, rfl⟩ := h
        obtain ⟨hleast, hc⟩ := scalar?_eq_some hscalar
        obtain ⟨hltx, rfl⟩ := continuation?_eq_some hx
        obtain ⟨hlty, rfl⟩ := continuation?_eq_some hy
        have ha : a = UInt8.ofNat (c.toNat / 0x1000 % 0x10 + 0xE0) := octet_eq (by omega)
        have hmiddle : c.toNat / 0x40 % 0x40 = x := by omega
        have hlast : c.toNat % 0x40 = y := by omega
        rw [if_neg (by omega), if_neg (by omega), if_pos (by omega), ← ha, hmiddle, hlast]
        rfl
      · cases h
    · split at h
      · simp only [bind, Option.bind_eq_some_iff, Option.some.injEq, Prod.mk.injEq] at h
        obtain ⟨x, hx, y, hy, z, hz, c, hscalar, rfl, rfl⟩ := h
        obtain ⟨hleast, hc⟩ := scalar?_eq_some hscalar
        obtain ⟨hltx, rfl⟩ := continuation?_eq_some hx
        obtain ⟨hlty, rfl⟩ := continuation?_eq_some hy
        obtain ⟨hltz, rfl⟩ := continuation?_eq_some hz
        have ha : a = UInt8.ofNat (c.toNat / 0x40000 % 8 + 0xF0) := octet_eq (by omega)
        have hsecond : c.toNat / 0x1000 % 0x40 = x := by omega
        have hthird : c.toNat / 0x40 % 0x40 = y := by omega
        have hlast : c.toNat % 0x40 = z := by omega
        rw [if_neg (by omega), if_neg (by omega), if_neg (by omega), ← ha, hsecond, hthird, hlast]
        rfl
      · cases h

/-- **A text is read from its octets.** -/
theorem decode_encode (s : List Char) : decode (encode s) = .ok s := by
  have hfrom (offset : ℕ) : decodeFrom offset (encode s) = .ok s := by
    induction s generalizing offset with
    | nil =>
      rw [decodeFrom]
      rfl
    | cons c s ih =>
      have hchar : character? (encode (c :: s)) = some (c, encode s) := by
        rw [encode, List.flatMap_cons]
        exact character?_encodeChar c _
      rw [decodeFrom]
      split
      · next hsome =>
        rw [hchar] at hsome
        cases hsome
        rw [ih]
        rfl
      · next hnone =>
        rw [hchar] at hnone
        cases hnone
  exact hfrom 0

/-- **And nothing else is read**: octets that are read are those of the
text. -/
theorem decode_eq_ok_iff {octets : List UInt8} {s : List Char} :
    decode octets = .ok s ↔ octets = encode s := by
  constructor
  · have hfrom (offset : ℕ) : decodeFrom offset octets = .ok s → octets = encode s := by
      fun_induction decodeFrom offset octets generalizing s with
      | case1 offset octets c rest hchar ih =>
        intro h
        obtain ⟨s, hs, rfl⟩ := map_eq_ok.1 h
        rw [eq_encodeChar_of_character? hchar, ih hs]
        rfl
      | case2 =>
        intro h
        cases h
        rfl
      | case3 => exact nofun
    exact hfrom 0
  · rintro rfl
    exact decode_encode s

/-- So no text but the empty one has no octets. -/
theorem encode_eq_nil {s : List Char} : encode s = [] ↔ s = [] := by
  refine ⟨fun h => ?_, fun h => by rw [h]; rfl⟩
  have hsame : encode s = encode [] := h
  have hdecode := decode_encode s
  rw [hsame, decode_encode, Except.ok.injEq] at hdecode
  exact hdecode.symm

/-! ## Octets of ASCII -/

theorem le_octet {n : ℕ} (h : 0x80 ≤ n) (hlt : n < 0x100) : 0x80 ≤ (UInt8.ofNat n).toNat := by
  rwa [toNat_octet hlt]

/-- **A character of ASCII is its own octet**, and all octets of the others
lie above. -/
theorem encodeChar_cases (c : Char) :
    c.toNat < 0x80 ∧ String.utf8EncodeChar c = [UInt8.ofNat c.toNat] ∨
      0x80 ≤ c.toNat ∧ ∀ b ∈ String.utf8EncodeChar c, 0x80 ≤ b.toNat := by
  have hval : c.val.toNat = c.toNat := rfl
  rw [String.utf8EncodeChar]
  simp only [hval]
  split_ifs with h₁ h₂ h₃
  · exact .inl ⟨by omega, rfl⟩
  all_goals
    refine .inr ⟨by omega, fun b hb => ?_⟩
    simp only [List.mem_cons, List.not_mem_nil, or_false] at hb
  · rcases hb with rfl | rfl <;> exact le_octet (by omega) (by omega)
  · rcases hb with rfl | rfl | rfl <;> exact le_octet (by omega) (by omega)
  · rcases hb with rfl | rfl | rfl | rfl <;> exact le_octet (by omega) (by omega)

/-- The octet of a character of ASCII stands where the character does. -/
theorem octet_mem_encode {k : Char} (hk : k.toNat < 0x80) {s : List Char} :
    UInt8.ofNat k.toNat ∈ encode s ↔ k ∈ s := by
  have hchar : ∀ c, UInt8.ofNat k.toNat ∈ String.utf8EncodeChar c ↔ k = c := by
    intro c
    rcases encodeChar_cases c with ⟨hc, heq⟩ | ⟨hc, hall⟩
    · rw [heq, List.mem_singleton, ← UInt8.toNat_inj, toNat_octet (by omega),
        toNat_octet (by omega), Char.toNat_inj]
    · constructor
      · intro hmem
        have hge := hall _ hmem
        rw [toNat_octet (by omega)] at hge
        omega
      · rintro rfl
        omega
  simp only [encode, List.mem_flatMap, hchar, exists_eq_right']

/-! ## Cutting and dropping -/

theorem encode_append (s t : List Char) : encode (s ++ t) = encode s ++ encode t :=
  List.flatMap_append

theorem encode_intercalate (parts : List (List Char)) :
    encode (['\n'].intercalate parts) = [lineFeed].intercalate (parts.map encode) := by
  induction parts with
  | nil => rfl
  | cons part parts ih =>
    cases parts with
    | nil => simp
    | cons next parts =>
      have hfeed : encode ['\n'] = [lineFeed] := by decide
      simp only [List.map_cons, List.intercalate_cons_cons, encode_append, hfeed] at ih ⊢
      rw [ih]

/-- **Octets are cut at line feeds where the text is.** -/
theorem pieces_encode (s : List Char) :
    pieces lineFeed (encode s) = (pieces '\n' s).map encode := by
  refine pieces_eq_iff.2 ⟨?_, ?_, ?_⟩
  · exact List.map_eq_nil_iff.not.2 (pieces_ne_nil _ s)
  · intro part hpart
    obtain ⟨piece, hpiece, rfl⟩ := List.mem_map.1 hpart
    exact (octet_mem_encode (by decide)).not.2 (not_mem_of_mem_pieces s piece hpiece)
  · rw [← encode_intercalate, join_pieces]

/-- **A carriage return at the end is dropped** from the octets as it is
from the text. -/
theorem dropLastIf_encode (s : List Char) :
    dropLastIf carriageReturn (encode s) = encode (dropLastIf '\r' s) := by
  rcases s.eq_nil_or_concat with rfl | ⟨front, c, rfl⟩
  · rfl
  · rw [List.concat_eq_append, dropLastIf_concat, encode_append]
    split_ifs with hc
    · subst hc
      exact (dropLastIf_concat _ _ _).trans (if_pos rfl)
    · rcases (encode [c]).eq_nil_or_concat with hnil | ⟨octets, b, hlast⟩
      · exact absurd (encode_eq_nil.1 hnil) (List.cons_ne_nil c [])
      -- the last octet is no carriage return, for the character would be one
      have hb : b ≠ carriageReturn := by
        rintro rfl
        have hmem : UInt8.ofNat '\r'.toNat ∈ encode [c] := by
          rw [hlast, List.concat_eq_append]
          exact List.mem_append_right _ List.mem_cons_self
        exact hc (List.mem_singleton.1 ((octet_mem_encode (by decide)).1 hmem)).symm
      rw [encode_append, hlast, List.concat_eq_append, ← List.append_assoc, dropLastIf_concat,
        if_neg hb]

end Utf8

end Text

end Cardfile
