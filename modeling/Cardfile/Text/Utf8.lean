/-!
# Text — UTF-8

Octets are read one character at a time. `character?` accepts exactly one
well-formed sequence at the front: no overlong form, no surrogate, nothing
above U+10FFFF. `decode` reads octets to the end, or says how many stand
before the first character that is not well formed.
-/

namespace Cardfile

namespace Text

namespace Utf8

/-- The six bits that a continuation octet carries. -/
def continuation? (b : UInt8) : Option Nat :=
  if 0x80 ≤ b.toNat ∧ b.toNat < 0xC0 then some (b.toNat - 0x80) else none

/-- The character of a code point, if the code point needs at least
`least` and is a scalar value. -/
def scalar? (least n : Nat) : Option Char :=
  if h : least ≤ n ∧ n.isValidChar then some (Char.ofNatAux n h.2) else none

/-- The character that the octets begin with, and the octets after it. -/
def character? : List UInt8 → Option (Char × List UInt8)
  | [] => none
  | a :: rest =>
    let lead := a.toNat
    if lead < 0x80 then
      (scalar? 0 lead).map (·, rest)
    else if 0xC0 ≤ lead ∧ lead < 0xE0 then
      match rest with
      | b :: rest => do
        let x ← continuation? b
        let c ← scalar? 0x80 ((lead - 0xC0) * 64 + x)
        some (c, rest)
      | _ => none
    else if 0xE0 ≤ lead ∧ lead < 0xF0 then
      match rest with
      | b :: c :: rest => do
        let x ← continuation? b
        let y ← continuation? c
        let c ← scalar? 0x800 (((lead - 0xE0) * 64 + x) * 64 + y)
        some (c, rest)
      | _ => none
    else if 0xF0 ≤ lead ∧ lead < 0xF8 then
      match rest with
      | b :: c :: d :: rest => do
        let x ← continuation? b
        let y ← continuation? c
        let z ← continuation? d
        let c ← scalar? 0x10000 ((((lead - 0xF0) * 64 + x) * 64 + y) * 64 + z)
        some (c, rest)
      | _ => none
    else none

/-- A character takes at least one octet. -/
theorem length_lt_of_character? {octets rest : List UInt8} {c : Char}
    (h : character? octets = some (c, rest)) : rest.length < octets.length := by
  cases octets with
  | nil => simp [character?] at h
  | cons a tail =>
    simp only [character?] at h
    split at h
    · obtain ⟨_, _, heq⟩ := Option.map_eq_some_iff.1 h
      obtain ⟨-, rfl⟩ := Prod.mk.inj heq
      simp
    split at h
    · split at h
      · simp only [bind, Option.bind_eq_some_iff, Option.some.injEq, Prod.mk.injEq] at h
        obtain ⟨_, _, _, _, _, rfl⟩ := h
        simp only [List.length_cons]
        omega
      · cases h
    split at h
    · split at h
      · simp only [bind, Option.bind_eq_some_iff, Option.some.injEq, Prod.mk.injEq] at h
        obtain ⟨_, _, _, _, _, _, _, rfl⟩ := h
        simp only [List.length_cons]
        omega
      · cases h
    split at h
    · split at h
      · simp only [bind, Option.bind_eq_some_iff, Option.some.injEq, Prod.mk.injEq] at h
        obtain ⟨_, _, _, _, _, _, _, _, _, rfl⟩ := h
        simp only [List.length_cons]
        omega
      · cases h
    · cases h

/-- The characters of the octets from `offset` on, or the offset of the
first octet that begins no well-formed character. -/
def decodeFrom (offset : Nat) (octets : List UInt8) : Except Nat (List Char) :=
  match _h : character? octets with
  | some (c, rest) =>
    (decodeFrom (offset + c.utf8Size) rest).map (c :: ·)
  | none => if octets = [] then .ok [] else .error offset
  termination_by octets.length
  decreasing_by exact length_lt_of_character? _h

/-- The characters of the octets, or the length of their longest
well-formed beginning. -/
def decode (octets : List UInt8) : Except Nat (List Char) := decodeFrom 0 octets

end Utf8

end Text

end Cardfile
