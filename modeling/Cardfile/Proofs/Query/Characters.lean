import Cardfile.Query.Token
import Mathlib.Data.List.TakeWhile
import Mathlib.Tactic.Tauto
/-!
# Query — characters and runs of them

White space, quotes and the characters of operators are told apart from
one another and from the characters of names. So a name ends where any of
these begins, and white space or a quote ends an operator. A run of
characters of one kind ends where the text stops to be of that kind.
-/

namespace Cardfile

namespace Text

/-- The code points of white space, one by one. -/
def blankCodes : List ℕ :=
  blankSpans.flatMap fun s => List.range' s.first (s.last + 1 - s.first)

theorem mem_blankCodes {c : Char} (h : isBlank c = true) : c.toNat ∈ blankCodes := by
  have hasc : Ascending blankSpans := by
    unfold Ascending
    decide
  obtain ⟨s, hs, hfirst, hlast⟩ := (covered_iff hasc (by decide) c.toNat).1 h
  exact List.mem_flatMap.2 ⟨s, hs, List.mem_range'_1.2 ⟨hfirst, by omega⟩⟩

/-- The printed characters of ASCII are no white space. -/
theorem isBlank_of_ascii {c : Char} (hlow : 0x21 ≤ c.toNat) (hhigh : c.toNat ≤ 0x7E) :
    isBlank c = false := by
  have hall : ∀ n ∈ List.range' 0x21 94, covered blankSpans n = false := by decide +kernel
  exact hall _ (List.mem_range'_1.2 ⟨hlow, by omega⟩)

/-- **White space is no part of a name.** -/
theorem isNamePart_of_isBlank {c : Char} (h : isBlank c = true) : isNamePart c = false := by
  have hall : ∀ n ∈ blankCodes,
      covered alphabeticSpans n = false ∧ covered numericSpans n = false ∧ n ≠ '_'.toNat := by
    decide +kernel
  obtain ⟨halpha, hnumeric, hne⟩ := hall _ (mem_blankCodes h)
  have hunderscore : c ≠ '_' := fun hc => hne (hc ▸ rfl)
  simp [isNamePart, isAlphabetic, isNumeric, halpha, hnumeric, hunderscore]

theorem isBlank_of_isNamePart {c : Char} (h : isNamePart c = true) : isBlank c = false := by
  by_contra hblank
  rw [Bool.not_eq_false] at hblank
  rw [isNamePart_of_isBlank hblank] at h
  cases h

end Text

namespace Query

open Text

/-! ## Quotes -/

theorem isBlank_quoteChar : isBlank quoteChar = false := by decide +kernel

theorem isNamePart_quoteChar : isNamePart quoteChar = false := by decide +kernel

/-! ## Operators -/

/-- All operators but one are made of punctuation. -/
theorem isPunctuated_symbol {op : Operator} :
    isPunctuated op.symbol.toList = true ↔ op ≠ .like := by
  cases op <;> decide +kernel

/-- **The characters of operators.** -/
theorem isSymbolChar_iff {c : Char} : isSymbolChar c = true ↔ c ∈ ['=', '!', '<', '>'] := by
  rw [isSymbolChar, List.any_eq_true]
  simp only [Bool.and_eq_true, isPunctuated_symbol, List.contains_iff_mem]
  constructor
  · rintro ⟨op, -, hop, hc⟩
    cases op with
    | like => exact absurd rfl hop
    | equal | notEqual | less | lessOrEqual | greater | greaterOrEqual =>
      simp only [Operator.symbol, String.reduceToList, List.mem_cons, List.not_mem_nil] at hc ⊢
      tauto
  · intro hc
    simp only [List.mem_cons, List.not_mem_nil, or_false] at hc
    rcases hc with rfl | rfl | rfl | rfl
    · exact ⟨.equal, by decide, by decide, by decide⟩
    · exact ⟨.notEqual, by decide, by decide, by decide⟩
    · exact ⟨.less, by decide, by decide, by decide⟩
    · exact ⟨.greater, by decide, by decide, by decide⟩

/-- They are neither white space, nor part of a name, nor a quote. -/
theorem of_isSymbolChar {c : Char} (h : isSymbolChar c = true) :
    isBlank c = false ∧ isNamePart c = false ∧ c ≠ quoteChar := by
  have hmem := isSymbolChar_iff.1 h
  simp only [List.mem_cons, List.not_mem_nil, or_false] at hmem
  rcases hmem with rfl | rfl | rfl | rfl <;> decide +kernel

theorem isSymbolChar_of_isBlank {c : Char} (h : isBlank c = true) : isSymbolChar c = false := by
  by_contra hsymbol
  rw [Bool.not_eq_false] at hsymbol
  rw [(of_isSymbolChar hsymbol).1] at h
  cases h

theorem isSymbolChar_quoteChar : isSymbolChar quoteChar = false := by
  by_contra hsymbol
  rw [Bool.not_eq_false] at hsymbol
  exact (of_isSymbolChar hsymbol).2.2 rfl

/-! ## Runs of characters -/

/-- White space and nothing else. -/
def IsSpace (text : List Char) : Prop := ∀ c ∈ text, isBlank c = true

instance : DecidablePred IsSpace := fun _ => decidable_of_iff _ List.all_eq_true

/-- The text does not begin with such a character. -/
def Stops (p : Char → Bool) (text : List Char) : Prop := ∀ c, text.head? = some c → p c = false

section Runs

variable {p : Char → Bool} {w rest : List Char}

theorem isSpace_nil : IsSpace [] := List.forall_mem_nil _

theorem IsSpace.append {v : List Char} (hv : IsSpace v) (hw : IsSpace w) : IsSpace (v ++ w) :=
  List.forall_mem_append.2 ⟨hv, hw⟩

theorem stops_nil : Stops p [] := nofun

theorem stops_cons {c : Char} : Stops p (c :: rest) ↔ p c = false := by
  simp [Stops]

/-- What stands in front decides, if there is anything. -/
theorem Stops.append (hw : Stops p w) (hrest : w = [] → Stops p rest) : Stops p (w ++ rest) := by
  cases w with
  | nil => exact hrest rfl
  | cons c w => exact stops_cons.2 (stops_cons.1 hw)

theorem IsSpace.stops (hw : IsSpace w) (hp : ∀ {c}, isBlank c = true → p c = false) :
    Stops p w := by
  intro c hc
  exact hp (hw c (List.mem_of_mem_head? hc))

/-- A run ends where the text stops. -/
theorem takeWhile_append (hw : ∀ c ∈ w, p c = true) (hrest : Stops p rest) :
    (w ++ rest).takeWhile p = w := by
  rw [List.takeWhile_append_of_pos hw]
  cases rest with
  | nil => simp
  | cons c rest => simp [stops_cons.1 hrest]

theorem dropWhile_append (hw : ∀ c ∈ w, p c = true) (hrest : Stops p rest) :
    (w ++ rest).dropWhile p = rest := by
  rw [List.dropWhile_append_of_pos hw]
  cases rest with
  | nil => rfl
  | cons c rest => simp [stops_cons.1 hrest]

/-- And what a run leaves does not go on with it. -/
theorem stops_dropWhile (text : List Char) : Stops p (text.dropWhile p) := by
  intro c hc
  have hnot := List.head?_dropWhile_not p text
  rw [hc] at hnot
  exact hnot

theorem trimFront_append (hw : IsSpace w) (hrest : Stops isBlank rest) :
    trimFront (w ++ rest) = rest :=
  dropWhile_append hw hrest

/-- The white space that is trimmed. -/
theorem exists_isSpace_append (text : List Char) :
    ∃ w, IsSpace w ∧ text = w ++ trimFront text :=
  ⟨text.takeWhile isBlank, fun _ hc => List.mem_takeWhile_imp hc,
    List.takeWhile_append_dropWhile.symm⟩

end Runs

end Query

end Cardfile
