import Cardfile.Query.Written
import Cardfile.Proofs.Query.Characters
/-!
# Query — the grammar

What a query is, said without the scanner: one or more conditions joined
by the word `AND`, each of them the name of a column, an operator and a
literal between quotes. What may stand between the tokens is a parameter
`gap`. With `IsSpace` for it this is the language as it is documented,
and with `Filler` it is a little larger. A gap may be empty in all places
but two: after a name in front of `LIKE`, and after `AND`.

The written form of a query is one of its spellings (`sentence_text?`).
-/

namespace Cardfile

namespace Text

/-- Two characters have an ASCII letter for their lower case. -/
theorem asciiLower_eq_iff {upper lower c : Char} (hupper : 'A' ≤ upper ∧ upper ≤ 'Z')
    (hlower : asciiLower upper = lower) : asciiLower c = lower ↔ c = upper ∨ c = lower := by
  have hshift (d : Char) (hd : 'A' ≤ d ∧ d ≤ 'Z') :
      65 ≤ d.toNat ∧ d.toNat ≤ 90 ∧ (asciiLower d).toNat = d.toNat + 32 := by
    have hle : d.toNat ≤ 90 := Char.le_def.1 hd.2
    rw [asciiLower, if_pos hd, Char.ofNat, dif_pos (Or.inl (by omega))]
    exact ⟨Char.le_def.1 hd.1, hle, rfl⟩
  have hu := hshift upper hupper
  rw [hlower] at hu
  by_cases hc : 'A' ≤ c ∧ c ≤ 'Z'
  · have hshifted := hshift c hc
    rw [← Char.toNat_inj, ← Char.toNat_inj, ← Char.toNat_inj]
    omega
  · have hne : c ≠ upper := by
      rintro rfl
      exact hc hupper
    rw [asciiLower, if_neg hc, or_iff_right hne]

end Text

namespace Query

open Text

/-! ## Words and gaps -/

/-- The word `AND`, each letter in either case. -/
def IsAnd (word : List Char) : Prop :=
  ∃ a ∈ ['A', 'a'], ∃ n ∈ ['N', 'n'], ∃ d ∈ ['D', 'd'], word = [a, n, d]

/-- White space, and quotes with nothing between them. -/
inductive Filler : List Char → Prop
  | nil : Filler []
  | blank {c : Char} {text : List Char} : isBlank c = true → Filler text → Filler (c :: text)
  | empty {text : List Char} : Filler text → Filler (quoteChar :: quoteChar :: text)

/-- **These are the words that join conditions.** -/
theorem isConjunction_iff {word : List Char} : isConjunction word = true ↔ IsAnd word := by
  have ha {c : Char} : asciiLower c = 'a' ↔ c ∈ ['A', 'a'] := by
    simpa using asciiLower_eq_iff (by decide) (by decide : asciiLower 'A' = 'a')
  have hn {c : Char} : asciiLower c = 'n' ↔ c ∈ ['N', 'n'] := by
    simpa using asciiLower_eq_iff (by decide) (by decide : asciiLower 'N' = 'n')
  have hd {c : Char} : asciiLower c = 'd' ↔ c ∈ ['D', 'd'] := by
    simpa using asciiLower_eq_iff (by decide) (by decide : asciiLower 'D' = 'd')
  have hand : conjunctionWord.toList.map asciiLower = ['a', 'n', 'd'] := by decide
  rw [isConjunction, sameIgnoringCase, beq_iff_eq, hand]
  constructor
  · intro h
    obtain ⟨a, rest, rfl, hca, h⟩ := List.map_eq_cons_iff.1 h
    obtain ⟨n, rest, rfl, hcn, h⟩ := List.map_eq_cons_iff.1 h
    obtain ⟨d, rest, rfl, hcd, h⟩ := List.map_eq_cons_iff.1 h
    rw [List.map_eq_nil_iff.1 h]
    exact ⟨a, ha.1 hca, n, hn.1 hcn, d, hd.1 hcd, rfl⟩
  · rintro ⟨a, hca, n, hcn, d, hcd, rfl⟩
    rw [List.map_cons, List.map_cons, List.map_cons, List.map_nil, ha.2 hca, hn.2 hcn, hd.2 hcd]

instance : DecidablePred IsAnd := fun _ => decidable_of_iff _ isConjunction_iff

/-- The words that join conditions, one by one. -/
def IsAnd.words : List (List Char) :=
  [['A', 'N', 'D'], ['A', 'N', 'd'], ['A', 'n', 'D'], ['A', 'n', 'd'],
    ['a', 'N', 'D'], ['a', 'N', 'd'], ['a', 'n', 'D'], ['a', 'n', 'd']]

theorem IsAnd.mem_words {word : List Char} (h : IsAnd word) : word ∈ IsAnd.words := by
  obtain ⟨a, ha, n, hn, d, hd, rfl⟩ := h
  simp only [List.mem_cons, List.not_mem_nil, or_false] at ha hn hd
  rcases ha with rfl | rfl <;> rcases hn with rfl | rfl <;> rcases hd with rfl | rfl <;> decide

theorem Filler.of_isSpace {w : List Char} (h : IsSpace w) : Filler w := by
  induction w with
  | nil => exact .nil
  | cons c w ih =>
    obtain ⟨hc, hw⟩ := List.forall_mem_cons.1 h
    exact .blank hc (ih hw)

theorem Filler.append {g g' : List Char} (h : Filler g) (h' : Filler g') : Filler (g ++ g') := by
  induction h with
  | nil => exact h'
  | blank hc _ ih => exact .blank hc ih
  | empty _ ih => exact .empty ih

/-- A gap stops whatever neither white space nor a quote belongs to. -/
theorem Filler.stops {p : Char → Bool} {g : List Char} (h : Filler g)
    (hblank : ∀ {c}, isBlank c = true → p c = false) (hquote : p quoteChar = false) :
    Stops p g := by
  cases h with
  | nil => exact stops_nil
  | blank hc => exact stops_cons.2 (hblank hc)
  | empty => exact stops_cons.2 hquote

/-! ## Conditions and their conjunctions -/

/-- **The text of a condition** under the schema. -/
inductive Condition.Spelled (gap : List Char → Prop) (schema : Schema) :
    Condition → List Char → Prop
  | intro {c : Condition} {name : String} {g g' : List Char} :
      schema.names[c.column]? = some name → gap g → gap g' → (c.operator = .like → g ≠ []) →
      c.literal ≠ "" → quoteChar ∉ c.literal.toList →
      Spelled gap schema c
        (name.toList ++ (g ++ (c.operator.symbol.toList ++
          (g' ++ quoteChar :: (c.literal.toList ++ [quoteChar])))))

/-- **The text of conditions joined by `AND`.** -/
inductive Sentence (gap : List Char → Prop) (schema : Schema) :
    List Condition → List Char → Prop
  | single {c : Condition} {text : List Char} :
      c.Spelled gap schema text → Sentence gap schema [c] text
  | join {c : Condition} {rest : List Condition} {text g word g' more : List Char} :
      c.Spelled gap schema text → gap g → IsAnd word → gap g' → g' ≠ [] →
      Sentence gap schema rest more →
      Sentence gap schema (c :: rest) (text ++ (g ++ (word ++ (g' ++ more))))

/-- **The text spells the conditions**, in this order and no others. -/
def Spelled (gap : List Char → Prop) (schema : Schema) (conditions : List Condition)
    (text : List Char) : Prop :=
  ∃ g sentence g', gap g ∧ Sentence gap schema conditions sentence ∧ gap g' ∧
    text = g ++ (sentence ++ g')

section Mono

variable {gap gap' : List Char → Prop} {schema : Schema} {c : Condition}
  {conditions : List Condition} {text : List Char}

theorem Condition.Spelled.mono (h : c.Spelled gap schema text) (hgap : ∀ {g}, gap g → gap' g) :
    c.Spelled gap' schema text := by
  obtain ⟨hname, hg, hg', hlike, hliteral, hquote⟩ := h
  exact ⟨hname, hgap hg, hgap hg', hlike, hliteral, hquote⟩

theorem Sentence.mono (h : Sentence gap schema conditions text) (hgap : ∀ {g}, gap g → gap' g) :
    Sentence gap' schema conditions text := by
  induction h with
  | single hc => exact .single (hc.mono hgap)
  | join hc hg hword hg' hne _ ih =>
    exact .join (hc.mono hgap) (hgap hg) hword (hgap hg') hne ih

theorem Spelled.mono (h : Spelled gap schema conditions text) (hgap : ∀ {g}, gap g → gap' g) :
    Spelled gap' schema conditions text := by
  obtain ⟨g, sentence, g', hg, hsentence, hg', rfl⟩ := h
  exact ⟨g, sentence, g', hgap hg, hsentence.mono hgap, hgap hg', rfl⟩

end Mono

section Conditions

variable {gap : List Char → Prop} {schema : Schema} {c : Condition} {conditions : List Condition}
  {text : List Char}

/-- A condition on a column of the schema, with a literal that can stand
between quotes. -/
structure Condition.IsWritable (schema : Schema) (c : Condition) : Prop where
  column_lt : c.column < schema.width
  literal_ne : c.literal ≠ ""
  quote_not_mem : quoteChar ∉ c.literal.toList

theorem Condition.Spelled.isWritable (h : c.Spelled gap schema text) : c.IsWritable schema := by
  cases h with
  | intro hname _ _ _ hne hquote =>
    have hlt := (List.getElem?_eq_some_iff.1 hname).1
    rw [Schema.names, List.length_map] at hlt
    exact ⟨hlt, hne, hquote⟩

/-- **Conditions that are spelled can be written.** -/
theorem Sentence.isWritable (h : Sentence gap schema conditions text) :
    ∀ c ∈ conditions, c.IsWritable schema := by
  induction h with
  | single hc => exact List.forall_mem_singleton.2 hc.isWritable
  | join hc _ _ _ _ _ ih => exact List.forall_mem_cons.2 ⟨hc.isWritable, ih⟩

/-- There is one at least. -/
theorem Sentence.ne_nil (h : Sentence gap schema conditions text) : conditions ≠ [] := by
  cases h <;> exact List.cons_ne_nil _ _

end Conditions

/-! ## The written form -/

section WrittenForm

variable {schema : Schema}

theorem isSpace_space : IsSpace [' '] := by
  intro c hc
  rw [List.mem_singleton.1 hc]
  decide

/-- The word as it is written. -/
theorem isAnd_conjunctionWord : IsAnd conjunctionWord.toList :=
  ⟨'A', by decide, 'N', by decide, 'D', by decide, rfl⟩

/-- A condition that can be written is, and its written form spells it. -/
theorem Condition.IsWritable.spelled_text? {c : Condition} (h : c.IsWritable schema) :
    ∃ text, c.text? schema = some text ∧ c.Spelled IsSpace schema text.toList := by
  have hlength : c.column < schema.names.length := by
    rw [Schema.names, List.length_map]
    exact h.column_lt
  have hname : schema.names[c.column]? = some schema.names[c.column] :=
    List.getElem?_eq_getElem hlength
  have hspelled := Condition.Spelled.intro hname isSpace_space isSpace_space
    (fun _ => List.cons_ne_nil _ _) h.literal_ne h.quote_not_mem
  refine ⟨_, by rw [Condition.text?, hname, Option.map_some], ?_⟩
  simpa [quotedLiteral] using hspelled

/-- **The written form of conditions is a sentence.** -/
theorem sentence_text? {conditions : List Condition} (hne : conditions ≠ [])
    (h : ∀ c ∈ conditions, c.IsWritable schema) :
    ∃ text, text? schema ⟨conditions⟩ = some text ∧
      Sentence IsSpace schema conditions text.toList := by
  suffices hsuff : ∃ texts, conditions.mapM (Condition.text? schema) = some texts ∧
      Sentence IsSpace schema conditions
        ((" " ++ conjunctionWord ++ " ").intercalate texts).toList by
    obtain ⟨texts, htexts, hsentence⟩ := hsuff
    exact ⟨_, by rw [text?, htexts, Option.map_some], hsentence⟩
  induction conditions with
  | nil => exact absurd rfl hne
  | cons c rest ih =>
    obtain ⟨hc, hrest⟩ := List.forall_mem_cons.1 h
    obtain ⟨first, hfirst, hspelled⟩ := hc.spelled_text?
    cases rest with
    | nil =>
      refine ⟨[first], by rw [List.mapM_cons, hfirst, List.mapM_nil]; rfl, ?_⟩
      rw [String.intercalate_singleton]
      exact .single hspelled
    | cons d rest =>
      obtain ⟨texts, htexts, hsentence⟩ := ih (List.cons_ne_nil _ _) hrest
      refine ⟨first :: texts, by rw [List.mapM_cons, hfirst, htexts]; rfl, ?_⟩
      have hjoined := Sentence.join hspelled isSpace_space isAnd_conjunctionWord isSpace_space
        (List.cons_ne_nil _ _) hsentence
      cases texts with
      | nil =>
        rw [List.mapM_cons] at htexts
        obtain ⟨second, -, htexts⟩ := Option.bind_eq_some_iff.1 htexts
        obtain ⟨others, -, htexts⟩ := Option.bind_eq_some_iff.1 htexts
        cases htexts
      | cons second others =>
        rw [String.intercalate_cons_cons]
        simpa using hjoined

end WrittenForm

end Query

end Cardfile
