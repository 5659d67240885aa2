import Cardfile.Proofs.Text.Pieces
import Cardfile.Proofs.Query.Sentences
/-!
# Query — what stands between quotes

The quotes of a text open and close in turn, and `quotedParts` are the
parts between an opening quote and the closing one. In a sentence with
nothing but white space in its gaps these are the literals of the
conditions (`Sentence.quotedParts_append`), so none of them is empty. A text
that is compiled although it is no such sentence has an empty one, which
the reader passes over like white space (`compiled_isSentence_iff`).
-/

namespace Cardfile

namespace Text

/-- Every second element, the first left out. -/
def everySecond {α : Type} : List α → List α
  | [] => []
  | [_] => []
  | _ :: x :: rest => x :: everySecond rest

end Text

namespace Query

open Text

/-- **The parts between quotes**, each with the quote that opens it and
the one that closes it left out. -/
def quotedParts (text : List Char) : List (List Char) := everySecond (pieces quoteChar text)

section Parts

variable {text rest : List Char}

/-- What stands outside quotes adds no part. -/
theorem quotedParts_append (h : quoteChar ∉ text) :
    quotedParts (text ++ rest) = quotedParts rest := by
  obtain ⟨piece, more, hrest, hpieces⟩ := exists_pieces_append h rest
  rw [quotedParts, quotedParts, hrest, hpieces]
  cases more <;> rfl

theorem quotedParts_eq_nil (h : quoteChar ∉ text) : quotedParts text = [] := by
  rw [← List.append_nil text, quotedParts_append h]
  rfl

/-- What stands between quotes is a part. -/
theorem quotedParts_quoted (h : quoteChar ∉ text) :
    quotedParts (quoteChar :: (text ++ quoteChar :: rest)) = text :: quotedParts rest := by
  obtain ⟨piece, more, hrest, hpieces⟩ := exists_pieces_append h (quoteChar :: rest)
  rw [pieces, if_pos rfl] at hrest
  obtain ⟨rfl, rfl⟩ := List.cons.inj hrest
  rw [quotedParts, pieces, if_pos rfl, hpieces, List.append_nil, everySecond, quotedParts]

/-- **Without an empty part a gap is white space.** -/
theorem Filler.isSpace_of_not_mem {g : List Char} (hg : Filler g)
    (h : [] ∉ quotedParts (g ++ rest)) : IsSpace g ∧ [] ∉ quotedParts rest := by
  induction hg with
  | nil => exact ⟨isSpace_nil, h⟩
  | @blank c g hc _ ih =>
    have hne : c ≠ quoteChar := by
      rintro rfl
      rw [isBlank_quoteChar] at hc
      cases hc
    have hparts : quotedParts ([c] ++ (g ++ rest)) = quotedParts (g ++ rest) :=
      quotedParts_append (List.mem_singleton.not.2 (Ne.symm hne))
    obtain ⟨hspace, hrest⟩ := ih (hparts ▸ h)
    exact ⟨List.forall_mem_cons.2 ⟨hc, hspace⟩, hrest⟩
  | @empty g _ _ =>
    have hparts : quotedParts (quoteChar :: ([] ++ quoteChar :: (g ++ rest))) = [] :: _ :=
      quotedParts_quoted List.not_mem_nil
    exact absurd (hparts ▸ List.mem_cons_self) h

end Parts

/-! ## Texts without a quote -/

section Unquoted

variable {schema : Schema}

theorem IsSpace.quote_not_mem {w : List Char} (h : IsSpace w) : quoteChar ∉ w := by
  intro hmem
  have hblank := h _ hmem
  rw [isBlank_quoteChar] at hblank
  cases hblank

theorem IsAnd.quote_not_mem {word : List Char} (h : IsAnd word) : quoteChar ∉ word := by
  have hall : ∀ word ∈ IsAnd.words, quoteChar ∉ word := by decide
  exact hall word h.mem_words

theorem quote_not_mem_symbol (op : Operator) : quoteChar ∉ op.symbol.toList := by
  cases op <;> decide

/-- No column has a quote in its name. -/
theorem quote_not_mem_name (hschema : schema.Registered) {name : String}
    (h : name ∈ schema.names) : quoteChar ∉ name.toList := by
  intro hmem
  have hword := hschema.isWord name h
  cases hname : name.toList with
  | nil =>
    rw [hname] at hmem
    cases hmem
  | cons c rest =>
    rw [hname, isWord, Bool.and_eq_true, List.all_eq_true] at hword
    have hall : ∀ d ∈ c :: rest, isNamePart d = true :=
      List.forall_mem_cons.2 ⟨isNamePart_of_isNameStart hword.1, hword.2⟩
    have hquote := hall quoteChar (hname ▸ hmem)
    rw [isNamePart_quoteChar] at hquote
    cases hquote

end Unquoted

/-! ## Sentences -/

section Sentences

variable {schema : Schema} {text rest : List Char} {c : Condition}
  {conditions : List Condition}

/-- Without an empty part there is only white space in the gaps of a
condition. -/
theorem Condition.Spelled.isSpace_of_not_mem (hschema : schema.Registered)
    (h : c.Spelled Filler schema text) (hparts : [] ∉ quotedParts (text ++ rest)) :
    c.Spelled IsSpace schema text ∧ [] ∉ quotedParts rest := by
  cases h with
  | @intro name g g' hcolumn hg hg' hlike hne hquote =>
    have hname := quote_not_mem_name hschema (List.mem_of_getElem? hcolumn)
    simp only [List.append_assoc, List.cons_append, List.nil_append] at hparts
    rw [quotedParts_append hname] at hparts
    obtain ⟨hspace, hparts⟩ := hg.isSpace_of_not_mem hparts
    rw [quotedParts_append (quote_not_mem_symbol c.operator)] at hparts
    obtain ⟨hspace', hparts⟩ := hg'.isSpace_of_not_mem hparts
    rw [quotedParts_quoted hquote] at hparts
    exact ⟨.intro hcolumn hspace hspace' hlike hne hquote, (List.mem_cons.not.1 hparts <| .inr ·)⟩

/-- The same of a sentence. -/
theorem Sentence.isSpace_of_not_mem (hschema : schema.Registered)
    (h : Sentence Filler schema conditions text) (hparts : [] ∉ quotedParts (text ++ rest)) :
    Sentence IsSpace schema conditions text ∧ [] ∉ quotedParts rest := by
  induction h generalizing rest with
  | single hspelled =>
    obtain ⟨hspelled, hrest⟩ := hspelled.isSpace_of_not_mem hschema hparts
    exact ⟨.single hspelled, hrest⟩
  | join hspelled hg hword hg' hne _ ih =>
    simp only [List.append_assoc] at hparts
    obtain ⟨hspelled, hparts⟩ := hspelled.isSpace_of_not_mem hschema hparts
    obtain ⟨hspace, hparts⟩ := hg.isSpace_of_not_mem hparts
    rw [quotedParts_append hword.quote_not_mem] at hparts
    obtain ⟨hspace', hparts⟩ := hg'.isSpace_of_not_mem hparts
    obtain ⟨hsentence, hrest⟩ := ih hparts
    exact ⟨.join hspelled hspace hword hspace' hne hsentence, hrest⟩

/-- **And of a text that spells conditions.** -/
theorem Spelled.isSpace_of_not_mem (hschema : schema.Registered)
    (h : Spelled Filler schema conditions text) (hparts : [] ∉ quotedParts text) :
    Spelled IsSpace schema conditions text := by
  obtain ⟨g, sentence, g', hg, hsentence, hg', rfl⟩ := h
  obtain ⟨hspace, hparts⟩ := hg.isSpace_of_not_mem hparts
  obtain ⟨hsentence, hparts⟩ := hsentence.isSpace_of_not_mem hschema hparts
  rw [← List.append_nil g'] at hparts
  obtain ⟨hspace', -⟩ := hg'.isSpace_of_not_mem hparts
  exact ⟨g, sentence, g', hspace, hsentence, hspace', rfl⟩

end Sentences

/-! ## Sentences with white space in their gaps -/

section Spaced

variable {schema : Schema} {text : List Char} {c : Condition} {conditions : List Condition}

/-- The only part of a condition is its literal. -/
theorem Condition.Spelled.quotedParts_append (h : c.Spelled IsSpace schema text)
    (hschema : schema.Registered) (rest : List Char) :
    quotedParts (text ++ rest) = c.literal.toList :: quotedParts rest := by
  cases h with
  | intro hcolumn hg hg' _ _ hquote =>
    have hname := quote_not_mem_name hschema (List.mem_of_getElem? hcolumn)
    simp only [List.append_assoc, List.cons_append, List.nil_append]
    rw [Query.quotedParts_append hname, Query.quotedParts_append hg.quote_not_mem,
      Query.quotedParts_append (quote_not_mem_symbol c.operator),
      Query.quotedParts_append hg'.quote_not_mem, quotedParts_quoted hquote]

/-- A condition has two quotes. -/
theorem Condition.Spelled.count_quoteChar (h : c.Spelled IsSpace schema text)
    (hschema : schema.Registered) : text.count quoteChar = 2 := by
  cases h with
  | intro hcolumn hg hg' _ _ hquote =>
    have hname := quote_not_mem_name hschema (List.mem_of_getElem? hcolumn)
    simp only [List.count_append, List.count_cons_self, List.count_nil,
      List.count_eq_zero.2 hname, List.count_eq_zero.2 hg.quote_not_mem,
      List.count_eq_zero.2 (quote_not_mem_symbol c.operator),
      List.count_eq_zero.2 hg'.quote_not_mem, List.count_eq_zero.2 hquote]

/-- **The parts of a sentence are its literals.** -/
theorem Sentence.quotedParts_append (h : Sentence IsSpace schema conditions text)
    (hschema : schema.Registered) (rest : List Char) :
    quotedParts (text ++ rest) =
      conditions.map (fun c => c.literal.toList) ++ quotedParts rest := by
  induction h with
  | single hspelled => exact hspelled.quotedParts_append hschema rest
  | join hspelled hg hword hg' _ _ ih =>
    simp only [List.append_assoc]
    rw [hspelled.quotedParts_append hschema, Query.quotedParts_append hg.quote_not_mem,
      Query.quotedParts_append hword.quote_not_mem, Query.quotedParts_append hg'.quote_not_mem,
      ih, List.map_cons, List.cons_append]

/-- **A sentence has two quotes for each condition.** -/
theorem Sentence.count_quoteChar (h : Sentence IsSpace schema conditions text)
    (hschema : schema.Registered) : text.count quoteChar = 2 * conditions.length := by
  induction h with
  | single hspelled => exact hspelled.count_quoteChar hschema
  | join hspelled hg hword hg' _ _ ih =>
    simp only [List.count_append, List.length_cons, List.count_eq_zero.2 hg.quote_not_mem,
      List.count_eq_zero.2 hword.quote_not_mem, List.count_eq_zero.2 hg'.quote_not_mem, ih,
      hspelled.count_quoteChar hschema]
    omega

/-- The same of the whole text. -/
theorem Spelled.quotedParts_eq (h : Spelled IsSpace schema conditions text)
    (hschema : schema.Registered) :
    quotedParts text = conditions.map fun c => c.literal.toList := by
  obtain ⟨g, sentence, g', hg, hsentence, hg', rfl⟩ := h
  rw [quotedParts_append hg.quote_not_mem, hsentence.quotedParts_append hschema,
    quotedParts_eq_nil hg'.quote_not_mem, List.append_nil]

theorem Spelled.count_quoteChar (h : Spelled IsSpace schema conditions text)
    (hschema : schema.Registered) : text.count quoteChar = 2 * conditions.length := by
  obtain ⟨g, sentence, g', hg, hsentence, hg', rfl⟩ := h
  rw [List.count_append, List.count_append, List.count_eq_zero.2 hg.quote_not_mem,
    List.count_eq_zero.2 hg'.quote_not_mem, hsentence.count_quoteChar hschema]
  omega

theorem Spelled.nil_not_mem (h : Spelled IsSpace schema conditions text)
    (hschema : schema.Registered) : [] ∉ quotedParts text := by
  intro hmem
  rw [h.quotedParts_eq hschema] at hmem
  obtain ⟨-, sentence, -, -, hsentence, -, -⟩ := h
  obtain ⟨c, hc, hnil⟩ := List.mem_map.1 hmem
  exact (hsentence.isWritable c hc).literal_ne (String.toList_eq_nil_iff.1 hnil)

end Spaced

/-! ## Compiled texts -/

/-- **When a compiled text is a sentence.** It spells its query with
nothing but white space in the gaps, and has two quotes for each condition
and no others, exactly if nothing empty stands between quotes. -/
theorem compiled_isSentence_iff {hash : String → UInt64} {columns : List Column}
    {schema : Schema} {text : String} {q : Query}
    (h : Schema.ofColumnsWith hash columns = .ok schema) (hq : compile schema text = .ok q) :
    (Spelled IsSpace schema q.conditions text.toList ∧
        text.toList.count quoteChar = 2 * q.conditions.length) ↔
      [] ∉ quotedParts text.toList := by
  have hschema := Schema.registered_ofColumnsWith h
  have hspelled := (compile_eq_ok_iff hschema).1 hq
  constructor
  · rintro ⟨hspaced, -⟩
    exact hspaced.nil_not_mem hschema
  · intro hparts
    have hspaced := hspelled.isSpace_of_not_mem hschema hparts
    exact ⟨hspaced, hspaced.count_quoteChar hschema⟩

/-- A query of two conditions, with a quoted `AND` between its quotes. -/
theorem compiled_isSentence_of_two :
    compile keyAndNumber "k = \" AND \"and n>\"1\"" =
        .ok ⟨[⟨0, .equal, " AND "⟩, ⟨1, .greater, "1"⟩]⟩ ∧
      Spelled IsSpace keyAndNumber [⟨0, .equal, " AND "⟩, ⟨1, .greater, "1"⟩]
        "k = \" AND \"and n>\"1\"".toList ∧
      "k = \" AND \"and n>\"1\"".toList.count quoteChar = 2 * 2 := by
  have hq : compile keyAndNumber "k = \" AND \"and n>\"1\"" =
      .ok ⟨[⟨0, .equal, " AND "⟩, ⟨1, .greater, "1"⟩]⟩ := by decide +kernel
  exact ⟨hq, (compiled_isSentence_iff ofColumnsWith_keyAndNumber hq).2 (by decide)⟩

/-- **An empty literal is passed over.** The text has two literals for its
one condition, which no sentence has, and is compiled as if the first were
not there. -/
theorem compiled_of_empty_literal :
    compile keyAndNumber "k=\"\" \"x\"" = .ok ⟨[⟨0, .equal, "x"⟩]⟩ ∧
      "k=\"\" \"x\"".toList.count quoteChar = 4 ∧
      ¬ Spelled IsSpace keyAndNumber [⟨0, .equal, "x"⟩] "k=\"\" \"x\"".toList := by
  have hschema := Schema.registered_ofColumnsWith ofColumnsWith_keyAndNumber
  have hcount : "k=\"\" \"x\"".toList.count quoteChar = 4 := by decide
  refine ⟨by decide +kernel, hcount, fun hspelled => ?_⟩
  rw [hspelled.count_quoteChar hschema] at hcount
  exact absurd hcount (by decide)

end Query

end Cardfile
