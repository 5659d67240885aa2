import Cardfile.Schema.Basic
import Cardfile.Query.Scanner
import Cardfile.Proofs.Query.Characters
/-!
# Query — what is read as a token

`Reads` says what stands at the front of a text when a token is read from
it: white space, which only counts outside literals, and then the
characters of the token. A name is read as far as it goes, and so is an
operator. The scanner reads just that (`next_of_reads`, `reads_of_next`),
and it reads the end where nothing but white space is left.
-/

namespace Cardfile

namespace Query

open Text

/-- The word is written for the token outside literals, with the text
after it. -/
inductive Bare : Token → List Char → List Char → Prop
  /-- A word: a name, a conjunction, or the operator that is a word. -/
  | word {word rest : List Char} :
      isWord word = true → Stops isNamePart rest → Bare (wordToken word) word rest
  /-- An operator made of punctuation, unless it goes on. -/
  | symbol {op : Operator} {rest : List Char} :
      op ≠ .like → (op.symbol.length = 1 → Stops isSymbolChar rest) →
      Bare (.operator op.symbol) op.symbol.toList rest

/-- **What is read as a token**, and the text that is left then. -/
inductive Reads : Mode → List Char → Token → List Char → Prop
  /-- A token outside literals that is no quote. -/
  | bare {t : Token} {w word rest : List Char} :
      IsSpace w → Bare t word rest → Reads .plain (w ++ (word ++ rest)) t rest
  /-- A quote outside literals. -/
  | opening {w rest : List Char} :
      IsSpace w → Reads .plain (w ++ quoteChar :: rest) .quote rest
  /-- The quote right after a literal, or in place of one. -/
  | closing {rest : List Char} : Reads .quoted (quoteChar :: rest) .quote rest
  /-- The text of a literal. -/
  | literal {text rest : List Char} :
      text ≠ [] → quoteChar ∉ text →
      Reads .quoted (text ++ quoteChar :: rest) (.literal (String.ofList text)) (quoteChar :: rest)

/-! ## Operators of punctuation -/

theorem ofSymbol?_symbol (op : Operator) : Operator.ofSymbol? op.symbol = some op := by
  cases op <;> decide

/-- An operator is found by the way it is written. -/
theorem symbol_of_ofSymbol? {symbol : String} {op : Operator}
    (h : Operator.ofSymbol? symbol = some op) : op.symbol = symbol := by
  have hfound := List.find?_some h
  simpa using hfound

/-- An operator of punctuation has one character, or an equals sign after
it. -/
theorem toList_symbol {op : Operator} (hop : op ≠ .like) :
    ∃ c, isSymbolChar c = true ∧ (op.symbol.toList = [c] ∨ op.symbol.toList = [c, '=']) := by
  cases op with
  | like => exact absurd rfl hop
  | equal => exact ⟨'=', isSymbolChar_iff.2 (by decide), .inl (by decide)⟩
  | notEqual => exact ⟨'!', isSymbolChar_iff.2 (by decide), .inr (by decide)⟩
  | less => exact ⟨'<', isSymbolChar_iff.2 (by decide), .inl (by decide)⟩
  | lessOrEqual => exact ⟨'<', isSymbolChar_iff.2 (by decide), .inr (by decide)⟩
  | greater => exact ⟨'>', isSymbolChar_iff.2 (by decide), .inl (by decide)⟩
  | greaterOrEqual => exact ⟨'>', isSymbolChar_iff.2 (by decide), .inr (by decide)⟩

/-- **An operator is read as far as it goes.** -/
theorem symbolFrom_eq {op : Operator} {rest : List Char} (hop : op ≠ .like)
    (hstop : op.symbol.length = 1 → Stops isSymbolChar rest) :
    ∃ c more, op.symbol.toList = c :: more ∧ isSymbolChar c = true ∧
      Scanner.symbolFrom c (more ++ rest) = c :: more := by
  obtain ⟨c, hc, hone | htwo⟩ := toList_symbol hop
  · refine ⟨c, [], hone, hc, ?_⟩
    have hrest : Stops isSymbolChar rest := hstop (by rw [← String.length_toList, hone]; rfl)
    cases rest with
    | nil => rfl
    | cons d rest => simp [Scanner.symbolFrom, stops_cons.1 hrest]
  · refine ⟨c, ['='], htwo, hc, ?_⟩
    simp [Scanner.symbolFrom, isSymbolChar_iff]

theorem symbolFrom_append_drop (c : Char) (rest : List Char) :
    Scanner.symbolFrom c rest ++ (c :: rest).drop (Scanner.symbolFrom c rest).length =
      c :: rest := by
  have hpart : Scanner.symbolFrom c rest <+: c :: rest :=
    (List.prefix_cons_inj c).2 ((List.takeWhile_prefix _).trans (List.take_prefix 1 rest))
  exact List.prefix_iff_eq_append.1 hpart

/-- What is read as an operator is one, and it does not go on. -/
theorem of_symbolFrom {op : Operator} {c : Char} {rest : List Char} (hc : isSymbolChar c = true)
    (h : op.symbol = String.ofList (Scanner.symbolFrom c rest)) :
    op ≠ .like ∧
      (op.symbol.length = 1 →
        Stops isSymbolChar ((c :: rest).drop (Scanner.symbolFrom c rest).length)) := by
  have hlist : op.symbol.toList = Scanner.symbolFrom c rest := by
    rw [h, String.toList_ofList]
  refine ⟨?_, fun hone => ?_⟩
  · rintro rfl
    have hhead := congrArg List.head? hlist
    rw [Scanner.symbolFrom, List.head?_cons] at hhead
    have hL : c = 'L' := (Option.some.inj hhead).symm
    rw [isSymbolChar_iff, hL] at hc
    exact absurd hc (by decide)
  · rw [← String.length_toList, hlist] at hone
    rw [hone, List.drop_succ_cons, List.drop_zero]
    cases rest with
    | nil => exact stops_nil
    | cons d rest =>
      refine stops_cons.2 ?_
      by_contra hd
      rw [Bool.not_eq_false] at hd
      simp [Scanner.symbolFrom, hd] at hone

/-! ## The scanner -/

namespace Scanner

/-- A scanner in front of the text. -/
def before (mode : Mode) (text : List Char) : Scanner := { rest := text, mode }

variable {mode : Mode} {text rest : List Char} {t : Token} {s' : Scanner}

theorem next_plain : (before .plain text).next = (before .plain text).plainNext := rfl

theorem next_quoted : (before .quoted text).next = (before .quoted text).quotedNext := rfl

/-- Outside literals white space in front does not matter. -/
theorem next_isSpace_append {w : List Char} (hw : IsSpace w) :
    (before .plain (w ++ text)).next = (before .plain text).next := by
  obtain ⟨v, hv, htext⟩ := exists_isSpace_append text
  have htrim : trimFront (w ++ text) = trimFront text := by
    have hstop : Stops isBlank (trimFront text) := stops_dropWhile text
    rw [htext, ← List.append_assoc, trimFront_append (hw.append hv) hstop, trimFront_append hv hstop]
  rw [next_plain, next_plain]
  simp only [plainNext, before, htrim, upTo]

/-- **The end is read** where nothing but white space is left. -/
theorem next_isSpace {w : List Char} (hw : IsSpace w) :
    (before .plain w).next = (.ok .finish, { before .plain [] with finished := true }) := by
  rw [← List.append_nil w, next_isSpace_append hw]
  rfl

/-- A token outside literals is read without white space in front. -/
theorem next_of_bare {word : List Char} (h : Bare t word rest) :
    (before .plain (word ++ rest)).next = (.ok t, before .plain rest) := by
  cases h with
  | word hword hstop =>
    cases word with
    | nil => cases hword
    | cons c word =>
      rw [isWord, Bool.and_eq_true, List.all_eq_true] at hword
      have hblank : isBlank c = false :=
        isBlank_of_isNamePart (isNamePart_of_isNameStart hword.1)
      have htrim : trimFront (c :: (word ++ rest)) = c :: (word ++ rest) :=
        trimFront_append isSpace_nil (stops_cons.2 hblank)
      rw [next_plain]
      simp only [plainNext, before, List.cons_append, htrim, hword.1, if_true,
        takeWhile_append hword.2 hstop, dropWhile_append hword.2 hstop, upTo]
  | @symbol op _ hop hstop =>
    obtain ⟨c, more, hsymbol, hc, hfrom⟩ := symbolFrom_eq hop hstop
    obtain ⟨hblank, hpart, -⟩ := of_isSymbolChar hc
    have hstart : isNameStart c = false := by
      by_contra hstart
      rw [Bool.not_eq_false] at hstart
      rw [isNamePart_of_isNameStart hstart] at hpart
      cases hpart
    have htoken : operatorToken (c :: more) = .ok (.operator op.symbol) := by
      rw [operatorToken, ← hsymbol, String.ofList_toList, ofSymbol?_symbol]
    have htrim : trimFront (c :: (more ++ rest)) = c :: (more ++ rest) :=
      trimFront_append isSpace_nil (stops_cons.2 hblank)
    rw [hsymbol, next_plain]
    simp [plainNext, before, htrim, hstart, hc, hfrom, htoken, upTo]

/-- **What stands there is read.** -/
theorem next_of_reads (h : Reads mode text t rest) :
    (before mode text).next = (.ok t, before mode rest) := by
  cases h with
  | bare hw hbare => rw [next_isSpace_append hw, next_of_bare hbare]
  | @opening w rest hw =>
    have hstart : isNameStart quoteChar = false := by decide +kernel
    have htrim : trimFront (quoteChar :: rest) = quoteChar :: rest :=
      trimFront_append isSpace_nil (stops_cons.2 isBlank_quoteChar)
    rw [next_isSpace_append hw, next_plain]
    simp [plainNext, before, htrim, hstart, isSymbolChar_quoteChar, upTo]
  | closing =>
    rw [next_quoted]
    simp [quotedNext, before, upTo]
  | @literal text rest hne hquote =>
    have hrun : ∀ c ∈ text, (c != quoteChar) = true := by
      intro c hc
      rw [bne_iff_ne]
      rintro rfl
      exact hquote hc
    have hstop : Stops (· != quoteChar) (quoteChar :: rest) := stops_cons.2 (by simp)
    have hempty : ¬ text.isEmpty = true := by simpa using hne
    rw [next_quoted]
    simp only [quotedNext, before, takeWhile_append hrun hstop,
      dropWhile_append hrun hstop, if_neg hempty, upTo]

/-- **What is read stands there**, and only the end is read where nothing
does. -/
theorem reads_of_next (h : (before mode text).next = (.ok t, s')) :
    (t = .finish ∧ mode = .plain ∧ IsSpace text) ∨
      ∃ rest, s' = before mode rest ∧ Reads mode text t rest := by
  cases mode with
  | plain =>
    obtain ⟨w, hw, htext⟩ := exists_isSpace_append text
    rw [next_plain] at h
    simp only [plainNext, before] at h
    cases htrim : trimFront text with
    | nil =>
      rw [htrim] at h
      cases h
      rw [htrim, List.append_nil] at htext
      exact .inl ⟨rfl, rfl, htext ▸ hw⟩
    | cons c rest =>
      rw [htrim] at h htext
      simp only at h
      right
      split_ifs at h with hstart hsymbol hquote
      · -- a word
        cases h
        refine ⟨_, rfl, ?_⟩
        have hword : isWord (c :: rest.takeWhile isNamePart) = true := by
          rw [isWord, hstart, Bool.true_and, List.all_eq_true]
          exact fun _ hd => List.mem_takeWhile_imp hd
        have hreads := Reads.bare hw (.word hword (stops_dropWhile rest))
        rwa [List.cons_append, List.takeWhile_append_dropWhile, ← htext] at hreads
      · -- an operator of punctuation
        obtain ⟨htoken, rfl⟩ := Prod.mk.inj h
        rw [operatorToken] at htoken
        split at htoken
        · rename_i op hop
          cases htoken
          refine ⟨_, rfl, ?_⟩
          have hname := symbol_of_ofSymbol? hop
          obtain ⟨hlike, hstop⟩ := of_symbolFrom hsymbol hname
          have hreads := Reads.bare hw (.symbol hlike hstop)
          have hlist : op.symbol.toList ++ (c :: rest).drop (symbolFrom c rest).length =
              c :: rest := by
            rw [hname, String.toList_ofList, symbolFrom_append_drop]
          rwa [hlist, ← htext] at hreads
        · cases htoken
      · -- a quote
        cases h
        subst hquote
        refine ⟨_, rfl, ?_⟩
        rw [htext]
        exact .opening hw
      · cases h
  | quoted =>
    right
    have hsplit : text.takeWhile (· != quoteChar) ++ text.dropWhile (· != quoteChar) = text :=
      List.takeWhile_append_dropWhile
    have hstop : Stops (· != quoteChar) (text.dropWhile (· != quoteChar)) := stops_dropWhile text
    rw [next_quoted] at h
    simp only [quotedNext, before] at h
    cases hdrop : text.dropWhile (· != quoteChar) with
    | nil =>
      rw [hdrop] at h
      cases h
    | cons c rest =>
      rw [hdrop] at h hsplit hstop
      have hc : c = quoteChar := by simpa using stops_cons.1 hstop
      subst hc
      by_cases hempty : text.takeWhile (· != quoteChar) = []
      · rw [hempty, List.nil_append] at hsplit
        simp only [hempty, List.isEmpty_nil, if_true, upTo] at h
        cases h
        rw [← hsplit]
        exact ⟨rest, rfl, .closing⟩
      · simp only [List.isEmpty_iff, if_neg hempty, upTo] at h
        cases h
        refine ⟨_, rfl, ?_⟩
        have hquote : quoteChar ∉ text.takeWhile (· != quoteChar) := by
          intro hmem
          simpa using List.mem_takeWhile_imp hmem
        have hreads : Reads .quoted (text.takeWhile (· != quoteChar) ++ quoteChar :: rest) _ _ :=
          .literal hempty hquote
        rwa [hsplit] at hreads

end Scanner

end Query

end Cardfile
