import Cardfile.Proofs.Schema.Names
import Cardfile.Proofs.Query.Phrases
import Mathlib
/-!
# Query — what is compiled

A text is compiled to a query just when it spells the conditions of the
query, with `Filler` in its gaps (`compile_eq_ok_iff`). So every spelling
with white space in its gaps is compiled to what it spells
(`compile_of_spelled`).
-/

namespace Cardfile

namespace Query

open Text

variable {schema : Schema}

/-! ## Tokens and their texts -/

section Tokens

variable {text rest : List Char} {t : Token} {ts : List Token}

/-- **The name of a field stands there as it is.** -/
theorem Phrased.of_field (h : Phrased text (t :: ts)) (hkind : t.kind = .field) :
    ∃ g rest, Filler g ∧ isWord t.text.toList = true ∧ Stops isNamePart rest ∧
      Phrased rest ts ∧ text = g ++ (t.text.toList ++ rest) := by
  cases h with
  | literal => cases hkind
  | @bare g word rest _ _ hg hbare hrest =>
    cases hbare with
    | symbol => cases hkind
    | word hword hstop =>
      obtain ⟨-, htoken⟩ | ⟨-, htoken⟩ | htoken := wordToken_cases word <;>
        rw [htoken] at hkind ⊢
      · cases hkind
      · cases hkind
      · have htext : (Token.field (String.ofList word)).text.toList = word :=
          String.toList_ofList
        rw [htext]
        exact ⟨g, rest, hg, hword, hstop, hrest, rfl⟩

/-- **And so does an operator.** -/
theorem Phrased.of_operator (h : Phrased text (t :: ts)) (hkind : t.kind = .operator) :
    ∃ g rest, Filler g ∧ Phrased rest ts ∧ text = g ++ (t.text.toList ++ rest) := by
  cases h with
  | literal => cases hkind
  | @bare g word rest _ _ hg hbare hrest =>
    cases hbare with
    | symbol => exact ⟨g, rest, hg, hrest, rfl⟩
    | word hword hstop =>
      obtain ⟨-, htoken⟩ | ⟨rfl, htoken⟩ | htoken := wordToken_cases word <;>
        rw [htoken] at hkind ⊢
      · cases hkind
      · exact ⟨g, rest, hg, hrest, rfl⟩
      · cases hkind

/-- A conjunction stands there in one case or the other. -/
theorem Phrased.of_conjunction (h : Phrased text (t :: ts)) (hkind : t.kind = .conjunction) :
    ∃ g word rest, Filler g ∧ IsAnd word ∧ Stops isNamePart rest ∧ Phrased rest ts ∧
      text = g ++ (word ++ rest) := by
  cases h with
  | literal => cases hkind
  | @bare g word rest _ _ hg hbare hrest =>
    cases hbare with
    | symbol => cases hkind
    | word hword hstop =>
      obtain ⟨hand, htoken⟩ | ⟨-, htoken⟩ | htoken := wordToken_cases word <;>
        rw [htoken] at hkind
      · exact ⟨g, word, rest, hg, hand, hstop, hrest, rfl⟩
      · cases hkind
      · cases hkind

/-- A literal stands there between its quotes. -/
theorem Phrased.of_literal (h : Phrased text (t :: ts)) (hkind : t.kind = .literal) :
    ∃ g rest, Filler g ∧ t.text ≠ "" ∧ quoteChar ∉ t.text.toList ∧ Phrased rest ts ∧
      text = g ++ quoteChar :: (t.text.toList ++ quoteChar :: rest) := by
  cases h with
  | @bare g word rest _ _ hg hbare hrest =>
    cases hbare with
    | symbol => cases hkind
    | word =>
      obtain ⟨-, htoken⟩ | ⟨-, htoken⟩ | htoken := wordToken_cases word <;>
        rw [htoken] at hkind <;> cases hkind
  | @literal g l rest _ hg hne hquote hrest =>
    have htext : (Token.literal (String.ofList l)).text.toList = l := String.toList_ofList
    have hnonempty : (Token.literal (String.ofList l)).text ≠ "" := by
      intro hempty
      rw [hempty] at htext
      exact hne htext.symm
    rw [htext]
    exact ⟨g, rest, hg, hnonempty, hquote, hrest, rfl⟩

end Tokens

/-! ## Conditions and their tokens -/

section Conditions

variable {text rest spelled : List Char} {t field operator literal : Token}
  {ts gathered : List Token} {c : Condition} {conditions : List Condition}

/-- **Three tokens spell a condition**, each of them of its kind. -/
theorem conditionOf_eq_ok :
    conditionOf schema ts = .ok c ↔
      ∃ field operator literal : Token, ts = [field, operator, literal] ∧
        field.kind = .field ∧ operator.kind = .operator ∧ literal.kind = .literal ∧
        schema.place? field.text = some c.column ∧
        Operator.ofSymbol? operator.text = some c.operator ∧ literal.text = c.literal := by
  constructor
  · intro h
    match ts, h with
    | [], h | [_], h | [_, _], h | _ :: _ :: _ :: _ :: _, h => cases h
    | [field, operator, literal], h =>
      rw [conditionOf] at h
      split_ifs at h with hfield hoperator hliteral
      refine ⟨field, operator, literal, rfl, not_not.1 hfield, not_not.1 hoperator,
        not_not.1 hliteral, ?_⟩
      split at h
      · cases h
      · cases h
      · next column op hcolumn hop =>
        cases h
        exact ⟨hcolumn, hop, rfl⟩
  · rintro ⟨field, operator, literal, rfl, hfield, hoperator, hliteral, hcolumn, hop, hvalue⟩
    rw [conditionOf, if_neg (not_not.2 hfield), if_neg (not_not.2 hoperator),
      if_neg (not_not.2 hliteral), hcolumn, hop, hvalue]

/-- The tokens of a condition are gathered. -/
theorem conditionsOf_condition (h : conditionOf schema [field, operator, literal] = .ok c) :
    conditionsOf schema [] (field :: operator :: literal :: ts) =
      conditionsOf schema [field, operator, literal] ts := by
  obtain ⟨_, _, _, htokens, hfield, hoperator, hliteral, -⟩ := conditionOf_eq_ok.1 h
  cases htokens
  rw [conditionsOf, if_neg (by rw [hfield]; decide), conditionsOf,
    if_neg (by rw [hoperator]; decide), conditionsOf, if_neg (by rw [hliteral]; decide)]
  rfl

/-- **Conditions are read up to the first conjunction**, and on from
there. -/
theorem conditionsOf_eq_ok (h : conditionsOf schema gathered ts = .ok conditions) :
    ∃ c, (conditionOf schema (gathered ++ ts) = .ok c ∧ conditions = [c]) ∨
      ∃ before t after more, ts = before ++ t :: after ∧ t.kind = .conjunction ∧
        conditionOf schema (gathered ++ before) = .ok c ∧
        conditionsOf schema [] after = .ok more ∧ conditions = c :: more := by
  induction ts generalizing gathered with
  | nil =>
    obtain ⟨c, hc, rfl⟩ := map_eq_ok.1 h
    exact ⟨c, .inl ⟨by rwa [List.append_nil], rfl⟩⟩
  | cons t ts ih =>
    rw [conditionsOf] at h
    split_ifs at h with hkind
    · obtain ⟨c, hc, h⟩ := bind_eq_ok.1 h
      obtain ⟨more, hmore, h⟩ := bind_eq_ok.1 h
      cases h
      exact ⟨c, .inr ⟨[], t, ts, more, rfl, hkind, by rwa [List.append_nil], hmore, rfl⟩⟩
    · obtain ⟨c, ⟨hc, rfl⟩ | ⟨before, t', after, more, rfl, hkind', hc, hmore, rfl⟩⟩ := ih h
      · rw [List.append_assoc] at hc
        exact ⟨c, .inl ⟨hc, rfl⟩⟩
      · rw [List.append_assoc] at hc
        exact ⟨c, .inr ⟨t :: before, t', after, more, rfl, hkind', hc, hmore, rfl⟩⟩

/-- **The tokens of a condition are its text.** -/
theorem Phrased.of_condition (hschema : schema.Registered)
    (h : Phrased text (field :: operator :: literal :: ts))
    (hc : conditionOf schema [field, operator, literal] = .ok c) :
    ∃ g spelled rest, Filler g ∧ c.Spelled Filler schema spelled ∧ Phrased rest ts ∧
      text = g ++ (spelled ++ rest) := by
  obtain ⟨_, _, _, htokens, hfield, hoperator, hliteral, hcolumn, hop, hvalue⟩ :=
    conditionOf_eq_ok.1 hc
  cases htokens
  obtain ⟨g, _, hg, -, hstop, htail, rfl⟩ := h.of_field hfield
  obtain ⟨g₁, _, hg₁, htail', rfl⟩ := htail.of_operator hoperator
  obtain ⟨g₂, rest, hg₂, hne, hquote, hrest, rfl⟩ := htail'.of_literal hliteral
  rw [hschema.place?_eq_some] at hcolumn
  rw [← symbol_of_ofSymbol? hop] at hstop ⊢
  rw [hvalue] at hne hquote ⊢
  -- a name would go on with the letters of the operator that is a word
  have hlike : c.operator = .like → g₁ ≠ [] := by
    rintro hlike rfl
    rw [hlike] at hstop
    exact absurd (stops_cons.1 hstop) (by decide +kernel)
  refine ⟨g, _, rest, hg, .intro hcolumn hg₁ hg₂ hlike hne hquote, hrest, ?_⟩
  simp only [List.append_assoc, List.cons_append, List.nil_append]

/-- An operator stands in front of what neither a name nor an operator
goes on with. -/
theorem bare_operator (op : Operator) (hname : Stops isNamePart rest)
    (hsymbol : Stops isSymbolChar rest) : Bare (.operator op.symbol) op.symbol.toList rest := by
  by_cases hop : op = .like
  · have hword : isWord likeWord.toList = true := by decide +kernel
    subst hop
    exact Bare.word hword hname
  · exact .symbol hop fun _ => hsymbol

/-- An operator of punctuation ends a name. -/
theorem stops_symbol {op : Operator} (hop : op ≠ .like) :
    Stops isNamePart (op.symbol.toList ++ rest) := by
  obtain ⟨c, hc, hsymbol | hsymbol⟩ := toList_symbol hop <;> rw [hsymbol] <;>
    exact stops_cons.2 (of_isSymbolChar hc).2.1

/-- A word that is no keyword stands there as the name of a field. -/
theorem bare_field {name : String} (hword : isWord name.toList = true)
    (hkeyword : isKeyword name.toList = false) (hstop : Stops isNamePart rest) :
    Bare (.field name) name.toList rest := by
  rw [← wordToken_eq_field_iff.2 ⟨rfl, hkeyword⟩]
  exact .word hword hstop

/-- **The text of a condition has its tokens.** -/
theorem Phrased.condition (hschema : schema.Registered) {g : List Char} (hg : Filler g)
    (hc : c.Spelled Filler schema spelled) (hrest : Phrased rest ts) :
    ∃ field operator literal, conditionOf schema [field, operator, literal] = .ok c ∧
      Phrased (g ++ (spelled ++ rest)) (field :: operator :: literal :: ts) := by
  cases hc with
  | @intro name g₁ g₂ hcolumn hg₁ hg₂ hlike hne hquote =>
    have hmem : name ∈ schema.names := List.mem_of_getElem? hcolumn
    refine ⟨.field name, .operator c.operator.symbol, .literal c.literal, ?_, ?_⟩
    · exact conditionOf_eq_ok.2 ⟨_, _, _, rfl, rfl, rfl, rfl, hschema.place?_eq_some.2 hcolumn,
        ofSymbol?_symbol c.operator, rfl⟩
    · have hliteral : Phrased (g₂ ++ quoteChar :: (c.literal.toList ++ quoteChar :: rest))
          (.literal c.literal :: ts) := by
        have hnonempty : c.literal.toList ≠ [] := by
          rwa [ne_eq, String.toList_eq_nil_iff]
        have hphrased := Phrased.literal hg₂ hnonempty hquote hrest
        rwa [String.ofList_toList] at hphrased
      -- neither a name nor an operator goes on with a gap or a quote
      have hstop (p : Char → Bool) (hblank : ∀ {c}, isBlank c = true → p c = false)
          (hp : p quoteChar = false) (tail : List Char) :
          Stops p (g₂ ++ quoteChar :: tail) :=
        (hg₂.stops hblank hp).append fun _ => stops_cons.2 hp
      have hoperator := Phrased.bare hg₁ (bare_operator c.operator
        (hstop isNamePart isNamePart_of_isBlank isNamePart_quoteChar _)
        (hstop isSymbolChar isSymbolChar_of_isBlank isSymbolChar_quoteChar _)) hliteral
      have hend (tail : List Char) :
          Stops isNamePart (g₁ ++ (c.operator.symbol.toList ++ tail)) :=
        (hg₁.stops isNamePart_of_isBlank isNamePart_quoteChar).append
          fun hnil => stops_symbol fun hop => hlike hop hnil
      have hname {tail : List Char} (hstop : Stops isNamePart tail) :
          Bare (.field name) name.toList tail :=
        bare_field (hschema.isWord name hmem) (hschema.not_isKeyword name hmem) hstop
      have hfield := Phrased.bare hg (hname (hend _)) hoperator
      simpa only [List.append_assoc, List.cons_append, List.nil_append] using hfield

end Conditions

/-! ## Sentences -/

section Sentences

variable {text sentence g g' : List Char} {ts : List Token} {conditions : List Condition}

/-- A word that joins conditions stands for a conjunction. -/
theorem bare_conjunction {word rest : List Char} (hword : IsAnd word)
    (hstop : Stops isNamePart rest) : Bare .conjunction word rest := by
  have hisWord : isWord word = true := by
    have hall : ∀ word ∈ IsAnd.words, isWord word = true := by decide +kernel
    exact hall word hword.mem_words
  have htoken : wordToken word = .conjunction := by
    rw [wordToken, if_pos (isConjunction_iff.2 hword)]
  rw [← htoken]
  exact .word hisWord hstop

/-- **A sentence has tokens that spell its conditions.** -/
theorem Sentence.exists_phrased (h : Sentence Filler schema conditions sentence)
    (hschema : schema.Registered) (hg : Filler g) (hg' : Filler g') :
    ∃ ts, Phrased (g ++ (sentence ++ g')) ts ∧ conditionsOf schema [] ts = .ok conditions := by
  induction h generalizing g with
  | single hspelled =>
    obtain ⟨field, operator, literal, hc, hphrased⟩ :=
      Phrased.condition hschema hg hspelled (.finish hg')
    refine ⟨_, hphrased, ?_⟩
    rw [conditionsOf_condition hc, conditionsOf, hc]
    rfl
  | @join c rest spelled g₁ word g₂ more hspelled hg₁ hword hg₂ hne _ ih =>
    obtain ⟨ts, hrest, hts⟩ := ih hg₂
    have hstop : Stops isNamePart (g₂ ++ (more ++ g')) :=
      (hg₂.stops isNamePart_of_isBlank isNamePart_quoteChar).append fun hnil => absurd hnil hne
    obtain ⟨field, operator, literal, hc, hphrased⟩ :=
      Phrased.condition hschema hg hspelled (.bare hg₁ (bare_conjunction hword hstop) hrest)
    refine ⟨field :: operator :: literal :: .conjunction :: ts, ?_, ?_⟩
    · simpa only [List.append_assoc] using hphrased
    · have hkind : Token.conjunction.kind = .conjunction := rfl
      rw [conditionsOf_condition hc, conditionsOf, if_pos hkind, hc, hts]
      rfl

theorem Condition.Spelled.begins {gap : List Char → Prop} {c : Condition}
    (h : c.Spelled gap schema text) (hschema : schema.Registered) :
    ∃ d tail, text = d :: tail ∧ isNamePart d = true := by
  cases h with
  | @intro name _ _ hcolumn =>
    have hword := hschema.isWord name (List.mem_of_getElem? hcolumn)
    cases hname : name.toList with
    | nil =>
      rw [hname] at hword
      cases hword
    | cons d tail =>
      rw [hname, isWord, Bool.and_eq_true] at hword
      exact ⟨d, _, rfl, isNamePart_of_isNameStart hword.1⟩

/-- A sentence begins with the name of a column. -/
theorem Sentence.begins {gap : List Char → Prop} (h : Sentence gap schema conditions text)
    (hschema : schema.Registered) : ∃ d tail, text = d :: tail ∧ isNamePart d = true := by
  cases h with
  | single hspelled => exact hspelled.begins hschema
  | join hspelled =>
    obtain ⟨d, tail, rfl, hd⟩ := hspelled.begins hschema
    exact ⟨d, _, rfl, hd⟩

/-- **Tokens that spell conditions make a sentence of the text.** -/
theorem Phrased.spelled (hschema : schema.Registered) (h : Phrased text ts)
    (hts : conditionsOf schema [] ts = .ok conditions) :
    Spelled Filler schema conditions text := by
  induction conditions generalizing text ts with
  | nil =>
    obtain ⟨c, ⟨-, hconditions⟩ | ⟨_, _, _, _, -, -, -, -, hconditions⟩⟩ :=
      conditionsOf_eq_ok hts <;> cases hconditions
  | cons c conditions ih =>
    -- what stands before the first conjunction is the first condition
    obtain ⟨c, ⟨hc, hconditions⟩ |
      ⟨front, t, back, more, rfl, hkind, hc, hmore, hconditions⟩⟩ := conditionsOf_eq_ok hts
    · cases hconditions
      obtain ⟨field, operator, literal, rfl, -⟩ := conditionOf_eq_ok.1 hc
      obtain ⟨g, spelled, rest, hg, hspelled, hrest, rfl⟩ := h.of_condition hschema hc
      cases hrest with
      | finish hg' => exact ⟨g, spelled, rest, hg, .single hspelled, hg', rfl⟩
    · cases hconditions
      obtain ⟨field, operator, literal, hfront, -⟩ := conditionOf_eq_ok.1 hc
      rw [List.nil_append] at hfront hc
      subst hfront
      obtain ⟨g, spelled, _, hg, hspelled, hrest, rfl⟩ := h.of_condition hschema hc
      obtain ⟨g₁, word, _, hg₁, hword, hstop, hback, rfl⟩ := hrest.of_conjunction hkind
      obtain ⟨g₂, sentence, g', hg₂, hsentence, hg', rfl⟩ := ih hback hmore
      -- the word would go on with the name that begins the next condition
      have hne : g₂ ≠ [] := by
        rintro rfl
        obtain ⟨d, tail, rfl, hd⟩ := hsentence.begins hschema
        exact absurd hd (by simpa using stops_cons.1 hstop)
      refine ⟨g, _, g', hg, .join hspelled hg₁ hword hg₂ hne hsentence, hg', ?_⟩
      simp only [List.append_assoc]

end Sentences

/-! ## Queries -/

section Compile

variable {text : String} {q : Query}

/-- **A text is compiled just when it spells the query**, with white
space and empty literals in the gaps. -/
theorem compile_eq_ok_iff (hschema : schema.Registered) :
    compile schema text = .ok q ↔ Spelled Filler schema q.conditions text.toList := by
  have hread : compile schema text = .ok q ↔
      conditionsFrom schema (Scanner.before .plain text.toList) [] = .ok q.conditions := by
    rw [compile, map_eq_ok]
    constructor
    · rintro ⟨conditions, hconditions, rfl⟩
      exact hconditions
    · intro h
      exact ⟨q.conditions, h, rfl⟩
  rw [hread]
  constructor
  · intro h
    obtain ⟨ts, hphrased⟩ := exists_phrased h
    rw [conditionsFrom_phrased hphrased] at h
    exact hphrased.spelled hschema h
  · rintro ⟨g, sentence, g', hg, hsentence, hg', htext⟩
    obtain ⟨ts, hphrased, hts⟩ := hsentence.exists_phrased hschema hg hg'
    rw [htext, conditionsFrom_phrased hphrased, hts]

/-- **Reading undoes writing.** -/
theorem compile_text? (hschema : schema.Registered) (hne : q.conditions ≠ [])
    (h : ∀ c ∈ q.conditions, c.IsWritable schema) :
    ∃ text, q.text? schema = some text ∧ compile schema text = .ok q := by
  obtain ⟨text, htext, hsentence⟩ := sentence_text? hne h
  refine ⟨text, htext, (compile_eq_ok_iff hschema).2 ⟨[], text.toList, [], .nil, ?_, .nil, ?_⟩⟩
  · exact hsentence.mono Filler.of_isSpace
  · rw [List.append_nil, List.nil_append]

/-- **What is compiled can be written.** -/
theorem isWritable_of_compile (hschema : schema.Registered) (h : compile schema text = .ok q) :
    q.conditions ≠ [] ∧ ∀ c ∈ q.conditions, c.IsWritable schema := by
  obtain ⟨_, _, _, -, hsentence, -, -⟩ := (compile_eq_ok_iff hschema).1 h
  exact ⟨hsentence.ne_nil, hsentence.isWritable⟩

/-- **Reading undoes spelling.** Whatever the case of `AND` and the white
space around the tokens, the text is compiled to the conditions that it
spells. -/
theorem compile_of_spelled {hash : String → UInt64} {columns : List Column}
    {conditions : List Condition} (h : Schema.ofColumnsWith hash columns = .ok schema)
    (hspelled : Spelled IsSpace schema conditions text.toList) :
    compile schema text = .ok ⟨conditions⟩ := by
  have hschema := Schema.registered_ofColumnsWith h
  have hfilled : Spelled Filler schema conditions text.toList := hspelled.mono Filler.of_isSpace
  exact (compile_eq_ok_iff hschema).2 hfilled

/-- A schema of a key and a number, whose names share a chain of the
registry. -/
def keyAndNumber : Schema where
  columns := [{ name := "k", kind := .text }, { name := "n", kind := .integer }]
  registry := ⟨Hashing.constant, #[some 0, none, none, none], #[⟨"k", 0, some 1⟩, ⟨"n", 1, none⟩], 2⟩

theorem ofColumnsWith_keyAndNumber :
    Schema.ofColumnsWith Hashing.constant keyAndNumber.columns = .ok keyAndNumber := by cbv

/-- Little white space, words and operators in literals, and `AND` in
mixed case. -/
theorem compile_of_spelled_mixed :
    Spelled IsSpace keyAndNumber [⟨0, .lessOrEqual, "ž AND *\t"⟩, ⟨1, .like, "<="⟩]
        "\u2003k<=\"ž AND *\t\"aNd\u00A0\nn LIKE\"<=\"\u000B".toList ∧
      compile keyAndNumber "\u2003k<=\"ž AND *\t\"aNd\u00A0\nn LIKE\"<=\"\u000B" =
        .ok ⟨[⟨0, .lessOrEqual, "ž AND *\t"⟩, ⟨1, .like, "<="⟩]⟩ := by
  have hk : keyAndNumber.names[0]? = some "k" := rfl
  have hn : keyAndNumber.names[1]? = some "n" := rfl
  have hfirst := Condition.Spelled.intro (c := ⟨0, .lessOrEqual, "ž AND *\t"⟩) hk
    isSpace_nil isSpace_nil (by decide) (by decide) (by decide)
  have hsecond := Condition.Spelled.intro (c := ⟨1, .like, "<="⟩) hn
    isSpace_space isSpace_nil (by decide) (by decide) (by decide)
  have hand : IsAnd ['a', 'N', 'd'] := by decide
  have hgap : IsSpace ['\u00A0', '\n'] := by decide +kernel
  have hspelled : Spelled IsSpace keyAndNumber [⟨0, .lessOrEqual, "ž AND *\t"⟩, ⟨1, .like, "<="⟩]
      "\u2003k<=\"ž AND *\t\"aNd\u00A0\nn LIKE\"<=\"\u000B".toList :=
    ⟨['\u2003'], _, ['\u000B'], by decide +kernel,
      .join hfirst isSpace_nil hand hgap (by decide) (.single hsecond), by decide +kernel, rfl⟩
  exact ⟨hspelled, compile_of_spelled ofColumnsWith_keyAndNumber hspelled⟩

/-- **Writing what was read changes nothing.** Whatever text a query was
compiled from, it has conditions, each on a column of the schema and with
a literal that can stand between quotes, and its written form is compiled
to the same conditions, which ask for the same key if they ask for one. -/
theorem compile_written {hash : String → UInt64} {columns : List Column}
    (h : Schema.ofColumnsWith hash columns = .ok schema) (hq : compile schema text = .ok q) :
    q.conditions ≠ [] ∧
    (∀ c ∈ q.conditions,
      c.column < schema.width ∧ c.literal ≠ "" ∧ quoteChar ∉ c.literal.toList) ∧
    ∃ written q', q.text? schema = some written ∧ compile schema written = .ok q' ∧
      q'.conditions = q.conditions ∧ q'.indexKey? = q.indexKey? := by
  have hschema := Schema.registered_ofColumnsWith h
  obtain ⟨hne, hwritable⟩ := isWritable_of_compile hschema hq
  obtain ⟨written, hwritten, hcompile⟩ := compile_text? hschema hne hwritable
  refine ⟨hne, fun c hc => ?_, written, q, hwritten, hcompile, rfl, rfl⟩
  obtain ⟨hcolumn, hliteral, hquote⟩ := hwritable c hc
  exact ⟨hcolumn, hliteral, hquote⟩

/-- A key is asked for in a text with an empty literal and white space in
odd places, and again in its written form. -/
theorem compile_written_of_key :
    compile keyAndNumber "\tk=\"\"\" AND \"\"\"" = .ok ⟨[⟨0, .equal, " AND "⟩]⟩ ∧
      Query.text? keyAndNumber ⟨[⟨0, .equal, " AND "⟩]⟩ = some "k = \" AND \"" ∧
      ∃ q', compile keyAndNumber "k = \" AND \"" = .ok q' ∧
        q'.conditions = [⟨0, .equal, " AND "⟩] ∧ q'.indexKey? = some " AND " := by
  have hq : compile keyAndNumber "\tk=\"\"\" AND \"\"\"" = .ok ⟨[⟨0, .equal, " AND "⟩]⟩ := by
    decide +kernel
  have htext : Query.text? keyAndNumber ⟨[⟨0, .equal, " AND "⟩]⟩ = some "k = \" AND \"" := by
    decide +kernel
  obtain ⟨-, -, written, q', hwritten, hcompile⟩ := compile_written ofColumnsWith_keyAndNumber hq
  rw [htext] at hwritten
  cases hwritten
  exact ⟨hq, htext, q', hcompile⟩

end Compile

end Query

end Cardfile
