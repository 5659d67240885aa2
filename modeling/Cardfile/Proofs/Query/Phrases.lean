import Cardfile.Query.Compile
import Cardfile.Proofs.Outcome
import Cardfile.Proofs.Query.Reads
import Cardfile.Proofs.Query.Grammar
/-!
# Query — from text to tokens to conditions

`Phrased` says which tokens a text is made of, quotes left out, and
`conditionsOf` reads conditions from a list of tokens. Reading conditions
from a text is to do the one after the other (`conditionsFrom_phrased`,
`exists_phrased`). Quotes with nothing between them are left out like
white space, wherever they stand.
-/

namespace Cardfile

namespace Query

open Text Scanner

variable {schema : Schema}

/-- **The tokens of a text**, quotes left out. -/
inductive Phrased : List Char → List Token → Prop
  /-- Nothing is left but a gap. -/
  | finish {g : List Char} : Filler g → Phrased g []
  /-- A token outside literals. -/
  | bare {g word rest : List Char} {t : Token} {ts : List Token} :
      Filler g → Bare t word rest → Phrased rest ts → Phrased (g ++ (word ++ rest)) (t :: ts)
  /-- A literal between its quotes. -/
  | literal {g text rest : List Char} {ts : List Token} :
      Filler g → text ≠ [] → quoteChar ∉ text → Phrased rest ts →
      Phrased (g ++ quoteChar :: (text ++ quoteChar :: rest))
        (.literal (String.ofList text) :: ts)

/-- A gap in front of a text adds no token. -/
theorem Phrased.filler_append {g text : List Char} {ts : List Token} (hg : Filler g)
    (h : Phrased text ts) : Phrased (g ++ text) ts := by
  have happend {g' : List Char} (hg' : Filler g') : Filler (g ++ g') := hg.append hg'
  cases h with
  | finish hg' => exact .finish (happend hg')
  | bare hg' hbare hrest =>
    rw [← List.append_assoc]
    exact .bare (happend hg') hbare hrest
  | literal hg' hne hquote hrest =>
    rw [← List.append_assoc]
    exact .literal (happend hg') hne hquote hrest

/-- **The conditions that the tokens spell**, the first of which begins
with the gathered ones. -/
def conditionsOf (schema : Schema) (gathered : List Token) :
    List Token → Except QueryFault (List Condition)
  | [] => (conditionOf schema gathered).map ([·])
  | t :: ts =>
    if t.kind = .conjunction then do
      let condition ← conditionOf schema gathered
      let conditions ← conditionsOf schema [] ts
      return condition :: conditions
    else conditionsOf schema (gathered ++ [t]) ts

/-! ## One step of the reader -/

section Step

variable {s s' : Scanner} {t : Token} {gathered : List Token}

/-- What the reader does with the next token. -/
theorem conditionsFrom_ok (h : s.next = (.ok t, s')) :
    conditionsFrom schema s gathered =
      if t = .finish then (conditionOf schema gathered).map ([·])
      else
        match t.kind with
        | .quote => conditionsFrom schema s'.toggled gathered
        | .conjunction => do
          let condition ← conditionOf schema gathered
          let conditions ← conditionsFrom schema s' []
          return condition :: conditions
        | _ => conditionsFrom schema s' (gathered ++ [t]) := by
  rw [conditionsFrom]
  split
  · next heq =>
    rw [h] at heq
    cases heq
  · next heq =>
    rw [h] at heq
    cases heq
    rfl

theorem conditionsFrom_error {fault : TokenFault} (h : s.next = (.error fault, s')) :
    conditionsFrom schema s gathered = .error (.lexical fault) := by
  rw [conditionsFrom]
  split
  · next heq =>
    rw [h] at heq
    cases heq
    rfl
  · next heq =>
    rw [h] at heq
    cases heq

/-- The reader looks at the scanner through its next token only. -/
theorem conditionsFrom_congr {r : Scanner} (h : s.next = r.next) :
    conditionsFrom schema s gathered = conditionsFrom schema r gathered := by
  cases hr : r.next with
  | mk answer s' =>
    rw [hr] at h
    cases answer with
    | error fault => rw [conditionsFrom_error h, conditionsFrom_error hr]
    | ok t => rw [conditionsFrom_ok h, conditionsFrom_ok hr]

theorem conditionsFrom_finish (h : s.next = (.ok .finish, s')) :
    conditionsFrom schema s gathered = (conditionOf schema gathered).map ([·]) := by
  rw [conditionsFrom_ok h, if_pos rfl]

theorem conditionsFrom_quote (h : s.next = (.ok .quote, s')) :
    conditionsFrom schema s gathered = conditionsFrom schema s'.toggled gathered := by
  rw [conditionsFrom_ok h, if_neg (by decide)]
  rfl

/-- A token that is neither the end nor a quote is gathered, or completes
a condition. -/
theorem conditionsFrom_token (h : s.next = (.ok t, s')) (hfinish : t ≠ .finish)
    (hquote : t.kind ≠ .quote) :
    conditionsFrom schema s gathered =
      if t.kind = .conjunction then do
        let condition ← conditionOf schema gathered
        let conditions ← conditionsFrom schema s' []
        return condition :: conditions
      else conditionsFrom schema s' (gathered ++ [t]) := by
  rw [conditionsFrom_ok h, if_neg hfinish]
  cases hkind : t.kind with
  | quote => exact absurd hkind hquote
  | conjunction => rfl
  | finish | field | operator | literal => rfl

end Step

/-! ## A whole text -/

section Text

variable {text rest : List Char} {ts gathered : List Token} {conditions : List Condition}

/-- **What a word stands for**: a conjunction, an operator or a field. -/
theorem wordToken_cases (word : List Char) :
    (IsAnd word ∧ wordToken word = .conjunction) ∨
      (word = likeWord.toList ∧ wordToken word = .operator likeWord) ∨
      wordToken word = .field (String.ofList word) := by
  rw [wordToken]
  split_ifs with hand hlike
  · exact .inl ⟨isConjunction_iff.1 hand, rfl⟩
  · rw [isLike, beq_iff_eq] at hlike
    exact .inr (.inl ⟨hlike, rfl⟩)
  · exact .inr (.inr rfl)

/-- A word stands for the name of a field unless it is a keyword. -/
theorem wordToken_eq_field_iff {word : List Char} {name : String} :
    wordToken word = .field name ↔ word = name.toList ∧ isKeyword word = false := by
  have hname : String.ofList word = name ↔ word = name.toList := by
    rw [← String.toList_inj, String.toList_ofList]
  rw [wordToken, isKeyword, Bool.or_eq_false_iff]
  split_ifs with hand hlike
  · simp [Token.conjunction, Token.field, hand]
  · simp [Token.operator, Token.field, hlike]
  · simp [Token.field, hname, hand, hlike]

/-- A token outside literals is neither the end nor a quote. -/
theorem Bare.kind {t : Token} {word : List Char} (h : Bare t word rest) :
    t ≠ .finish ∧ t.kind ≠ .quote := by
  cases h with
  | @word word _ _ _ =>
    obtain ⟨-, htoken⟩ | ⟨-, htoken⟩ | htoken := wordToken_cases word <;> rw [htoken] <;>
      exact ⟨nofun, nofun⟩
  | symbol _ _ => exact ⟨nofun, nofun⟩

/-- **A gap is passed over.** -/
theorem conditionsFrom_filler {g : List Char} (hg : Filler g) :
    conditionsFrom schema (before .plain (g ++ text)) gathered =
      conditionsFrom schema (before .plain text) gathered := by
  induction hg with
  | nil => rfl
  | @blank c g hc _ ih =>
    have hspace : IsSpace [c] := List.forall_mem_singleton.2 hc
    rw [← ih]
    exact conditionsFrom_congr (next_isSpace_append hspace)
  | @empty g _ ih =>
    have hopening : Reads .plain (quoteChar :: quoteChar :: (g ++ text)) _ _ :=
      .opening isSpace_nil
    rw [List.cons_append, List.cons_append, conditionsFrom_quote (next_of_reads hopening), ← ih]
    exact conditionsFrom_quote (next_of_reads .closing)

/-- **A text is read as its tokens are.** -/
theorem conditionsFrom_phrased (h : Phrased text ts) :
    conditionsFrom schema (before .plain text) gathered = conditionsOf schema gathered ts := by
  induction h generalizing gathered with
  | @finish g hg =>
    rw [← List.append_nil g, conditionsFrom_filler hg,
      conditionsFrom_finish (next_isSpace isSpace_nil)]
    rfl
  | bare hg hbare _ ih =>
    obtain ⟨hfinish, hquote⟩ := hbare.kind
    rw [conditionsFrom_filler hg, conditionsFrom_token (next_of_bare hbare) hfinish hquote,
      conditionsOf, ih, ih]
  | @literal g l rest ts hg hne hquote _ ih =>
    have hopening : Reads .plain (quoteChar :: (l ++ quoteChar :: rest)) _ _ :=
      .opening isSpace_nil
    have hclosing : (before .quoted (quoteChar :: rest)).next = _ := next_of_reads .closing
    -- the quotes turn the scanner, and between them the literal is gathered
    rw [conditionsFrom_filler hg, conditionsFrom_quote (next_of_reads hopening)]
    calc conditionsFrom schema (before .quoted (l ++ quoteChar :: rest)) gathered
        = conditionsFrom schema (before .quoted (quoteChar :: rest))
            (gathered ++ [.literal (String.ofList l)]) :=
          conditionsFrom_token (next_of_reads (.literal hne hquote)) nofun nofun
      _ = conditionsFrom schema (before .plain rest) (gathered ++ [.literal (String.ofList l)]) :=
          conditionsFrom_quote hclosing
      _ = conditionsOf schema gathered (.literal (String.ofList l) :: ts) := ih

/-- What can stand after a quote: the next one, or a literal and then the
next one. -/
theorem conditionsFrom_quoted_eq_ok
    (h : conditionsFrom schema (before .quoted text) gathered = .ok conditions) :
    ∃ l rest gathered', quoteChar ∉ l ∧ text = l ++ quoteChar :: rest ∧
      conditionsFrom schema (before .plain rest) gathered' = .ok conditions := by
  cases hnext : (before .quoted text).next with
  | mk answer s' =>
    cases answer with
    | error fault =>
      rw [conditionsFrom_error hnext] at h
      cases h
    | ok t =>
      obtain ⟨-, hmode, -⟩ | ⟨rest, rfl, hreads⟩ := reads_of_next hnext
      · cases hmode
      · cases hreads with
        | closing =>
          rw [conditionsFrom_quote hnext] at h
          exact ⟨[], rest, gathered, List.not_mem_nil, rfl, h⟩
        | @literal l rest hne hquote =>
          rw [conditionsFrom_token hnext nofun nofun] at h
          have hclosing : (before .quoted (quoteChar :: rest)).next = _ := next_of_reads .closing
          exact ⟨l, rest, _, hquote, rfl, (conditionsFrom_quote hclosing).symm.trans h⟩

/-- **Only a text that is made of tokens is read.** -/
theorem exists_phrased (h : conditionsFrom schema (before .plain text) gathered = .ok conditions) :
    ∃ ts, Phrased text ts := by
  -- on what is left to read: each token takes a character, a literal several tokens
  induction hn : text.length using Nat.strong_induction_on
    generalizing text gathered conditions with
  | _ n ih =>
    subst hn
    cases hnext : (before .plain text).next with
    | mk answer s' =>
      cases answer with
      | error fault =>
        rw [conditionsFrom_error hnext] at h
        cases h
      | ok t =>
        obtain ⟨-, -, hspace⟩ | ⟨rest, rfl, hreads⟩ := reads_of_next hnext
        · exact ⟨[], .finish (.of_isSpace hspace)⟩
        · cases hreads with
          | bare hw hbare =>
            obtain ⟨hfinish, hquote⟩ := hbare.kind
            have hlt := length_lt_of_next hnext hfinish
            rw [conditionsFrom_token hnext hfinish hquote] at h
            obtain ⟨gathered', conditions', hrest⟩ : ∃ gathered' conditions',
                conditionsFrom schema (before .plain rest) gathered' = .ok conditions' := by
              split_ifs at h
              · obtain ⟨condition, -, h⟩ := bind_eq_ok.1 h
                obtain ⟨conditions', hrest, -⟩ := bind_eq_ok.1 h
                exact ⟨[], conditions', hrest⟩
              · exact ⟨_, conditions, h⟩
            obtain ⟨ts, hts⟩ := ih _ hlt hrest rfl
            exact ⟨t :: ts, .bare (.of_isSpace hw) hbare hts⟩
          | @opening w rest hw =>
            rw [conditionsFrom_quote hnext] at h
            -- up to the next quote stands a literal, or nothing at all
            obtain ⟨l, rest', gathered', hquote, rfl, hrest⟩ := conditionsFrom_quoted_eq_ok h
            have hlt : rest'.length < (w ++ quoteChar :: (l ++ quoteChar :: rest')).length := by
              simp only [List.length_append, List.length_cons]
              omega
            obtain ⟨ts, hts⟩ := ih _ hlt hrest rfl
            cases l with
            | nil =>
              have hempty : Filler (w ++ [quoteChar, quoteChar]) :=
                (Filler.of_isSpace hw).append (.empty .nil)
              have hphrased := hts.filler_append hempty
              rw [List.append_assoc] at hphrased
              exact ⟨ts, hphrased⟩
            | cons c l =>
              exact ⟨_, .literal (.of_isSpace hw) (List.cons_ne_nil c l) hquote hts⟩

end Text

end Query

end Cardfile
