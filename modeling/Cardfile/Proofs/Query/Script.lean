import Cardfile.Proofs.Query.Phrases
/-!
# Query — calls in any order

A scanner can be asked for tokens and turned to either mode in any order,
within a word as well as after a fault. Whatever the script, each call
goes on where the one before it stopped, a token has taken its own
characters and no others but white space, and nothing is read after the
end (`calls_inOrder`). One call is told by `regular_next`, which says all
that it can come to, and the calls of a script by `proceeds_calls`.
-/

namespace Cardfile

namespace Query

open Text Scanner

/-! ## Scripts -/

/-- **What can be done with a scanner.** -/
inductive Step where
  /-- It is asked for the next token. -/
  | next
  /-- It is turned to a mode. -/
  | turn (mode : Mode)

/-- **A call for a token**, as it went. -/
structure Call where
  /-- The mode that the scanner was in. -/
  mode : Mode
  /-- What was answered. -/
  answer : Except TokenFault Token
  /-- The characters that were taken. -/
  taken : List Char
  /-- The characters that were left. -/
  left : List Char
  deriving DecidableEq

/-- The token that was answered, unless it is the end. -/
def Call.token? (c : Call) : Option Token :=
  match c.answer with
  | .ok t => if t = .finish then none else some t
  | .error _ => none

/-- The call was answered with a lexical fault. -/
def Call.Fails (c : Call) : Prop :=
  ∃ fault, c.answer = .error fault ∧ fault.report.kind = .lexical

/-- The scanner in the mode. -/
def Scanner.turned (s : Scanner) (mode : Mode) : Scanner := { s with mode }

/-- **The calls of a script.** What a call took is what it left less of. -/
def Scanner.calls (s : Scanner) : List Step → List Call
  | [] => []
  | .turn mode :: script => (s.turned mode).calls script
  | .next :: script =>
    { mode := s.mode
      answer := s.next.1
      taken := s.rest.take (s.rest.length - s.next.2.rest.length)
      left := s.next.2.rest } :: s.next.2.calls script

/-- The modes that a script asks for tokens in, if it begins in this one. -/
def modes (mode : Mode) : List Step → List Mode
  | [] => []
  | .turn mode' :: script => modes mode' script
  | .next :: script => mode :: modes mode script

/-- **The characters that stand for a token.** -/
inductive Token.WrittenAs : Token → List Char → Prop
  | field {name : String} : WrittenAs (.field name) name.toList
  | operator {op : Operator} : WrittenAs (.operator op.symbol) op.symbol.toList
  | conjunction {word : List Char} : IsAnd word → WrittenAs .conjunction word
  | quote : WrittenAs .quote [quoteChar]
  | literal {text : String} : WrittenAs (.literal text) text.toList

/-! ## One call -/

section Call

variable {mode : Mode} {text word rest : List Char} {t : Token} {fault : TokenFault}
  {s s' : Scanner}

/-- A token outside literals has its own characters. -/
theorem Bare.writtenAs (h : Bare t word rest) : word ≠ [] ∧ t.WrittenAs word := by
  cases h with
  | word hword _ =>
    constructor
    · rintro rfl
      cases hword
    · obtain ⟨hand, htoken⟩ | ⟨rfl, htoken⟩ | htoken := wordToken_cases word <;> rw [htoken]
      · exact .conjunction hand
      · exact @Token.WrittenAs.operator .like
      · have hfield : (Token.field (String.ofList word)).WrittenAs (String.ofList word).toList :=
          .field
        rwa [String.toList_ofList] at hfield
  | symbol hop _ =>
    refine ⟨?_, .operator⟩
    obtain ⟨c, -, hsymbol | hsymbol⟩ := toList_symbol hop <;> rw [hsymbol] <;>
      exact List.cons_ne_nil _ _

/-- **A token is read from its own characters**, with white space in front
of them outside literals and nothing else. -/
theorem Reads.writtenAs (h : Reads mode text t rest) :
    ∃ w word, text = w ++ (word ++ rest) ∧ IsSpace w ∧ (mode = .quoted → w = []) ∧
      word ≠ [] ∧ t.WrittenAs word := by
  cases h with
  | bare hw hbare => exact ⟨_, _, rfl, hw, nofun, hbare.writtenAs⟩
  | opening hw => exact ⟨_, _, rfl, hw, nofun, List.cons_ne_nil _ _, .quote⟩
  | closing => exact ⟨[], _, rfl, isSpace_nil, fun _ => rfl, List.cons_ne_nil _ _, .quote⟩
  | @literal text _ hne _ =>
    have hliteral : (Token.literal (String.ofList text)).WrittenAs (String.ofList text).toList :=
      .literal
    rw [String.toList_ofList] at hliteral
    exact ⟨[], text, rfl, isSpace_nil, fun _ => rfl, hne, hliteral⟩

/-- Outside literals a fault takes characters from the front. -/
theorem exists_of_plainNext_error (h : s.plainNext = (.error fault, s')) :
    ∃ taken rest, s.rest = taken ++ rest ∧ s' = s.upTo rest := by
  obtain ⟨w, -, htext⟩ := exists_isSpace_append s.rest
  simp only [plainNext] at h
  split at h
  · cases (Prod.mk.inj h).1
  · next c rest htrim =>
    rw [htrim] at htext
    split_ifs at h
    · cases (Prod.mk.inj h).1
    · -- punctuation that is no operator
      refine ⟨w ++ symbolFrom c rest, _, ?_, (Prod.mk.inj h).2.symm⟩
      rw [List.append_assoc, symbolFrom_append_drop, htext]
    · cases (Prod.mk.inj h).1
    · -- a run that begins no token
      refine ⟨w ++ c :: rest.takeWhile (!isBlank ·), _, ?_, (Prod.mk.inj h).2.symm⟩
      rw [List.append_assoc, List.cons_append, List.takeWhile_append_dropWhile, htext]

/-- Within a literal it takes all that is left. -/
theorem eq_of_quotedNext_error (h : s.quotedNext = (.error fault, s')) : s' = s.upTo [] := by
  simp only [quotedNext] at h
  split at h
  · exact (Prod.mk.inj h).2.symm
  · split at h <;> cases (Prod.mk.inj h).1

/-- **What a call can come to.** -/
inductive Call.Regular (c : Call) : Prop
  /-- A token is read. -/
  | token {t : Token} :
      c.answer = .ok t → Reads c.mode (c.taken ++ c.left) t c.left → c.Regular
  /-- The end is read, where nothing but white space is left. -/
  | finish : c.answer = .ok .finish → c.mode = .plain → IsSpace c.taken → c.left = [] → c.Regular
  /-- Nothing can be read. -/
  | fault {fault : TokenFault} :
      c.answer = .error fault → (c.mode = .quoted → c.left = []) → c.Regular

/-- **One call.** It takes characters from the front, keeps the mode, and
finishes the scanner if it reads the end. -/
theorem regular_next (hs : s.finished = true → s.rest = []) :
    ∃ c : Call, c.Regular ∧ c.mode = s.mode ∧ s.rest = c.taken ++ c.left ∧
      s.next = (c.answer, { rest := c.left, mode := s.mode,
                            finished := s.finished || c.answer == .ok .finish }) := by
  obtain ⟨text, mode, finished⟩ := s
  cases finished with
  | true =>
    obtain rfl : text = [] := hs rfl
    exact ⟨⟨mode, .error .pastEnd, [], []⟩, .fault rfl fun _ => rfl, rfl, rfl, rfl⟩
  | false =>
    cases hnext : (before mode text).next with
    | mk answer s' =>
      cases answer with
      | ok t =>
        obtain ⟨rfl, rfl, hspace⟩ | ⟨rest, rfl, hreads⟩ := reads_of_next hnext
        · refine ⟨⟨.plain, .ok .finish, text, []⟩, .finish rfl rfl hspace rfl, rfl,
            (List.append_nil text).symm, ?_⟩
          exact next_isSpace hspace
        · obtain ⟨w, word, rfl, -, -, -, hwritten⟩ := hreads.writtenAs
          rw [← List.append_assoc] at hreads
          refine ⟨⟨mode, .ok t, w ++ word, rest⟩, .token rfl hreads, rfl,
            (List.append_assoc w word rest).symm, ?_⟩
          have hne : ((.ok t : Except TokenFault Token) == .ok .finish) = false := by
            cases hwritten <;> rfl
          rw [Bool.false_or, hne]
          exact hnext
      | error fault =>
        cases mode with
        | plain =>
          obtain ⟨taken, rest, htext, rfl⟩ := exists_of_plainNext_error (next_plain ▸ hnext)
          exact ⟨⟨.plain, .error fault, taken, rest⟩, .fault rfl nofun, rfl, htext, hnext⟩
        | quoted =>
          obtain rfl := eq_of_quotedNext_error (next_quoted ▸ hnext)
          exact ⟨⟨.quoted, .error fault, text, []⟩, .fault rfl fun _ => rfl, rfl,
            (List.append_nil text).symm, hnext⟩

/-- The tokens of a literal end at a quote, which has to be there. -/
theorem Reads.quote_mem (h : Reads .quoted text t rest) : quoteChar ∈ text := by
  cases h <;> simp

/-- **A token takes its own characters.** -/
theorem Call.Regular.writtenAs {c : Call} (h : c.Regular) (ht : c.token? = some t) :
    ∃ w word, c.taken = w ++ word ∧ IsSpace w ∧ (c.mode = .quoted → w = []) ∧
      word ≠ [] ∧ t.WrittenAs word := by
  rw [Call.token?] at ht
  cases h with
  | token hanswer hreads =>
    rw [hanswer] at ht
    obtain ⟨w, word, htext, hw, hmode, hne, hwritten⟩ := hreads.writtenAs
    rw [← List.append_assoc] at htext
    simp only at ht
    split_ifs at ht
    cases ht
    exact ⟨w, word, List.append_cancel_right htext, hw, hmode, hne, hwritten⟩
  | finish hanswer =>
    rw [hanswer] at ht
    cases ht
  | fault hanswer =>
    rw [hanswer] at ht
    cases ht

/-- **The end is read where nothing is left** but white space. -/
theorem Call.Regular.of_finish {c : Call} (h : c.Regular) (hanswer : c.answer = .ok .finish) :
    c.mode = .plain ∧ IsSpace c.taken ∧ c.left = [] := by
  cases h with
  | token htoken hreads =>
    rw [htoken] at hanswer
    cases hanswer
    obtain ⟨w, word, -, -, -, -, hwritten⟩ := hreads.writtenAs
    cases hwritten
  | finish _ hmode hspace hleft => exact ⟨hmode, hspace, hleft⟩
  | fault hfault =>
    rw [hfault] at hanswer
    cases hanswer

/-- **A literal without a quote at its end** is a fault, which takes all that
is left. -/
theorem Call.Regular.of_unterminated {c : Call} (h : c.Regular) (hmode : c.mode = .quoted)
    (hquote : quoteChar ∉ c.taken ++ c.left) : c.Fails ∧ c.left = [] := by
  cases h with
  | token _ hreads =>
    rw [hmode] at hreads
    exact absurd hreads.quote_mem hquote
  | finish _ hplain =>
    rw [hmode] at hplain
    cases hplain
  | fault hfault hleft => exact ⟨⟨_, hfault, rfl⟩, hleft hmode⟩

end Call

/-! ## The calls of a script -/

section Calls

variable {s : Scanner} {text : List Char} {c : Call} {calls earlier later : List Call}
  {script : List Step}

/-- **What calls come to**, one after the other, the first of them in front
of the text. -/
inductive Proceeds : List Char → List Call → Prop
  | nil {text : List Char} : Proceeds text []
  /-- The next call goes on where this one stopped, and nothing is read
  after the end. -/
  | cons {c : Call} {calls : List Call} :
      c.Regular → (c.answer = .ok .finish → ∀ c' ∈ calls, c'.Fails) →
      Proceeds c.left calls → Proceeds (c.taken ++ c.left) (c :: calls)

/-- A finished scanner answers nothing, whatever mode it is turned to. -/
theorem fails_of_finished (hs : s.finished = true) (script : List Step) :
    ∀ c ∈ s.calls script, c.Fails := by
  have hnext : s.next = (.error .pastEnd, s) := if_pos hs
  induction script generalizing s with
  | nil => exact List.forall_mem_nil _
  | cons step script ih =>
    cases step with
    | turn mode => exact ih hs (if_pos hs)
    | next =>
      rw [Scanner.calls, hnext]
      exact List.forall_mem_cons.2 ⟨⟨.pastEnd, rfl, rfl⟩, ih hs hnext⟩

/-- **The calls of a script proceed.** A scanner that is finished has
nothing left, and keeps so. -/
theorem proceeds_calls (hs : s.finished = true → s.rest = []) (script : List Step) :
    Proceeds s.rest (s.calls script) ∧ (s.calls script).map Call.mode = modes s.mode script := by
  induction script generalizing s with
  | nil => exact ⟨.nil, rfl⟩
  | cons step script ih =>
    cases step with
    | turn mode => exact ih (s := s.turned mode) hs
    | next =>
      obtain ⟨c, hregular, hmode, hrest, hnext⟩ := regular_next hs
      -- what the call took is what it left less of
      have hcalls : s.calls (.next :: script) = c :: s.next.2.calls script := by
        rw [Scanner.calls, hnext, hrest]
        simp [← hmode]
      have hfinished : s.next.2.finished = true → s.next.2.rest = [] := by
        rw [hnext]
        intro h
        rcases Bool.or_eq_true_iff.1 h with hbefore | hend
        · exact (List.append_eq_nil_iff.1 (hrest ▸ hs hbefore)).2
        · exact (hregular.of_finish (beq_iff_eq.1 hend)).2.2
      have hlater : c.answer = .ok .finish → ∀ c' ∈ s.next.2.calls script, c'.Fails := by
        intro hend
        refine fails_of_finished ?_ script
        rw [hnext, hend]
        exact Bool.or_true _
      obtain ⟨hproceeds, hmodes⟩ := ih hfinished
      have hleft : s.next.2.rest = c.left := by rw [hnext]
      have hkept : s.next.2.mode = s.mode := by rw [hnext]
      rw [hleft] at hproceeds
      rw [hcalls, hrest, List.map_cons, hmodes, hkept, hmode, modes]
      exact ⟨.cons hregular hlater hproceeds, rfl⟩

/-- The calls are regular. -/
theorem Proceeds.regular (h : Proceeds text calls) : ∀ c ∈ calls, c.Regular := by
  induction h with
  | nil => exact List.forall_mem_nil _
  | cons hregular _ _ ih => exact List.forall_mem_cons.2 ⟨hregular, ih⟩

/-- **A call goes on where the calls before it stopped.** -/
theorem Proceeds.adjacent (h : Proceeds text (earlier ++ c :: later)) :
    text = earlier.flatMap Call.taken ++ (c.taken ++ c.left) := by
  induction earlier generalizing text with
  | nil =>
    cases h
    rfl
  | cons c' earlier ih =>
    cases h with
    | cons _ _ hrest => rw [List.flatMap_cons, List.append_assoc, ← ih hrest]

/-- **Nothing is read after the end.** -/
theorem Proceeds.fails_of_finish (h : Proceeds text (earlier ++ c :: later))
    (hanswer : c.answer = .ok .finish) : ∀ c' ∈ later, c'.Fails := by
  induction earlier generalizing text with
  | nil =>
    cases h with
    | cons _ hlater _ => exact hlater hanswer
  | cons c' earlier ih =>
    cases h with
    | cons _ _ hrest => exact ih hrest

/-- **Each token takes at least one character**, so there are no more tokens
than characters. -/
theorem Proceeds.length_le (h : Proceeds text calls) :
    (calls.filterMap Call.token?).length ≤ text.length := by
  induction h with
  | nil => exact Nat.zero_le _
  | @cons c calls hregular _ _ ih =>
    rw [List.length_append]
    cases htoken : c.token? with
    | none =>
      rw [List.filterMap_cons_none htoken]
      omega
    | some t =>
      obtain ⟨w, word, htaken, -, -, hne, -⟩ := hregular.writtenAs htoken
      have hpos : 0 < word.length := List.length_pos_iff.2 hne
      rw [List.filterMap_cons_some htoken, List.length_cons, htaken, List.length_append]
      omega

/-- **The end is read once** at most. -/
theorem Proceeds.countP_finish_le (h : Proceeds text calls) :
    calls.countP (fun c => c.answer = .ok .finish) ≤ 1 := by
  induction h with
  | nil => exact Nat.zero_le _
  | @cons c calls _ hlater _ ih =>
    rw [List.countP_cons]
    by_cases hend : c.answer = .ok .finish
    · have hnone : calls.countP (fun c => c.answer = .ok .finish) = 0 := by
        refine List.countP_eq_zero.2 fun c' hc' => ?_
        obtain ⟨fault, hfault, -⟩ := hlater hend c' hc'
        simp [hfault]
      simp [hnone, hend]
    · simpa [hend] using ih

/-- **What holds of every script** of calls in front of a text. -/
structure InOrder (text : String) (script : List Step) : Prop where
  /-- Each call is made in the mode that the scanner was turned to last. -/
  mode : ((ofString text).calls script).map Call.mode = modes .plain script
  /-- What the calls take follows one another from the start of the text. -/
  adjacent : ∀ earlier c later, (ofString text).calls script = earlier ++ c :: later →
    text.toList = earlier.flatMap Call.taken ++ (c.taken ++ c.left)
  /-- A call that reads a token takes the characters of the token, which
  are one at least, and in front of them only white space, and this only
  outside literals. -/
  token : ∀ c ∈ (ofString text).calls script, ∀ t, c.token? = some t →
    ∃ w word, c.taken = w ++ word ∧ IsSpace w ∧ (c.mode = .quoted → w = []) ∧
      word ≠ [] ∧ t.WrittenAs word
  /-- There are no more tokens than characters. -/
  length_le : (((ofString text).calls script).filterMap Call.token?).length ≤ text.length
  /-- The end is read outside literals, where nothing is left but white
  space, and every later call fails. -/
  finish : ∀ earlier c later, (ofString text).calls script = earlier ++ c :: later →
    c.answer = .ok .finish →
    c.mode = .plain ∧ IsSpace (c.taken ++ c.left) ∧ ∀ c' ∈ later, c'.Fails
  /-- It is read once at most. -/
  once : ((ofString text).calls script).countP (fun c => c.answer = .ok .finish) ≤ 1
  /-- Within a literal that no quote ends a call fails and takes all that
  is left. -/
  unterminated : ∀ c ∈ (ofString text).calls script, c.mode = .quoted →
    quoteChar ∉ c.taken ++ c.left → c.Fails ∧ c.left = []

/-- **A text is read in order, without loss, and its end once**, whatever
the script. -/
theorem calls_inOrder (text : String) (script : List Step) : InOrder text script := by
  obtain ⟨hproceeds, hmodes⟩ := proceeds_calls (s := ofString text) nofun script
  have hregular := hproceeds.regular
  refine ⟨hmodes, ?_, ?_, ?_, ?_, hproceeds.countP_finish_le, ?_⟩
  · intro earlier c later hcalls
    exact (hcalls ▸ hproceeds).adjacent
  · exact fun c hc t => (hregular c hc).writtenAs
  · rw [← String.length_toList]
    exact hproceeds.length_le
  · intro earlier c later hcalls hanswer
    have hc : c ∈ (ofString text).calls script := by simp [hcalls]
    obtain ⟨hmode, hspace, hleft⟩ := (hregular c hc).of_finish hanswer
    refine ⟨hmode, ?_, (hcalls ▸ hproceeds).fails_of_finish hanswer⟩
    rwa [hleft, List.append_nil]
  · exact fun c hc => (hregular c hc).of_unterminated

/-- Turned within a word, the scanner reads up to the quote and goes on
with the word after it. -/
example :
    ((ofString "ab c\"d").calls
        [.next, .turn .quoted, .next, .next, .turn .plain, .next, .next, .next]).map Call.answer =
      [.ok (.field "ab"), .ok (.literal " c"), .ok .quote, .ok (.field "d"), .ok .finish,
        .error .pastEnd] := by
  decide +kernel

end Calls

end Query

end Cardfile
