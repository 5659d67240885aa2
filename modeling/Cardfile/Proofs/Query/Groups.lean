import Cardfile.Query.Tokens
import Cardfile.Proofs.Query.Script
import Cardfile.Proofs.Query.Sentences
import Mathlib.Data.PFun
/-!
# Query — tokens in groups

A text is read token by token, and a condition is completed as soon as
its last token is known. The outcome is that of two phases: all tokens of
the text are found first, and then cut into groups, each of which is a
condition or has a fault (`read_inGroups`). The first fault of the text is
the one reported, whether it is one of a group or of a token.
-/

namespace Cardfile

namespace Query

open Text Scanner

variable {schema : Schema}

/-! ## Groups -/

/-- The token completes a group. -/
def Token.completes (t : Token) : Bool := t.kind == .conjunction || t.kind == .finish

/-- **The groups of tokens.** Quotes are dropped, and what is cut off at the
conjunctions and at the end is a group; what comes after the last of these
is none. -/
def groups (ts : List Token) : List (List Token) :=
  ((ts.filter fun t => t.kind ≠ .quote).splitOnP Token.completes).dropLast

/-- **The group is a condition**: the name of a column, an operator and a
literal. -/
inductive Forms (schema : Schema) : List Token → Condition → Prop
  | intro {c : Condition} {name : String} : schema.names[c.column]? = some name →
      Forms schema [.field name, .operator c.operator.symbol, .literal c.literal] c

/-- **The fault of a group** that is no condition, found in this order. -/
inductive Malformed (schema : Schema) : List Token → QueryFault → Prop
  | arity {group : List Token} : group.length ≠ 3 → Malformed schema group (.arity group)
  | left {l m r : Token} : l.kind ≠ .field → Malformed schema [l, m, r] (.left l)
  | middle {l m r : Token} :
      l.kind = .field → m.kind ≠ .operator → Malformed schema [l, m, r] (.middle m)
  | right {l m r : Token} :
      l.kind = .field → m.kind = .operator → r.kind ≠ .literal →
      Malformed schema [l, m, r] (.right r)
  | unknownColumn {l m r : Token} :
      l.kind = .field → m.kind = .operator → r.kind = .literal → l.text ∉ schema.names →
      Malformed schema [l, m, r] (.unknownColumn l.text schema.names)

/-- **The token may be part of a condition.** -/
inductive Token.IsPart : Token → Prop
  | field {name : String} : IsPart (.field name)
  | operator {op : Operator} : IsPart (.operator op.symbol)
  | literal {text : String} : IsPart (.literal text)

section Groups

variable {group ts : List Token} {t : Token} {c : Condition} {fault : QueryFault}

theorem Token.IsPart.of_field (h : t.IsPart) (hkind : t.kind = .field) :
    ∃ name, t = .field name := by
  cases h with
  | field => exact ⟨_, rfl⟩
  | operator | literal => cases hkind

theorem Token.IsPart.of_operator (h : t.IsPart) (hkind : t.kind = .operator) :
    ∃ op : Operator, t = .operator op.symbol := by
  cases h with
  | operator => exact ⟨_, rfl⟩
  | field | literal => cases hkind

theorem Token.IsPart.of_literal (h : t.IsPart) (hkind : t.kind = .literal) :
    ∃ text, t = .literal text := by
  cases h with
  | literal => exact ⟨_, rfl⟩
  | field | operator => cases hkind

/-- A part is gathered, whatever its kind. -/
theorem Token.IsPart.gathered (h : t.IsPart) :
    t ≠ .finish ∧ t.kind ≠ .quote ∧ t.kind ≠ .conjunction ∧ t.completes = false := by
  cases h <;> exact ⟨nofun, nofun, nofun, rfl⟩

theorem filter_of_isPart (h : ∀ t ∈ group, t.IsPart) :
    (group.filter fun t => t.kind ≠ .quote) = group :=
  List.filter_eq_self.2 fun t ht => decide_eq_true (h t ht).gathered.2.1

/-- A quote is dropped. -/
theorem groups_quote (group ts : List Token) :
    groups (group ++ .quote :: ts) = groups (group ++ ts) := by
  rw [groups, groups, List.filter_append, List.filter_append]
  rfl

/-- **A group ends where it is completed.** -/
theorem groups_completed (hgroup : ∀ t ∈ group, t.IsPart) (ht : t = .conjunction ∨ t = .finish) :
    groups (group ++ t :: ts) = group :: groups ts := by
  have hfilter : (t :: ts).filter (fun t => t.kind ≠ .quote) =
      t :: ts.filter (fun t => t.kind ≠ .quote) := by
    obtain rfl | rfl := ht <;> rfl
  have hcompletes : t.completes = true := by
    obtain rfl | rfl := ht <;> rfl
  rw [groups, groups, List.filter_append, filter_of_isPart hgroup, hfilter,
    List.splitOnP_append_cons_of_forall_mem (fun t ht => (hgroup t ht).gathered.2.2.2) _ hcompletes,
    List.dropLast_cons_of_ne_nil (List.splitOnP_ne_nil _ _)]

/-- What is not completed is no group. -/
theorem groups_open (hgroup : ∀ t ∈ group, t.IsPart) : groups group = [] := by
  rw [groups, filter_of_isPart hgroup,
    List.splitOnP_eq_singleton fun t ht => (hgroup t ht).gathered.2.2.2]
  rfl

/-- **The tokens of a condition** spell it. -/
theorem conditionOf_eq_ok_iff (hschema : schema.Registered) (hgroup : ∀ t ∈ group, t.IsPart) :
    conditionOf schema group = .ok c ↔ Forms schema group c := by
  rw [conditionOf_eq_ok]
  constructor
  · rintro ⟨field, operator, literal, rfl, hfield, hoperator, hliteral, hcolumn, hop, hvalue⟩
    simp only [List.forall_mem_cons] at hgroup
    obtain ⟨hl, hm, hr, -⟩ := hgroup
    obtain ⟨name, rfl⟩ := hl.of_field hfield
    obtain ⟨op, rfl⟩ := hm.of_operator hoperator
    obtain ⟨text, rfl⟩ := hr.of_literal hliteral
    obtain ⟨column, op', literal⟩ := c
    obtain rfl : op = op' := Option.some.inj ((ofSymbol?_symbol op).symm.trans hop)
    obtain rfl : text = literal := hvalue
    exact .intro (hschema.place?_eq_some.1 hcolumn)
  · rintro ⟨hname⟩
    exact ⟨_, _, _, rfl, rfl, rfl, rfl, hschema.place?_eq_some.2 hname, ofSymbol?_symbol _, rfl⟩

theorem conditionOf_of_length_ne (h : group.length ≠ 3) :
    conditionOf schema group = .error (.arity group) := by
  match group, h with
  | [], _ | [_], _ | [_, _], _ | _ :: _ :: _ :: _ :: _, _ => rfl
  | [_, _, _], h => exact absurd rfl h

/-- **And tokens that spell none** have the fault that comes first. -/
theorem conditionOf_eq_error_iff (hschema : schema.Registered) (hgroup : ∀ t ∈ group, t.IsPart) :
    conditionOf schema group = .error fault ↔ Malformed schema group fault := by
  constructor
  · intro h
    by_cases hlength : group.length = 3
    · obtain ⟨l, m, r, rfl⟩ := List.length_eq_three.1 hlength
      rw [conditionOf] at h
      split_ifs at h with hl hm hr
      · cases h
        exact .left hl
      · cases h
        exact .middle (not_not.1 hl) hm
      · cases h
        exact .right (not_not.1 hl) (not_not.1 hm) hr
      · split at h
        · next hplace =>
          cases h
          exact .unknownColumn (not_not.1 hl) (not_not.1 hm) (not_not.1 hr)
            (hschema.place?_eq_none.1 hplace)
        · next hop =>
          -- an operator was read from its symbol
          have hpart : m.IsPart := hgroup m (by simp)
          obtain ⟨op, rfl⟩ := hpart.of_operator (not_not.1 hm)
          cases (ofSymbol?_symbol op).symm.trans hop
        · cases h
    · rw [conditionOf_of_length_ne hlength] at h
      cases h
      exact .arity hlength
  · intro h
    cases h with
    | arity hlength => exact conditionOf_of_length_ne hlength
    | left hl => rw [conditionOf, if_pos hl]
    | middle hl hm => rw [conditionOf, if_neg (not_not.2 hl), if_pos hm]
    | right hl hm hr =>
      rw [conditionOf, if_neg (not_not.2 hl), if_neg (not_not.2 hm), if_pos hr]
    | unknownColumn hl hm hr hname =>
      rw [conditionOf, if_neg (not_not.2 hl), if_neg (not_not.2 hm), if_neg (not_not.2 hr),
        hschema.place?_eq_none.2 hname]

end Groups

/-! ## The tokens of a text -/

section Tokens

variable {mode : Mode} {text rest : List Char} {t : Token} {fault : TokenFault}
  {s s' : Scanner} {gathered : List Token}

/-- **What a token is**, apart from the end. -/
theorem Reads.cases_kind (h : Reads mode text t rest) :
    t = .quote ∨ t = .conjunction ∨ t.IsPart := by
  obtain ⟨_, _, _, _, _, _, hwritten⟩ := h.writtenAs
  cases hwritten with
  | quote => exact .inl rfl
  | conjunction => exact .inr (.inl rfl)
  | field => exact .inr (.inr .field)
  | operator => exact .inr (.inr .operator)
  | literal => exact .inr (.inr .literal)

/-- **Induction on what is left to read.** A fault or the end is met, or a
quote, which turns the scanner, or a token that completes a condition or
is part of one. -/
@[elab_as_elim]
theorem before_induction {motive : Mode → List Char → Prop}
    (fault : ∀ mode text fault s',
      (before mode text).next = (.error fault, s') → motive mode text)
    (finish : ∀ mode text s', (before mode text).next = (.ok .finish, s') → motive mode text)
    (quote : ∀ mode text rest, (before mode text).next = (.ok .quote, before mode rest) →
      motive mode.toggled rest → motive mode text)
    (conjunction : ∀ mode text rest,
      (before mode text).next = (.ok .conjunction, before mode rest) →
      motive mode rest → motive mode text)
    (part : ∀ mode text rest t, (before mode text).next = (.ok t, before mode rest) →
      t.IsPart → motive mode rest → motive mode text)
    (mode : Mode) (text : List Char) : motive mode text := by
  induction hn : text.length using Nat.strong_induction_on generalizing mode text with
  | _ n ih =>
    subst hn
    cases hnext : (before mode text).next with
    | mk answer s' =>
      cases answer with
      | error cause => exact fault mode text cause s' hnext
      | ok t =>
        obtain ⟨rfl, -, -⟩ | ⟨rest, rfl, hreads⟩ := reads_of_next hnext
        · exact finish mode text s' hnext
        · have hlt (ht : t ≠ .finish) : rest.length < text.length := length_lt_of_next hnext ht
          obtain rfl | rfl | hpart := hreads.cases_kind
          · exact quote mode text rest hnext (ih _ (hlt nofun) mode.toggled rest rfl)
          · exact conjunction mode text rest hnext (ih _ (hlt nofun) mode rest rfl)
          · exact part mode text rest t hnext hpart (ih _ (hlt hpart.gathered.1) mode rest rfl)

theorem tokensFrom_error (h : s.next = (.error fault, s')) : tokensFrom s = ([], some fault) := by
  rw [tokensFrom]
  split
  · next heq =>
    rw [h] at heq
    cases heq
    rfl
  · next heq =>
    rw [h] at heq
    cases heq

theorem tokensFrom_ok (h : s.next = (.ok t, s')) :
    tokensFrom s =
      if t = .finish then ([t], none)
      else
        (t :: (tokensFrom (if t.kind = .quote then s'.toggled else s')).1,
          (tokensFrom (if t.kind = .quote then s'.toggled else s')).2) := by
  rw [tokensFrom]
  split
  · next heq =>
    rw [h] at heq
    cases heq
  · next heq =>
    rw [h] at heq
    cases heq
    rfl

theorem tokensFrom_finish (h : s.next = (.ok .finish, s')) : tokensFrom s = ([.finish], none) := by
  rw [tokensFrom_ok h, if_pos rfl]

theorem tokensFrom_quote (h : s.next = (.ok .quote, s')) :
    tokensFrom s = (.quote :: (tokensFrom s'.toggled).1, (tokensFrom s'.toggled).2) := by
  rw [tokensFrom_ok h, if_neg nofun]
  rfl

theorem tokensFrom_token (h : s.next = (.ok t, s')) (hfinish : t ≠ .finish)
    (hquote : t.kind ≠ .quote) :
    tokensFrom s = (t :: (tokensFrom s').1, (tokensFrom s').2) := by
  rw [tokensFrom_ok h, if_neg hfinish, if_neg hquote]

theorem Token.IsPart.forall_append_singleton (h : t.IsPart)
    (hgathered : ∀ u ∈ gathered, u.IsPart) : ∀ u ∈ gathered ++ [t], u.IsPart :=
  List.forall_mem_append.2 ⟨hgathered, List.forall_mem_singleton.2 h⟩

/-- **The groups of a text** have parts of conditions only. -/
theorem isPart_of_mem_groups (mode : Mode) (text : List Char)
    (hgathered : ∀ t ∈ gathered, t.IsPart) :
    ∀ group ∈ groups (gathered ++ (tokensFrom (before mode text)).1), ∀ t ∈ group, t.IsPart := by
  induction mode, text using before_induction generalizing gathered with
  | fault mode text cause s' hnext =>
    rw [tokensFrom_error hnext, List.append_nil, groups_open hgathered]
    exact List.forall_mem_nil _
  | finish mode text s' hnext =>
    rw [tokensFrom_finish hnext, groups_completed hgathered (.inr rfl)]
    exact List.forall_mem_cons.2 ⟨hgathered, List.forall_mem_nil _⟩
  | quote mode text rest hnext ih =>
    rw [tokensFrom_quote hnext, groups_quote]
    exact ih hgathered
  | conjunction mode text rest hnext ih =>
    rw [tokensFrom_token hnext nofun nofun, groups_completed hgathered (.inl rfl)]
    exact List.forall_mem_cons.2 ⟨hgathered, ih (List.forall_mem_nil _)⟩
  | part mode text rest t hnext hpart ih =>
    obtain ⟨hfinish, hquote, -, -⟩ := hpart.gathered
    have hrest := ih (hpart.forall_append_singleton hgathered)
    rw [← List.append_cons] at hrest
    rwa [tokensFrom_token hnext hfinish hquote]

end Tokens

/-! ## Conditions of the groups -/

section Phases

variable {mode : Mode} {text : List Char} {gathered group : List Token} {gs : List (List Token)}
  {ending : Option TokenFault} {conditions : List Condition} {fault : QueryFault}

/-- **The second phase**: the conditions of the groups, unless the tokens
end with a fault. -/
def conditionsIn (schema : Schema) (gs : List (List Token)) (ending : Option TokenFault) :
    Except QueryFault (List Condition) := do
  let conditions ← gs.mapM (conditionOf schema)
  match ending with
  | none => return conditions
  | some cause => throw (.lexical cause)

theorem conditionsIn_cons :
    conditionsIn schema (group :: gs) ending = do
      let condition ← conditionOf schema group
      let conditions ← conditionsIn schema gs ending
      return condition :: conditions := by
  rw [conditionsIn, conditionsIn, List.mapM_cons]
  cases conditionOf schema group with
  | error fault => rfl
  | ok c =>
    cases gs.mapM (conditionOf schema) with
    | error fault => rfl
    | ok conditions => cases ending <;> rfl

/-- **Reading the tokens as they come is reading in two phases.** -/
theorem conditionsFrom_eq_conditionsIn (mode : Mode) (text : List Char)
    (hgathered : ∀ t ∈ gathered, t.IsPart) :
    conditionsFrom schema (before mode text) gathered =
      conditionsIn schema (groups (gathered ++ (tokensFrom (before mode text)).1))
        (tokensFrom (before mode text)).2 := by
  induction mode, text using before_induction generalizing gathered with
  | fault mode text cause s' hnext =>
    rw [conditionsFrom_error hnext, tokensFrom_error hnext, List.append_nil, groups_open hgathered]
    rfl
  | finish mode text s' hnext =>
    rw [conditionsFrom_finish hnext, tokensFrom_finish hnext,
      groups_completed hgathered (.inr rfl), conditionsIn_cons]
    cases conditionOf schema gathered <;> rfl
  | quote mode text rest hnext ih =>
    rw [conditionsFrom_quote hnext, tokensFrom_quote hnext, groups_quote]
    exact ih hgathered
  | conjunction mode text rest hnext ih =>
    -- the condition is asked for before the tokens after it, and so is its group
    have hkind : Token.conjunction.kind = .conjunction := rfl
    rw [conditionsFrom_token hnext nofun nofun, if_pos hkind, tokensFrom_token hnext nofun nofun,
      groups_completed hgathered (.inl rfl), conditionsIn_cons, ih (List.forall_mem_nil _)]
    rfl
  | part mode text rest t hnext hpart ih =>
    obtain ⟨hfinish, hquote, hconjunction, -⟩ := hpart.gathered
    have hrest := ih (hpart.forall_append_singleton hgathered)
    rw [← List.append_cons] at hrest
    rwa [conditionsFrom_token hnext hfinish hquote, if_neg hconjunction,
      tokensFrom_token hnext hfinish hquote]

theorem conditionsIn_eq_ok :
    conditionsIn schema gs ending = .ok conditions ↔
      ending = none ∧ gs.mapM (conditionOf schema) = .ok conditions := by
  rw [conditionsIn, bind_eq_ok]
  cases ending with
  | none => simp [pure, Except.pure]
  | some cause => simp [throw, throwThe, MonadExceptOf.throw]

theorem conditionsIn_eq_error :
    conditionsIn schema gs ending = .error fault ↔
      gs.mapM (conditionOf schema) = .error fault ∨
      ∃ cause, ending = some cause ∧ (∃ conditions, gs.mapM (conditionOf schema) = .ok conditions) ∧
        fault = .lexical cause := by
  rw [conditionsIn, bind_eq_error]
  cases ending with
  | none => simp [pure, Except.pure]
  | some cause => simp [throw, throwThe, MonadExceptOf.throw, eq_comm]

end Phases

/-! ## The loop -/

section Loop

variable {mode : Mode} {text : List Char} {gathered : List Token} {conditions : List Condition}

/-- **How far the reader has come.** -/
structure Progress where
  /-- What is left of the text. -/
  scanner : Scanner
  /-- The tokens since the last condition. -/
  gathered : List Token
  /-- The conditions so far. -/
  conditions : List Condition

/-- The reader in front of a text. -/
def Progress.start (text : String) : Progress := ⟨ofString text, [], []⟩

/-- One round of the reader: it has its answer, or goes on. -/
def Progress.round (schema : Schema) (p : Progress) :
    Except QueryFault (List Condition) ⊕ Progress :=
  match p.scanner.next with
  | (.error cause, _) => .inl (.error (.lexical cause))
  | (.ok t, s) =>
    match t.kind with
    | .quote => .inr { p with scanner := s.toggled }
    | .conjunction =>
      match conditionOf schema p.gathered with
      | .error fault => .inl (.error fault)
      | .ok c => .inr ⟨s, [], p.conditions ++ [c]⟩
    | .finish =>
      match conditionOf schema p.gathered with
      | .error fault => .inl (.error fault)
      | .ok c => .inl (.ok (p.conditions ++ [c]))
    | _ => .inr { p with scanner := s, gathered := p.gathered ++ [t] }

/-- **The reader as a loop**, which has no answer if its rounds do not end. -/
def rounds (schema : Schema) : Progress →. Except QueryFault (List Condition) :=
  PFun.fix fun p => Part.some (p.round schema)

theorem rounds_of_answer {p : Progress} {answer : Except QueryFault (List Condition)}
    (h : p.round schema = .inl answer) : rounds schema p = Part.some answer :=
  Part.eq_some_iff.2 (PFun.fix_stop (Part.mem_some_iff.2 h.symm))

theorem rounds_of_goesOn {p q : Progress} (h : p.round schema = .inr q) :
    rounds schema p = rounds schema q :=
  PFun.fix_fwd_eq (Part.mem_some_iff.2 h.symm)

/-- **The loop ends**, with the conditions so far and those that are left. -/
theorem rounds_eq (mode : Mode) (text : List Char) :
    rounds schema ⟨before mode text, gathered, conditions⟩ =
      Part.some ((conditionsFrom schema (before mode text) gathered).map (conditions ++ ·)) := by
  induction mode, text using before_induction generalizing gathered conditions with
  | fault mode text cause s' hnext =>
    rw [conditionsFrom_error hnext]
    refine rounds_of_answer ?_
    simp only [Progress.round, hnext]
    rfl
  | finish mode text s' hnext =>
    rw [conditionsFrom_finish hnext]
    refine rounds_of_answer ?_
    simp only [Progress.round, hnext]
    cases conditionOf schema gathered <;> rfl
  | quote mode text rest hnext ih =>
    rw [conditionsFrom_quote hnext]
    refine (rounds_of_goesOn ?_).trans ih
    simp only [Progress.round, hnext]
    rfl
  | conjunction mode text rest hnext ih =>
    have hkind : Token.conjunction.kind = .conjunction := rfl
    rw [conditionsFrom_token hnext nofun nofun, if_pos hkind]
    cases hc : conditionOf schema gathered with
    | error fault =>
      refine rounds_of_answer ?_
      simp only [Progress.round, hnext, hkind, hc]
      rfl
    | ok c =>
      -- the condition joins those that the loop has, or those that are left
      have hround : Progress.round schema ⟨before mode text, gathered, conditions⟩ =
          .inr ⟨before mode rest, [], conditions ++ [c]⟩ := by
        simp only [Progress.round, hnext, hkind, hc]
      rw [rounds_of_goesOn hround, ih]
      cases conditionsFrom schema (before mode rest) [] with
      | error fault => rfl
      | ok more =>
        have hmore : conditions ++ [c] ++ more = conditions ++ c :: more := by
          rw [← List.append_cons]
        exact congrArg (Part.some ∘ Except.ok) hmore
  | part mode text rest t hnext hpart ih =>
    obtain ⟨hfinish, hquote, hconjunction, -⟩ := hpart.gathered
    rw [conditionsFrom_token hnext hfinish hquote, if_neg hconjunction]
    refine (rounds_of_goesOn ?_).trans ih
    simp only [Progress.round, hnext]
    cases hpart <;> rfl

end Loop

/-! ## Reading -/

section Read

variable {text : String} {conditions : List Condition} {fault : QueryFault}

/-- The groups of a text are read one by one. -/
theorem read_eq_conditionsIn (text : String) :
    read schema text = conditionsIn schema (groups (tokens text).1) (tokens text).2 :=
  conditionsFrom_eq_conditionsIn .plain text.toList (List.forall_mem_nil _)

theorem isPart_of_mem_groups_tokens (text : String) :
    ∀ group ∈ groups (tokens text).1, ∀ t ∈ group, t.IsPart :=
  isPart_of_mem_groups .plain text.toList (List.forall_mem_nil _)

/-- **Conditions are read** if all tokens are and each group is a condition. -/
theorem read_eq_ok_iff_groups (hschema : schema.Registered) :
    read schema text = .ok conditions ↔
      (tokens text).2 = none ∧ List.Forall₂ (Forms schema) (groups (tokens text).1) conditions := by
  rw [read_eq_conditionsIn, conditionsIn_eq_ok, mapM_eq_ok]
  have hparts := isPart_of_mem_groups_tokens text
  refine and_congr_right fun _ => ⟨fun h => ?_, fun h => ?_⟩ <;>
    refine ((List.forall₂_and_left _ _).2 ⟨hparts, h⟩).imp fun group c hc => ?_
  · exact (conditionOf_eq_ok_iff hschema hc.1).1 hc.2
  · exact (conditionOf_eq_ok_iff hschema hc.1).2 hc.2

/-- **Otherwise the first fault is told**: that of a group, if there is one
in front of the fault of a token. -/
theorem read_eq_error_iff_groups (hschema : schema.Registered) :
    read schema text = .error fault ↔
      (∃ before group after, groups (tokens text).1 = before ++ group :: after ∧
        (∀ g ∈ before, ∃ c, Forms schema g c) ∧ Malformed schema group fault) ∨
      ∃ cause, (tokens text).2 = some cause ∧
        (∀ g ∈ groups (tokens text).1, ∃ c, Forms schema g c) ∧ fault = .lexical cause := by
  have hparts := isPart_of_mem_groups_tokens text
  have hforms : ∀ g ∈ groups (tokens text).1,
      (∃ c, conditionOf schema g = .ok c) ↔ ∃ c, Forms schema g c :=
    fun g hg => exists_congr fun c => conditionOf_eq_ok_iff hschema (hparts g hg)
  rw [read_eq_conditionsIn, conditionsIn_eq_error, mapM_eq_error, exists_mapM_eq_ok,
    forall₂_congr hforms]
  refine or_congr_left ?_
  refine exists_congr fun before => exists_congr fun group => exists_congr fun after =>
    and_congr_right fun hgroups => ?_
  rw [hgroups, List.forall_mem_append, List.forall_mem_cons] at hparts hforms
  exact and_congr (forall₂_congr hforms.1) (conditionOf_eq_error_iff hschema hparts.2.1)

/-- **What holds of reading a text** against a schema. -/
structure ReadsInGroups (schema : Schema) (text : String) : Prop where
  /-- Conditions are read if all tokens are and each group is a condition,
  and then these conditions, in order. -/
  ok_iff : ∀ conditions, read schema text = .ok conditions ↔
    (tokens text).2 = none ∧ List.Forall₂ (Forms schema) (groups (tokens text).1) conditions
  /-- Otherwise the fault is that of the first group that is no condition,
  if there is one in front of the fault of a token, and else this one. -/
  error_iff : ∀ fault, read schema text = .error fault ↔
    (∃ before group after, groups (tokens text).1 = before ++ group :: after ∧
      (∀ g ∈ before, ∃ c, Forms schema g c) ∧ Malformed schema group fault) ∨
    ∃ cause, (tokens text).2 = some cause ∧ (∀ g ∈ groups (tokens text).1, ∃ c, Forms schema g c) ∧
      fault = .lexical cause
  /-- The loop ends. -/
  ends : rounds schema (.start text) = Part.some (read schema text)
  /-- An operator that was read is known. -/
  known : ∀ symbol, read schema text ≠ .error (.unknownOperator symbol)

/-- **A text is read group by group**, and the first of its faults is told
if it has one. -/
theorem read_inGroups {hash : String → UInt64} {columns : List Column}
    (h : Schema.ofColumnsWith hash columns = .ok schema) (text : String) :
    ReadsInGroups schema text := by
  have hschema := Schema.registered_ofColumnsWith h
  refine ⟨fun _ => read_eq_ok_iff_groups hschema, fun _ => read_eq_error_iff_groups hschema, ?_, ?_⟩
  · refine (rounds_eq .plain text.toList).trans ?_
    change Part.some ((read schema text).map _) = _
    cases read schema text <;> rfl
  · intro symbol hread
    obtain ⟨_, _, _, -, -, hmalformed⟩ | ⟨_, -, -, hlexical⟩ :=
      (read_eq_error_iff_groups hschema).1 hread
    · cases hmalformed
    · cases hlexical

/-- A group of one token is told, and not the token behind it that cannot be
read. -/
theorem read_inGroups_of_two_faults :
    Schema.ofColumnsWith Hashing.constant keyAndNumber.columns = .ok keyAndNumber ∧
      ReadsInGroups keyAndNumber "k=\"1\" AND n AND &" ∧
      read keyAndNumber "k=\"1\" AND n AND &" = .error (.arity [.field "n"]) := by
  have h := read_inGroups ofColumnsWith_keyAndNumber "k=\"1\" AND n AND &"
  have hgroups : groups (tokens "k=\"1\" AND n AND &").1 =
      [[.field "k", .operator "=", .literal "1"]] ++ [.field "n"] :: [] := by
    decide +kernel
  have hk : keyAndNumber.names[0]? = some "k" := rfl
  have hcondition : Forms keyAndNumber [.field "k", .operator "=", .literal "1"]
      ⟨0, .equal, "1"⟩ := .intro (c := ⟨0, .equal, "1"⟩) hk
  have hfirst : ∀ g ∈ [[Token.field "k", .operator "=", .literal "1"]], ∃ c,
      Forms keyAndNumber g c :=
    List.forall_mem_singleton.2 ⟨_, hcondition⟩
  have hfault : Malformed keyAndNumber [.field "n"] (.arity [.field "n"]) := .arity (by decide)
  exact ⟨ofColumnsWith_keyAndNumber, h,
    (h.error_iff _).2 (.inl ⟨_, _, _, hgroups, hfirst, hfault⟩)⟩

end Read

end Query

end Cardfile
