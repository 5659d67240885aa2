import Cardfile.Proofs.Shell.Commands
import Cardfile.Proofs.Listing
import Cardfile.Proofs.Store.Plan
import Mathlib
/-!
# Commands — two ways to ask for a key

`query` chooses its plan, and `indexQuery` takes only what the index can
answer. Side by side there are four things that can happen to an expression
(`query_indexQuery_cases`), and an answer tells which plan it was found by
and whether a record was (`answer_eq_index`). So the answers of the two can
be compared without looking at how they were come by: `indexQuery` answers
exactly where `query` answers by the index, and but for one sentence it
answers the same (`indexQuery_agrees`).
-/

namespace Cardfile

/-- Objects with the same sorted fields have the same fields. -/
theorem Json.mem_of_sorted_eq {fs gs : List (String × Json)} (h : sorted fs = sorted gs)
    {p : String × Json} (hp : p ∈ fs) : p ∈ gs := by
  rw [sorted, sorted, Json.object.injEq] at h
  rw [← List.Perm.mem_iff (List.mergeSort_perm gs _), ← h]
  exact (List.Perm.mem_iff (List.mergeSort_perm fs _)).2 hp

namespace Command

variable {store : Store} {schema : Schema} {e : Option String} {f : Format}
  {records records' : List Record}

/-! ## What an answer tells -/

/-- A listing begins with a border, or with the number of records if there
are none. -/
theorem head?_render (records : List Record) :
    (Listing.render records).toList.head? = some (if records = [] then 'R' else '+') := by
  by_cases hne : records = []
  · subst hne
    decide +kernel
  · rw [if_neg hne, Listing.render, String.toList_intercalate, Listing.map_toList_lines hne,
      List.cons_append, List.intercalate_cons_of_ne_nil (by simp)]
    rfl

theorem records_eq_nil_of_render_eq (h : Listing.render records = Listing.render records') :
    records = [] ↔ records' = [] := by
  have hhead := congrArg (fun text => text.toList.head?) h
  simp only [head?_render, Option.some.injEq] at hhead
  split_ifs at hhead with hnil hnil' hnil' <;> simp_all

/-- No listing begins with the notice. -/
theorem render_ne_notice (records records' : List Record) :
    Listing.render records ≠ indexNotice ++ "\n" ++ Listing.render records' := by
  intro h
  have hnotice : (indexNotice ++ "\n" ++ Listing.render records').toList =
      (indexNotice ++ "\n").toList ++ (Listing.render records').toList := String.toList_append
  have hhead := head?_render records
  rw [h, hnotice, List.head?_append_of_ne_nil _ (by decide)] at hhead
  revert hhead
  split_ifs <;> decide

/-- **An answer tells its plan**, and whether there are records. -/
theorem answer_eq_index {s : Selection}
    (h : answer schema s f = answer schema { plan := .index, records } f) :
    s.plan = .index ∧ (s.records = [] ↔ records = []) := by
  obtain ⟨plan, found⟩ := s
  cases f with
  | table =>
    have h : selectionText ⟨plan, found⟩ = selectionText ⟨.index, records⟩ := by
      injection h
    cases plan with
    | scan => exact absurd h (render_ne_notice found records)
    | index =>
      have htext : ∀ rs, (selectionText ⟨.index, rs⟩).toList =
          (indexNotice ++ "\n").toList ++ (Listing.render rs).toList :=
        fun rs => String.toList_append
      have hlist := congrArg String.toList h
      rw [htext, htext, List.append_cancel_left_eq] at hlist
      exact ⟨rfl, records_eq_nil_of_render_eq (String.toList_injective hlist)⟩
  | json =>
    have h : selectionJson schema ⟨plan, found⟩ = selectionJson schema ⟨.index, records⟩ := by
      injection h
    have hplan : plan.name = Plan.index.name := by
      simpa using Json.mem_of_sorted_eq h (p := ("plan", .string plan.name)) (by simp)
    have hcount : found.length = records.length := by
      simpa using
        Json.mem_of_sorted_eq h (p := ("selected", .number found.length)) (by simp)
    refine ⟨?_, ?_⟩
    · cases plan with
      | index => rfl
      | scan => exact absurd hplan (by decide)
    · show found = [] ↔ records = []
      rw [← List.length_eq_zero_iff, hcount, List.length_eq_zero_iff]

/-! ## The two commands side by side -/

/-- **What can happen to an expression**: there is none, it is no query, it
asks for a key, or it asks for something else. -/
theorem query_indexQuery_cases (store : Store) (e : Option String) (f : Format) :
    (seen e = [] ∧ query store e f = .error (.badUse queryUse) ∧
        indexQuery store e f = .error (.badUse (indexQueryUse store.schema))) ∨
      (∃ fault, seen e ≠ [] ∧
        Query.compile store.schema (String.ofList (seen e)) = .error fault ∧
        query store e f = .error (.query fault) ∧ indexQuery store e f = .error (.query fault)) ∨
      (∃ q records, seen e ≠ [] ∧
        Query.compile store.schema (String.ofList (seen e)) = .ok q ∧
        query store e f = .ok (answer store.schema { plan := .index, records } f) ∧
        indexQuery store e f =
          .ok (if f = .table ∧ records = [] then .text (missingText store.schema)
            else answer store.schema { plan := .index, records } f)) ∨
      ∃ q, seen e ≠ [] ∧ Query.compile store.schema (String.ofList (seen e)) = .ok q ∧
        ((∃ fault, query store e f = .error (.evaluation fault)) ∨
          ∃ records, query store e f = .ok (answer store.schema { plan := .scan, records } f)) ∧
        indexQuery store e f = .error (.badUse (indexQueryUse store.schema)) := by
  rw [query, indexQuery, requireExpression_eq, requireExpression_eq]
  by_cases hseen : seen e = []
  · rw [if_pos hseen, if_pos hseen]
    exact .inl ⟨hseen, rfl, rfl⟩
  rw [if_neg hseen, if_neg hseen]
  refine .inr ?_
  cases hcompile : Query.compile store.schema (String.ofList (seen e)) with
  | error fault =>
    refine .inl ⟨fault, hseen, rfl, ?_, ?_⟩
    all_goals simp only [bind, Except.bind, hcompile, Except.mapError]
  | ok q =>
    refine .inr ?_
    simp only [bind, Except.bind, hcompile, Except.mapError]
    cases hkey : q.indexKey? with
    | some key =>
      refine .inl ⟨q, (store.lookup? key).toList, hseen, rfl, ?_, ?_⟩
      · rw [Store.execute, hkey]
        rfl
      · dsimp only
        split_ifs <;> rfl
    | none =>
      refine .inr ⟨q, hseen, rfl, ?_, rfl⟩
      rw [Store.execute, hkey]
      cases store.scan (Query.accepts q.conditions) with
      | error fault => exact .inl ⟨fault, rfl⟩
      | ok records => exact .inr ⟨records, rfl⟩

/-- **The two commands agree** on an expression. -/
structure Agree (store : Store) (e : Option String) (f : Format) : Prop where
  /-- `indexQuery` answers exactly if `query` answers by the index. -/
  succeeds : (∃ a, indexQuery store e f = .ok a) ↔
    ∃ records, query store e f = .ok (answer store.schema { plan := .index, records } f)
  /-- Then their JSON is the same. -/
  json : f = .json → (∃ a, indexQuery store e f = .ok a) →
    indexQuery store e f = query store e f
  /-- So is their listing if a record is found. -/
  found : ∀ {records : List Record}, records ≠ [] →
    query store e f = .ok (answer store.schema { plan := .index, records } f) →
      indexQuery store e f = query store e f
  /-- If none is found, one says so in a sentence, and the other lists no
  records under its notice. -/
  missing : f = .table →
    query store e f = .ok (answer store.schema { plan := .index, records := [] } f) →
      indexQuery store e f =
          .ok (.text ("A record with the specified " ++ store.schema.keyName
            ++ " does not exist.")) ∧
        query store e f =
          .ok (.text ("Using index for record retrieval.\n" ++ "Records selected: 0"))
  /-- An expression that is no query fails with the same fault in both. -/
  no_query : ∀ {fault : CommandFault} {cause : Query.QueryFault}, seen e ≠ [] →
    indexQuery store e f = .error fault →
      Query.compile store.schema (String.ofList (seen e)) = .error cause →
        query store e f = .error fault ∧ fault.report = cause.report
  /-- Any other expression that `indexQuery` refuses is not what it takes. -/
  other_query : ∀ {fault : CommandFault} {q : Query}, seen e ≠ [] →
    indexQuery store e f = .error fault →
      Query.compile store.schema (String.ofList (seen e)) = .ok q →
        fault.report = { kind := .syntactic,
                         message := some ("The syntax of the command is incorrect. Expected: "
                           ++ ("indexquery " ++ store.schema.keyName ++ "=\"<value>\"")) }
  /-- It fails before any record is read. -/
  no_evaluation : ∀ fault, indexQuery store e f ≠ .error (.evaluation fault)

/-- The two agree where `indexQuery` refuses the expression and `query` does
not go by the index. -/
theorem agree_of_refused {fault : CommandFault} (hindex : indexQuery store e f = .error fault)
    (hplan : ∀ records, query store e f ≠ .ok (answer store.schema { plan := .index, records } f))
    (hno : ∀ cause, seen e ≠ [] →
      Query.compile store.schema (String.ofList (seen e)) = .error cause →
        fault = .query cause ∧ query store e f = .error fault)
    (hother : ∀ q, seen e ≠ [] → Query.compile store.schema (String.ofList (seen e)) = .ok q →
      fault = .badUse (indexQueryUse store.schema))
    (heval : ∀ cause, fault ≠ .evaluation cause) : Agree store e f where
  succeeds := by
    rw [hindex]
    exact ⟨fun ⟨_, h⟩ => (nomatch h), fun ⟨records, h⟩ => absurd h (hplan records)⟩
  json _ := fun ⟨_, h⟩ => nomatch hindex.symm.trans h
  found := fun {records} _ h => absurd h (hplan records)
  missing _ h := absurd h (hplan [])
  no_query := by
    intro fault' cause hseen h hcompile
    cases hindex.symm.trans h
    obtain ⟨hfault, hquery⟩ := hno cause hseen hcompile
    exact ⟨hquery, by rw [hfault]; rfl⟩
  other_query := by
    intro fault' q hseen h hcompile
    cases hindex.symm.trans h
    rw [hother q hseen hcompile]
    rfl
  no_evaluation := by
    intro cause h
    cases hindex.symm.trans h
    exact heval cause rfl

/-- The two agree where `query` goes by the index. -/
theorem agree_of_index
    (hquery : query store e f = .ok (answer store.schema { plan := .index, records } f))
    (hindex : indexQuery store e f =
      .ok (if f = .table ∧ records = [] then .text (missingText store.schema)
        else answer store.schema { plan := .index, records } f)) : Agree store e f := by
  -- Whatever `query` answers by the index, it found as many records or none.
  have hnil : ∀ rs,
      query store e f = .ok (answer store.schema { plan := .index, records := rs } f) →
        (records = [] ↔ rs = []) := by
    intro rs h
    rw [hquery, Except.ok.injEq] at h
    exact (answer_eq_index h).2
  constructor
  case succeeds => exact ⟨fun _ => ⟨records, hquery⟩, fun _ => ⟨_, hindex⟩⟩
  case json =>
    intro hf _
    rw [hindex, hquery, if_neg (by simp [hf])]
  case found =>
    intro rs hne h
    rw [hindex, hquery, if_neg fun hboth => hne ((hnil rs h).1 hboth.2)]
  case missing =>
    intro hf h
    rw [hindex, hquery, if_pos ⟨hf, (hnil [] h).2 rfl⟩, (hnil [] h).2 rfl, hf]
    exact ⟨rfl, rfl⟩
  case no_query => exact fun _ h => nomatch hindex.symm.trans h
  case other_query => exact fun _ h => nomatch hindex.symm.trans h
  case no_evaluation => exact fun _ h => nomatch hindex.symm.trans h

/-- **`indexQuery` answers as `query` does** where `query` goes by the
index, and nowhere else. -/
theorem indexQuery_agrees (store : Store) (e : Option String) (f : Format) : Agree store e f := by
  obtain ⟨hseen, hquery, hindex⟩ | ⟨cause, hseen, hcompile, hquery, hindex⟩ |
    ⟨q, records, hseen, hcompile, hquery, hindex⟩ | ⟨q, hseen, hcompile, hquery, hindex⟩ :=
      query_indexQuery_cases store e f
  · refine agree_of_refused hindex (by simp [hquery]) ?_ ?_ (by simp)
    · exact fun _ h => absurd hseen h
    · exact fun _ h => absurd hseen h
  · refine agree_of_refused hindex (by simp [hquery]) ?_ ?_ (by simp)
    · intro cause' _ h
      cases hcompile.symm.trans h
      exact ⟨rfl, hquery⟩
    · exact fun _ _ h => nomatch hcompile.symm.trans h
  · exact agree_of_index hquery hindex
  · refine agree_of_refused hindex ?_ ?_ ?_ (by simp)
    · intro records h
      obtain ⟨fault, hfault⟩ | ⟨found, hfound⟩ := hquery
      · exact nomatch hfault.symm.trans h
      · rw [hfound, Except.ok.injEq] at h
        exact nomatch (answer_eq_index h).1
    · exact fun _ _ h => nomatch hcompile.symm.trans h
    · exact fun _ _ _ => rfl

example : (indexQuery Store.hyphenated (some "k=\"b\"") .table).toOption.map Answer.toText =
    some "A record with the specified k does not exist." := by decide +kernel

example : (query Store.hyphenated (some "k=\"b\"") .table).toOption.map Answer.toText =
    some "Using index for record retrieval.\nRecords selected: 0" := by decide +kernel

end Command

end Cardfile
