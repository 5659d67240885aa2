import Cardfile.Store.Select
import Cardfile.Proofs.Query.Satisfies
import Cardfile.Proofs.Query.Sentences
import Cardfile.Proofs.Store.Rows
import Mathlib
/-!
# Stores — what a scan selects

A scan asks the conditions of each record in turn. If none of them is
broken for the columns of the store, it selects the records that satisfy
all of them. Otherwise the first broken condition decides: the scan fails
with its fault as soon as a record satisfies all conditions before it,
and selects nothing if none does (`scan_eq`).
-/

namespace Cardfile

/-! ## Selecting -/

namespace Record

variable {ε : Type} {filter : Record → Except ε Bool} {records selected : List Record}

/-- A filter that answers for every record selects those it accepts. -/
theorem select_eq_ok {p : Record → Bool} (h : ∀ r ∈ records, filter r = .ok (p r)) :
    select filter records = .ok (records.filter p) := by
  induction records with
  | nil => rfl
  | cons r records ih =>
    have hrest := ih fun r' hr' => h r' (List.mem_cons_of_mem _ hr')
    rw [select, h r List.mem_cons_self, hrest, List.filter_cons]
    rfl

/-- **A filter selects if it answers for every record**, and then those it
accepts. -/
theorem select_eq_ok_iff :
    select filter records = .ok selected ↔
      ∃ p : Record → Bool, (∀ r ∈ records, filter r = .ok (p r)) ∧ selected = records.filter p := by
  constructor
  · intro h
    have hanswers : ∀ r ∈ records, ∃ accepted, filter r = .ok accepted := by
      induction records generalizing selected with
      | nil => exact List.forall_mem_nil _
      | cons r records ih =>
        rw [select] at h
        obtain ⟨accepted, hr, h⟩ := bind_eq_ok.1 h
        obtain ⟨rest, hrest, -⟩ := bind_eq_ok.1 h
        exact List.forall_mem_cons.2 ⟨⟨accepted, hr⟩, ih hrest⟩
    -- of records that are not asked nothing is known, so any answer does for them
    have htotal : ∀ r, ∃ accepted, r ∈ records → filter r = .ok accepted := by
      intro r
      by_cases hr : r ∈ records
      · exact (hanswers r hr).imp fun _ haccepted _ => haccepted
      · exact ⟨false, fun hmem => absurd hmem hr⟩
    choose p hp using htotal
    rw [select_eq_ok hp, Except.ok.injEq] at h
    exact ⟨p, hp, h.symm⟩
  · rintro ⟨p, hp, rfl⟩
    exact select_eq_ok hp

/-- **A filter that accepts no record** selects none, or fails if it fails
for one of them. -/
theorem select_of_fault {p : Record → Prop} [DecidablePred p] {fault : ε}
    (h : ∀ r ∈ records, filter r = if p r then .error fault else .ok false) :
    select filter records = if ∃ r ∈ records, p r then .error fault else .ok [] := by
  induction records with
  | nil => simp [select]
  | cons r records ih =>
    obtain ⟨hr, hrest⟩ := List.forall_mem_cons.1 h
    rw [select, hr, ih hrest]
    by_cases hp : p r
    · simp [hp, bind, Except.bind]
    · by_cases hlater : ∃ r ∈ records, p r <;>
        simp [hp, hlater, bind, Except.bind, pure, Except.pure]

end Record

namespace Store

open Query

variable {hash : String → UInt64} {schema : Schema} {lines : List String} {s : Store}
  {conditions before after : List Condition} {k : Condition}

/-! ## Scanning -/

/-- **Without a broken condition** the records are those that satisfy all
of them. -/
theorem scan_of_not_broken (hs : ofLinesWith hash schema lines = .ok s)
    (h : ∀ c ∈ conditions, ¬ c.Broken schema.width) :
    s.scan (accepts conditions) =
      .ok (s.records.toList.filter fun r => ∀ c ∈ conditions, c.Satisfied r) := by
  refine Record.select_eq_ok fun r hr => ?_
  rw [← length_values hs r hr] at h
  exact accepts_of_not_broken h

/-- **With one** it depends on the conditions before the first. -/
theorem scan_of_broken (hs : ofLinesWith hash schema lines = .ok s)
    (hbefore : ∀ c ∈ before, ¬ c.Broken schema.width) (hk : k.Broken schema.width) :
    s.scan (accepts (before ++ k :: after)) =
      if ∃ r ∈ s.records.toList, ∀ c ∈ before, c.Satisfied r then .error (k.fault schema.width)
      else .ok [] := by
  refine Record.select_of_fault fun r hr => ?_
  rw [← length_values hs r hr] at hbefore hk ⊢
  exact accepts_of_broken hbefore hk

/-- The first of the broken conditions. -/
theorem exists_first_broken {width : ℕ} (h : ∃ c ∈ conditions, c.Broken width) :
    ∃ before k after, conditions = before ++ k :: after ∧
      (∀ c ∈ before, ¬ c.Broken width) ∧ k.Broken width := by
  obtain ⟨c, hc, hbroken⟩ := h
  have hsome : (conditions.find? (·.Broken width)).isSome = true :=
    List.find?_isSome.2 ⟨c, hc, decide_eq_true hbroken⟩
  obtain ⟨k, hk⟩ := Option.isSome_iff_exists.1 hsome
  obtain ⟨hbroken, before, after, hconditions, hbefore⟩ := List.find?_eq_some_iff_append.1 hk
  exact ⟨before, k, after, hconditions, by simpa using hbefore, by simpa using hbroken⟩

/-- What a broken condition fails with is a matter of use if it asks for a
column that is not there, and of syntax if not. -/
theorem kind_fault (width : ℕ) (c : Condition) :
    (c.fault width).report.kind = if width ≤ c.column then .usage else .syntactic := by
  rw [Condition.fault]
  split_ifs <;> rfl

/-- **What a scan comes to**, whatever columns the query was compiled for.
It selects the records that satisfy all conditions if none of these is
broken. Otherwise it fails with the fault of the first that is, if some
record satisfies the conditions before it, and selects nothing if none
does. A query that was compiled for the columns of the store never fails
for a column, and a broken condition never lets a record through. -/
theorem scan_eq {hash' : String → UInt64} {columns : List Column}
    (hschema : Schema.ofColumnsWith hash' columns = .ok schema)
    (hs : ofLinesWith hash schema lines = .ok s) (q : Query) :
    ((∀ c ∈ q.conditions, ¬ c.Broken schema.width) →
      s.scan (accepts q.conditions) =
        .ok (s.records.toList.filter fun r => ∀ c ∈ q.conditions, c.Satisfied r)) ∧
    (∀ before k after, q.conditions = before ++ k :: after →
      (∀ c ∈ before, ¬ c.Broken schema.width) → k.Broken schema.width →
      s.scan (accepts q.conditions) =
          (if ∃ r ∈ s.records.toList, ∀ c ∈ before, c.Satisfied r then
            .error (k.fault schema.width) else .ok []) ∧
        (k.fault schema.width).report.kind =
          if schema.width ≤ k.column then .usage else .syntactic) ∧
    (∀ text, compile schema text = .ok q →
      ∀ fault, s.scan (accepts q.conditions) = .error fault → fault.report.kind ≠ .usage) ∧
    ((∃ c ∈ q.conditions, c.Broken schema.width) →
      ∀ selected, s.scan (accepts q.conditions) = .ok selected → selected = []) := by
  obtain ⟨conditions⟩ := q
  refine ⟨scan_of_not_broken hs, ?_, ?_, ?_⟩
  · rintro before k after rfl hbefore hk
    exact ⟨scan_of_broken hs hbefore hk, kind_fault schema.width k⟩
  · intro text hcompile fault hfault
    have hwritable := isWritable_of_compile (Schema.registered_ofColumnsWith hschema) hcompile
    by_cases hbroken : ∃ c ∈ conditions, c.Broken schema.width
    · obtain ⟨before, k, after, rfl, hbefore, hk⟩ := exists_first_broken hbroken
      rw [scan_of_broken hs hbefore hk] at hfault
      split_ifs at hfault
      -- a column of the schema is there, so it can only be the pattern
      have hlt : ¬ schema.width ≤ k.column := Nat.not_le.2 (hwritable.2 k (by simp)).column_lt
      rw [← Except.error.inj hfault, kind_fault, if_neg hlt]
      decide
    · rw [scan_of_not_broken hs fun c hc hc' => hbroken ⟨c, hc, hc'⟩] at hfault
      cases hfault
  · intro hbroken selected hselected
    obtain ⟨before, k, after, rfl, hbefore, hk⟩ := exists_first_broken hbroken
    rw [scan_of_broken hs hbefore hk] at hselected
    split_ifs at hselected
    exact (Except.ok.inj hselected).symm

/-- A store of two records, each with a key and a number. -/
def twoRecords : Store where
  schema := keyAndNumber
  records := #[⟨["a", "1"]⟩, ⟨["b", "2"]⟩]
  index := ⟨Hashing.constant, #[some 0, none, none, none], #[⟨"a", 0, some 1⟩, ⟨"b", 1, none⟩], 2⟩

theorem ofLinesWith_twoRecords :
    ofLinesWith Hashing.constant keyAndNumber ["a\t1", "b\t2"] = .ok twoRecords := by rfl

/-- A pattern of two wildcards fails the scan only if a record satisfies
the condition in front of it, and so does a column that is not there. -/
theorem scan_eq_of_two_wildcards :
    twoRecords.scan (accepts [⟨1, .greater, "1"⟩, ⟨0, .like, "*b*"⟩]) =
        .error (.tooManyWildcards "*b*") ∧
      twoRecords.scan (accepts [⟨1, .greater, "2"⟩, ⟨0, .like, "*b*"⟩]) = .ok [] ∧
      twoRecords.scan (accepts [⟨1, .greater, "1"⟩, ⟨2, .like, "*b*"⟩]) = .error (.noField 2 2) ∧
      twoRecords.scan (accepts [⟨1, .greater, "1"⟩, ⟨0, .like, "*b"⟩]) = .ok [⟨["b", "2"]⟩] := by
  have hscan := scan_eq ofColumnsWith_keyAndNumber ofLinesWith_twoRecords
  refine ⟨?_, ?_, ?_, ?_⟩
  · refine (((hscan ⟨_⟩).2.1 [_] _ [] rfl (by decide +kernel) (by decide +kernel)).1).trans ?_
    exact if_pos (by decide +kernel)
  · refine (((hscan ⟨_⟩).2.1 [_] _ [] rfl (by decide +kernel) (by decide +kernel)).1).trans ?_
    exact if_neg (by decide +kernel)
  · refine (((hscan ⟨_⟩).2.1 [_] _ [] rfl (by decide +kernel) (by decide +kernel)).1).trans ?_
    exact if_pos (by decide +kernel)
  · refine ((hscan ⟨_⟩).1 (by decide +kernel)).trans ?_
    decide +kernel

end Store

end Cardfile
