import Cardfile.Proofs.Collation.Preorder
import Cardfile.Proofs.Store.Index
import Cardfile.Proofs.Store.Scan
import Mathlib
/-!
# Stores — the plan of a query

The index knows keys as they are written, and the scan compares them
under the collation, which does not tell all texts apart: a hyphen and a
soft hyphen are the same to it. So the plan is more than a matter of
speed. `execute_eq_scan_iff` says where the two agree: exactly where no
record has another key that the collation takes for the one asked for.
-/

namespace Cardfile

/-- Answers can be told apart. -/
instance decidableEqExcept {ε α : Type} [DecidableEq ε] [DecidableEq α] :
    DecidableEq (Except ε α)
  | .ok a, .ok b => decidable_of_iff (a = b) (by rw [Except.ok.injEq])
  | .error e, .error f => decidable_of_iff (e = f) (by rw [Except.error.injEq])
  | .ok _, .error _ => isFalse nofun
  | .error _, .ok _ => isFalse nofun

/-- **What asks for a key**: one condition, that the key equals it. -/
theorem Query.indexKey?_eq_some {q : Query} {key : String} :
    q.indexKey? = some key ↔ q.conditions = [⟨0, .equal, key⟩] := by
  obtain ⟨conditions⟩ := q
  rw [Query.indexKey?]
  split
  · rename_i c hc
    obtain ⟨column, operator, literal⟩ := c
    simp only at hc
    rw [hc]
    simp [isKeyPlace, and_assoc]
  · rename_i hc
    simp only [reduceCtorEq, false_iff]
    exact fun h => hc _ h

/-- A record with a key has an answer to the condition on its key. -/
theorem Query.accepts_key {r : Record} (hr : r.key ≠ "") (key : String) :
    Query.accepts [⟨0, .equal, key⟩] r = .ok (Collation.same r.key key) := by
  have hfield : r.fieldAt 0 = .ok r.key := by
    obtain ⟨_ | ⟨value, values⟩⟩ := r
    · exact absurd rfl hr
    · rfl
  rw [Query.accepts, Query.Condition.holds, hfield]
  simp only [bind, Except.bind, Query.Operator.holds, Query.accepts, pure, Except.pure]
  cases Collation.same r.key key <;> rfl

namespace Store

variable {s : Store}

/-! ## The two plans -/

/-- By the index the records are those with the very key. -/
theorem Indexed.execute_key (h : s.Indexed) {q : Query} {key : String}
    (hq : q.indexKey? = some key) :
    (s.execute q).map Selection.records =
      .ok (s.records.toList.filter fun r => r.key = key) := by
  rw [execute, hq, ← h.toList_lookup?]
  rfl

/-- By the scan they are those whose key is the same under the
collation. -/
theorem Indexed.scan_key (h : s.Indexed) {q : Query} {key : String}
    (hq : q.indexKey? = some key) :
    s.scan (Query.accepts q.conditions) =
      .ok (s.records.toList.filter fun r => Collation.same r.key key) := by
  rw [scan, Query.indexKey?_eq_some.1 hq]
  exact Record.select_eq_ok fun r hr => Query.accepts_key (h.key_ne hr) key

/-- A query that asks for no key is answered by the scan. -/
theorem execute_of_no_key {q : Query} (hq : q.indexKey? = none) :
    (s.execute q).map Selection.records = s.scan (Query.accepts q.conditions) := by
  rw [execute, hq]
  cases s.scan (Query.accepts q.conditions) <;> rfl

/-- **Where the plans agree.** The query and the scan of its conditions
select the same records, or fail alike, exactly if no record has another
key that is the same under the collation as the key asked for. -/
theorem execute_eq_scan_iff {hash : String → UInt64} {schema : Schema} {lines : List String}
    (hs : ofLinesWith hash schema lines = .ok s) (q : Query) :
    (s.execute q).map Selection.records = s.scan (Query.accepts q.conditions) ↔
      ∀ key, q.indexKey? = some key →
        ∀ r ∈ s.records.toList, Collation.same r.key key = true → r.key = key := by
  have hindexed := indexed_ofLinesWith hs
  cases hq : q.indexKey? with
  | none => simp [execute_of_no_key hq]
  | some key =>
    rw [hindexed.execute_key hq, hindexed.scan_key hq, Except.ok.injEq]
    constructor
    · rintro heq _ ⟨⟩ r hr hsame
      have hmem : r ∈ s.records.toList.filter fun r => Collation.same r.key key :=
        List.mem_filter.2 ⟨hr, hsame⟩
      rw [← heq] at hmem
      exact of_decide_eq_true (List.mem_filter.1 hmem).2
    · intro h
      refine List.filter_congr fun r hr => ?_
      rw [Bool.eq_iff_iff, decide_eq_true_iff]
      constructor
      · rintro rfl
        exact Collation.same_self _
      · exact h key rfl r hr

/-- A store with one record, which has nothing but its key. -/
def hyphenated : Store where
  schema :=
    { columns := [{ name := "k", kind := .text }]
      registry := ⟨Hashing.ofString, #[some 0, none], #[⟨"k", 0, none⟩], 1⟩ }
  records := #[⟨["a-1"]⟩]
  index := ⟨Hashing.ofString, #[some 0, none], #[⟨"a-1", 0, none⟩], 1⟩

theorem ofLines_hyphenated : ofLines hyphenated.schema ["a-1"] = .ok hyphenated := by cbv

/-- Asked for the key as it is written, the plans agree. -/
theorem execute_eq_scan_of_written_key :
    (hyphenated.execute ⟨[⟨0, .equal, "a-1"⟩]⟩).map Selection.records =
      hyphenated.scan (Query.accepts [⟨0, .equal, "a-1"⟩]) := by
  refine (execute_eq_scan_iff ofLines_hyphenated ⟨[⟨0, .equal, "a-1"⟩]⟩).2 ?_
  rintro key ⟨⟩ r hr -
  cases List.mem_singleton.1 hr
  rfl

/-- **The plans disagree** on a hyphen and a soft hyphen: the index finds
nothing, and the scan finds the record. -/
theorem execute_ne_scan_of_soft_hyphen :
    Schema.ofColumns [{ name := "k", kind := .text }] = .ok hyphenated.schema ∧
      ofLines hyphenated.schema ["a-1"] = .ok hyphenated ∧
      ∃ q, Query.compile hyphenated.schema "k=\"a\u00AD1\"" = .ok q ∧
        (hyphenated.execute q).map Selection.records = .ok [] ∧
        hyphenated.scan (Query.accepts q.conditions) = .ok [⟨["a-1"]⟩] := by
  refine ⟨by cbv, ofLines_hyphenated, ⟨[⟨0, .equal, "a\u00AD1"⟩]⟩, ?_, ?_, ?_⟩
  · decide +kernel
  · decide +kernel
  · decide +kernel

end Store

end Cardfile
