import Cardfile.Store.Select
import Cardfile.Proofs.Outcome
import Cardfile.Proofs.Table.Calls
/-!
# Stores — the index

The index of a store that was built from lines holds the key of each
record with its place (`indexed_ofLinesWith`). So keys are neither blank
nor repeated, and looking a key up finds the record that has it
(`lookup?_eq_find?`) and never leads outside the records
(`lookup?_exact`).
-/

namespace Cardfile

namespace Store

variable {s : Store}

/-- The keys of the records, in their order. -/
def keys (s : Store) : List String := s.records.toList.map Record.key

theorem keys_getElem? (s : Store) (i : ℕ) : s.keys[i]? = s.records[i]?.map Record.key := by
  rw [keys, List.getElem?_map, Array.getElem?_toList]

/-- **The index holds each key with its place.** -/
def Indexed (s : Store) : Prop := s.index.Holds ⟨s.keys.zipIdx⟩

/-! ## Building the index -/

/-- Keys that were entered come last, with their places. -/
theorem holds_of_enterKeys {keyName : String} {index index' : Table String ℕ} {i : ℕ}
    {records : List (ℕ × Record)} {l : Ledger String ℕ} (h : index.Holds l)
    (hindex : enterKeys keyName index i records = .ok index') :
    index'.Holds ⟨l.entries ++ (records.map fun e => e.2.key).zipIdx i⟩ := by
  induction records generalizing index i l with
  | nil =>
    cases hindex
    rw [List.map_nil, List.zipIdx_nil, List.append_nil]
    exact h
  | cons e records ih =>
    obtain ⟨n, record⟩ := e
    rw [enterKeys] at hindex
    cases hput : index.put record.key i with
    | error fault =>
      rw [hput] at hindex
      cases hindex
    | ok r =>
      obtain ⟨old, next⟩ := r
      rw [hput] at hindex
      cases old with
      | some j => cases hindex
      | none =>
        have hrest := ih (h.of_put_none hput) hindex
        rwa [Ledger.append, List.append_assoc] at hrest

/-- **A store that is built from lines has an index of its keys.** -/
theorem indexed_ofLinesWith {hash : String → UInt64} {schema : Schema} {lines : List String}
    (h : ofLinesWith hash schema lines = .ok s) : s.Indexed := by
  rw [ofLinesWith] at h
  obtain ⟨records, -, h⟩ := bind_eq_ok.1 h
  obtain ⟨index, henter, h⟩ := bind_eq_ok.1 h
  cases h
  have hholds := holds_of_enterKeys (Table.holds_empty hash records.length) henter
  have hkeys : keys { schema, records := (records.map Prod.snd).toArray, index } =
      records.map fun e => e.2.key := by
    rw [keys, List.toList_toArray, List.map_map]
    rfl
  rw [Indexed, hkeys]
  exact hholds

/-! ## Looking up -/

namespace Indexed

variable (h : s.Indexed)

include h

/-- **No two records have the same key.** -/
theorem keys_nodup : s.keys.Nodup := by
  have hnodup := Table.Holds.keys_nodup h
  rwa [Ledger.keys, List.zipIdx_map_fst] at hnodup

/-- No record has an empty key. -/
theorem key_ne {r : Record} (hr : r ∈ s.records.toList) : r.key ≠ "" := by
  intro hempty
  obtain ⟨i, hi⟩ := List.mem_iff_getElem?.1 (List.mem_map_of_mem (f := Record.key) hr)
  have hblank := Table.Holds.unblank h (List.mk_mem_zipIdx_iff_getElem?.2 hi)
  rw [hempty] at hblank
  cases hblank

/-- The place of a key is that of its record. -/
theorem get?_eq_some {key : String} {i : ℕ} :
    s.index.get? key = some i ↔ s.keys[i]? = some key :=
  Table.Holds.get?_zipIdx h

/-- **No place lies outside the records.** -/
theorem lt_size {key : String} {i : ℕ} (hget : s.index.get? key = some i) : i < s.records.size := by
  have hkey := h.get?_eq_some.1 hget
  rw [keys_getElem?, Option.map_eq_some_iff] at hkey
  obtain ⟨r, hr, -⟩ := hkey
  exact (Array.getElem?_eq_some_iff.1 hr).1

/-- One place has the key. -/
theorem place_unique {i j : ℕ} (hi : i < s.records.size) (hj : j < s.records.size)
    (hsame : s.records[i].key = s.records[j].key) : i = j := by
  have hget (k : ℕ) (hk : k < s.records.size) : s.keys[k]? = some s.records[k].key := by
    rw [keys_getElem?, Array.getElem?_eq_getElem hk]
    rfl
  have hplace := h.get?_eq_some.2 (hget i hi)
  rw [hsame, h.get?_eq_some.2 (hget j hj)] at hplace
  exact (Option.some.inj hplace).symm

/-- **A record is found under its key.** -/
theorem lookup?_eq_some {key : String} {r : Record} :
    s.lookup? key = some r ↔ r ∈ s.records.toList ∧ r.key = key := by
  rw [lookup?, Option.bind_eq_some_iff]
  constructor
  · rintro ⟨i, hget, hi⟩
    have hkey := h.get?_eq_some.1 hget
    rw [keys_getElem?, hi] at hkey
    rw [← Array.getElem?_toList] at hi
    exact ⟨List.mem_of_getElem? hi, Option.some.inj hkey⟩
  · rintro ⟨hr, rfl⟩
    obtain ⟨i, hi⟩ := List.mem_iff_getElem?.1 hr
    rw [Array.getElem?_toList] at hi
    exact ⟨i, h.get?_eq_some.2 (by rw [keys_getElem?, hi]; rfl), hi⟩

/-- Looking a key up is as good as searching the records for it. -/
theorem lookup?_eq_find? (key : String) :
    s.lookup? key = s.records.toList.find? fun r => r.key = key := by
  cases hfind : s.records.toList.find? fun r => r.key = key with
  | some r =>
    have hkey := List.find?_some hfind
    exact h.lookup?_eq_some.2 ⟨List.mem_of_find?_eq_some hfind, by simpa using hkey⟩
  | none =>
    rw [Option.eq_none_iff_forall_ne_some]
    intro r hr
    obtain ⟨hmem, hkey⟩ := h.lookup?_eq_some.1 hr
    exact List.find?_eq_none.1 hfind r hmem (by simpa using hkey)

/-- And no other record has the key. -/
theorem toList_lookup? (key : String) :
    (s.lookup? key).toList = s.records.toList.filter fun r => r.key = key := by
  have hnodup := h.keys_nodup
  rw [h.lookup?_eq_find?, keys] at *
  generalize s.records.toList = records at hnodup ⊢
  induction records with
  | nil => rfl
  | cons r records ih =>
    rw [List.map_cons, List.nodup_cons] at hnodup
    by_cases hr : r.key = key
    · have hnone : records.filter (fun r => r.key = key) = [] := by
        refine List.filter_eq_nil_iff.2 fun r' hr' hkey => hnodup.1 ?_
        rw [hr, ← of_decide_eq_true hkey]
        exact List.mem_map_of_mem hr'
      rw [List.find?_cons_of_pos (by simpa using hr), List.filter_cons_of_pos (by simpa using hr),
        hnone]
      rfl
    · rw [List.find?_cons_of_neg (by simpa using hr), List.filter_cons_of_neg (by simpa using hr)]
      exact ih hnodup.2

/-- Nothing is found under a key that no record has. -/
theorem lookup?_eq_none {key : String} :
    s.lookup? key = none ↔ ∀ r ∈ s.records.toList, r.key ≠ key := by
  simp only [Option.eq_none_iff_forall_ne_some, ne_eq, h.lookup?_eq_some, not_and]

end Indexed

/-- **The index is exact.** In a store that was built from lines, with any
hash function, the index holds no place outside the records; a key of a
record is the key of no other one, and it leads to that record; and any
other key leads to none. -/
theorem lookup?_exact {hash : String → UInt64} {schema : Schema} {lines : List String}
    (h : ofLinesWith hash schema lines = .ok s) (key : String) :
    (∀ i, s.index.get? key = some i → i < s.records.size) ∧
      (∀ i (hi : i < s.records.size), s.records[i].key = key →
        s.lookup? key = some s.records[i] ∧
          ∀ j (hj : j < s.records.size), s.records[j].key = key → j = i) ∧
      ((∀ r ∈ s.records, r.key ≠ key) → s.lookup? key = none) := by
  have hindexed := indexed_ofLinesWith h
  refine ⟨fun i => hindexed.lt_size, fun i hi hkey => ⟨?_, fun j hj hkey' => ?_⟩, fun hnone => ?_⟩
  · exact hindexed.lookup?_eq_some.2 ⟨Array.getElem_mem_toList hi, hkey⟩
  · exact hindexed.place_unique hj hi (hkey'.trans hkey.symm)
  · exact hindexed.lookup?_eq_none.2 fun r hr => hnone r (Array.mem_toList_iff.1 hr)

/-- Two records whose keys have the same hash. -/
def oneChain : Store where
  schema :=
    { columns := [{ name := "k", kind := .text }]
      registry := ⟨Hashing.constant, #[some 0, none], #[⟨"k", 0, none⟩], 1⟩ }
  records := #[⟨["b"]⟩, ⟨["a"]⟩]
  index := ⟨Hashing.constant, #[some 0, none, none, none], #[⟨"b", 0, some 1⟩, ⟨"a", 1, none⟩], 2⟩

theorem lookup?_exact_of_one_chain :
    ofLinesWith Hashing.constant oneChain.schema ["b", "", "a\r"] = .ok oneChain ∧
      oneChain.lookup? "a" = some ⟨["a"]⟩ ∧ oneChain.lookup? "" = none := by
  have hload : ofLinesWith Hashing.constant oneChain.schema ["b", "", "a\r"] = .ok oneChain := by rfl
  refine ⟨hload, ?_, ?_⟩
  · exact ((lookup?_exact hload "a").2.1 1 (by decide) rfl).1
  · exact (lookup?_exact hload "").2.2 (by decide)

end Store

end Cardfile
