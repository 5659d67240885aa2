import Cardfile.Proofs.Store.Index
/-!
# Stores — the lines that make a store

A store is built in two passes. The first reads every line that holds a
record, up to the first that is malformed; the second enters the keys, up
to the first that is empty or was entered before. Each pass is told here
by where it stops (`readLines_eq_error`, `enterKeys_eq_error`), and the
two together by `exists_ofLinesWith_iff`: lines make a store exactly if
each of them can be read and their keys are `Indexable`.
-/

namespace Cardfile

/-- The line does not have the form that the columns ask for. -/
def LineFault.IsMalformed : LineFault → Prop
  | .fieldCount .. | .notInteger .. => True
  | .emptyKey .. | .duplicateKey .. => False

instance decidableIsMalformed : DecidablePred LineFault.IsMalformed
  | .fieldCount .. | .notInteger .. => isTrue trivial
  | .emptyKey .. | .duplicateKey .. => isFalse id

/-- What is wrong with a key that cannot be held: it is empty, or it was
there before. -/
def LineFault.ofKey (keyName key : String) : LineFault :=
  if key = "" then .emptyKey keyName .blankKey else .duplicateKey key

theorem LineFault.not_isMalformed_ofKey (keyName key : String) :
    ¬ (LineFault.ofKey keyName key).IsMalformed := by
  rw [ofKey]
  split_ifs <;> exact id

namespace Store

variable {schema : Schema}

/-! ## Reading the lines -/

/-- A line that cannot be read is malformed. -/
theorem isMalformed_of_readFields {line : List Char} {fields : List (Column × List Char)}
    {fault : LineFault} (h : readFields line fields = .error fault) : fault.IsMalformed := by
  induction fields with
  | nil => cases h
  | cons field fields ih =>
    obtain ⟨column, field⟩ := field
    rw [readFields] at h
    obtain hfield | ⟨value, -, h⟩ := bind_eq_error.1 h
    · rw [readField] at hfield
      split at hfield
      · cases hfield
      · split at hfield <;> cases hfield
        trivial
    · obtain hrest | ⟨values, -, h⟩ := bind_eq_error.1 h
      · exact ih hrest
      · cases h

theorem isMalformed_of_readLine {line : List Char} {fault : LineFault}
    (h : readLine schema line = .error fault) : fault.IsMalformed := by
  rw [readLine] at h
  split_ifs at h
  · exact isMalformed_of_readFields (map_eq_error.1 h)
  · cases h
    trivial

/-- The line can be read as a record. -/
def Readable (schema : Schema) (line : List Char) : Prop := ∃ r, readLine schema line = .ok r

/-- The keys of the lines that can be read. -/
def lineKeys (schema : Schema) (numbered : List (ℕ × List Char)) : List String :=
  numbered.filterMap fun e => (readLine schema e.2).toOption.map Record.key

theorem lineKeys_append (as bs : List (ℕ × List Char)) :
    lineKeys schema (as ++ bs) = lineKeys schema as ++ lineKeys schema bs :=
  List.filterMap_append

/-- The record is that of the line, under the same number. -/
def ReadAs (schema : Schema) (e : ℕ × List Char) (r : ℕ × Record) : Prop :=
  e.1 = r.1 ∧ readLine schema e.2 = .ok r.2

/-- Lines that are read become records one by one. -/
theorem readLines_eq_ok {numbered : List (ℕ × List Char)} {records : List (ℕ × Record)}
    (h : readLines schema numbered = .ok records) :
    List.Forall₂ (ReadAs schema) numbered records := by
  induction numbered generalizing records with
  | nil =>
    cases h
    exact .nil
  | cons e numbered ih =>
    obtain ⟨n, line⟩ := e
    rw [readLines] at h
    obtain ⟨record, hline, h⟩ := bind_eq_ok.1 h
    obtain ⟨rest, hrest, h⟩ := bind_eq_ok.1 h
    cases h
    exact .cons ⟨rfl, mapError_eq_ok.1 hline⟩ (ih hrest)

/-- **Reading stops at the first line that cannot be read.** -/
theorem readLines_eq_error {numbered : List (ℕ × List Char)} {bad : BadLine}
    (h : readLines schema numbered = .error bad) :
    ∃ before line after, numbered = before ++ (bad.line, line) :: after ∧
      (∀ e ∈ before, Readable schema e.2) ∧ readLine schema line = .error bad.fault := by
  induction numbered with
  | nil => cases h
  | cons e numbered ih =>
    obtain ⟨n, line⟩ := e
    rw [readLines] at h
    obtain hline | ⟨record, hline, h⟩ := bind_eq_error.1 h
    · obtain ⟨fault, hfault, rfl⟩ := mapError_eq_error.1 hline
      exact ⟨[], line, numbered, rfl, List.forall_mem_nil _, hfault⟩
    · obtain hrest | ⟨records, -, h⟩ := bind_eq_error.1 h
      · obtain ⟨before, line', after, rfl, hbefore, hfault⟩ := ih hrest
        have hreadable : Readable schema line := ⟨record, mapError_eq_ok.1 hline⟩
        exact ⟨(n, line) :: before, line', after, rfl,
          List.forall_mem_cons.2 ⟨hreadable, hbefore⟩, hfault⟩
      · cases h

section Read

variable {numbered : List (ℕ × List Char)} {α : Type} {rs : List α} {record : α → Record}

theorem readable_of_forall₂
    (h : List.Forall₂ (fun e r => readLine schema e.2 = .ok (record r)) numbered rs) :
    ∀ e ∈ numbered, Readable schema e.2 := by
  induction h with
  | nil => exact List.forall_mem_nil _
  | cons hline _ ih => exact List.forall_mem_cons.2 ⟨⟨_, hline⟩, ih⟩

/-- The keys of lines that are read are those of their records. -/
theorem lineKeys_of_forall₂
    (h : List.Forall₂ (fun e r => readLine schema e.2 = .ok (record r)) numbered rs) :
    lineKeys schema numbered = rs.map fun r => (record r).key := by
  induction h with
  | nil => rfl
  | cons hline _ ih =>
    rw [lineKeys, List.filterMap_cons, hline]
    exact congrArg _ ih

end Read

/-- Whatever their numbers. -/
theorem forall₂_readLine {numbered : List (ℕ × List Char)} {records : List (ℕ × Record)}
    (h : List.Forall₂ (ReadAs schema) numbered records) :
    List.Forall₂ (fun e r => readLine schema e.2 = .ok r.2) numbered records :=
  h.imp fun _ _ hline => hline.2

/-- The lines can be read together if each of them can. -/
theorem exists_readLines_iff {numbered : List (ℕ × List Char)} :
    (∃ records, readLines schema numbered = .ok records) ↔ ∀ e ∈ numbered, Readable schema e.2 := by
  constructor
  · rintro ⟨records, h⟩
    exact readable_of_forall₂ (forall₂_readLine (readLines_eq_ok h))
  · intro hall
    cases h : readLines schema numbered with
    | ok records => exact ⟨records, rfl⟩
    | error bad =>
      obtain ⟨before, line, after, rfl, -, hfault⟩ := readLines_eq_error h
      obtain ⟨r, hr⟩ := hall (bad.line, line) (by simp)
      rw [hfault] at hr
      cases hr

/-! ## Entering the keys -/

/-- **Keys that an index can hold**: none is empty and none is repeated. -/
def Indexable (keys : List String) : Prop := "" ∉ keys ∧ keys.Nodup

instance decidableIndexable : DecidablePred Indexable := fun keys =>
  inferInstanceAs (Decidable ("" ∉ keys ∧ keys.Nodup))

/-- What a table holds can be held. -/
theorem indexable_keys {index : Table String ℕ} {l : Ledger String ℕ} (h : index.Holds l) :
    Indexable l.keys := by
  refine ⟨fun hmem => ?_, h.keys_nodup⟩
  obtain ⟨e, he, hkey⟩ := List.mem_map.1 hmem
  have hblank := h.unblank he
  rw [hkey] at hblank
  cases hblank

/-- So can the keys of a store that is indexed. -/
theorem Indexed.indexable {s : Store} (h : s.Indexed) : Indexable s.keys := by
  have hkeys := indexable_keys h
  rwa [Ledger.keys, List.zipIdx_map_fst] at hkeys

/-- **Entering one key.** It is refused if it cannot be held with those
that stand already, and otherwise it comes last. -/
theorem enterKeys_cons_cases {index : Table String ℕ} {l : Ledger String ℕ} (h : index.Holds l)
    (keyName : String) (i n : ℕ) (record : Record) (records : List (ℕ × Record)) :
    (¬ Indexable (l.keys ++ [record.key]) ∧
        enterKeys keyName index i ((n, record) :: records) =
          .error ⟨n, .ofKey keyName record.key⟩) ∨
      ∃ index', index'.Holds (l.append record.key i) ∧
        enterKeys keyName index i ((n, record) :: records) =
          enterKeys keyName index' (i + 1) records := by
  rw [enterKeys]
  cases hkey : TableKey.isBlank record.key with
  | true =>
    have hempty : record.key = "" := String.isEmpty_iff.1 hkey
    refine .inl ⟨fun hindexable => hindexable.1 ?_, ?_⟩
    · simp [hempty]
    · rw [Table.put_blank hkey, LineFault.ofKey, if_pos hempty]
  | false =>
    obtain ⟨hmem, j, index', hput⟩ | ⟨-, index', hput, hholds⟩ := h.put_cases hkey i
    · have hne : record.key ≠ "" := fun hempty => by
        rw [hempty] at hkey
        cases hkey
      refine .inl ⟨fun hindexable => ?_, ?_⟩
      · exact List.disjoint_of_nodup_append hindexable.2 hmem List.mem_cons_self
      · rw [hput, LineFault.ofKey, if_neg hne]
    · exact .inr ⟨index', hholds, by rw [hput]⟩

/-- **Entering stops at the first key that cannot be held** with those
before it. -/
theorem enterKeys_eq_error {keyName : String} {index : Table String ℕ} {i : ℕ}
    {records : List (ℕ × Record)} {l : Ledger String ℕ} {bad : BadLine} (h : index.Holds l)
    (hbad : enterKeys keyName index i records = .error bad) :
    ¬ bad.fault.IsMalformed ∧
      ∃ before record after, records = before ++ (bad.line, record) :: after ∧
        Indexable (l.keys ++ before.map fun e => e.2.key) ∧
        ¬ Indexable (l.keys ++ (before.map fun e => e.2.key) ++ [record.key]) := by
  induction records generalizing index i l with
  | nil => cases hbad
  | cons e records ih =>
    obtain ⟨n, record⟩ := e
    obtain ⟨hnot, hstop⟩ | ⟨index', hholds, hgo⟩ := enterKeys_cons_cases h keyName i n record records
    · rw [hstop] at hbad
      cases hbad
      refine ⟨LineFault.not_isMalformed_ofKey _ _, [], record, records, rfl, ?_, ?_⟩
      · rw [List.map_nil, List.append_nil]
        exact indexable_keys h
      · rwa [List.map_nil, List.append_nil]
    · rw [hgo] at hbad
      obtain ⟨hfault, before, r, after, rfl, hgood, hnot⟩ := ih hholds hbad
      rw [Ledger.keys_append] at hgood hnot
      refine ⟨hfault, (n, record) :: before, r, after, rfl, ?_, ?_⟩
      · simpa using hgood
      · simpa using hnot

/-- A part of keys that can be held can be held. -/
theorem Indexable.of_append {as bs : List String} (h : Indexable (as ++ bs)) : Indexable as :=
  ⟨fun hmem => h.1 (List.mem_append_left _ hmem), h.2.of_append_left⟩

/-- The keys are entered if they can be held. -/
theorem exists_enterKeys_iff (keyName : String) (hash : String → UInt64) (n i : ℕ)
    (records : List (ℕ × Record)) :
    (∃ index, enterKeys keyName (.empty hash (Table.leastPower n)) i records = .ok index) ↔
      Indexable (records.map fun e => e.2.key) := by
  have hempty := Table.holds_empty (V := ℕ) hash n
  constructor
  · rintro ⟨index, h⟩
    have hheld := indexable_keys (holds_of_enterKeys hempty h)
    simpa [Ledger.keys, Ledger.empty] using hheld
  · intro hkeys
    cases h : enterKeys keyName (.empty hash (Table.leastPower n)) i records with
    | ok index => exact ⟨index, rfl⟩
    | error bad =>
      obtain ⟨-, before, r, after, rfl, -, hnot⟩ := enterKeys_eq_error hempty h
      rw [List.map_append, List.map_cons, List.append_cons] at hkeys
      exact absurd hkeys.of_append hnot

/-! ## The two passes -/

/-- **Lines make a store** exactly if each line that holds a record can be
read, and the keys can be held. -/
theorem exists_ofLinesWith_iff {hash : String → UInt64} {lines : List String} :
    (∃ s, ofLinesWith hash schema lines = .ok s) ↔
      (∀ e ∈ recordLines 1 lines, Readable schema e.2) ∧
        Indexable (lineKeys schema (recordLines 1 lines)) := by
  rw [← exists_readLines_iff]
  cases hread : readLines schema (recordLines 1 lines) with
  | error bad => simp [ofLinesWith, hread, bind, Except.bind]
  | ok records =>
    have hkeys := exists_enterKeys_iff schema.keyName hash records.length 0 records
    rw [lineKeys_of_forall₂ (forall₂_readLine (readLines_eq_ok hread)), ← hkeys]
    cases henter : enterKeys schema.keyName (.empty hash (Table.leastPower records.length)) 0
      records <;> simp [ofLinesWith, hread, henter, bind, Except.bind, pure, Except.pure]

end Store

end Cardfile
