import Cardfile.Proofs.Store.FirstBadLine
import Mathlib
/-!
# Stores — where loading stops

Loading a list of lines stops at one line, and `Stops` tells which one
and what is said of it: the first malformed line, or, if there is none,
the first one with a key that is empty or was there before
(`ofLinesWith_eq_error_iff`).
-/

namespace Cardfile

namespace Store

variable {schema : Schema} {hash : String → UInt64}

/-- **The first clash of keys**: the line with this number has the first
key that cannot be held with those before it. -/
def FirstClash (schema : Schema) (numbered : List (ℕ × List Char)) (n : ℕ) (key : String) : Prop :=
  ∃ before line after r, numbered = before ++ (n, line) :: after ∧
    readLine schema line = .ok r ∧ r.key = key ∧
    Indexable (lineKeys schema before) ∧ ¬ Indexable (lineKeys schema before ++ [key])

/-- **Where loading stops**, and why. -/
inductive Stops (schema : Schema) (numbered : List (ℕ × List Char)) : BadLine → Prop
  /-- At the first malformed line. -/
  | malformed {before : List (ℕ × List Char)} {n : ℕ} {line : List Char}
      {after : List (ℕ × List Char)} {fault : LineFault} :
      numbered = before ++ (n, line) :: after → (∀ e ∈ before, Readable schema e.2) →
      readLine schema line = .error fault → Stops schema numbered ⟨n, fault⟩
  /-- Without one, at the first clash of keys. -/
  | clash {n : ℕ} {key : String} :
      (∀ e ∈ numbered, Readable schema e.2) → FirstClash schema numbered n key →
      Stops schema numbered ⟨n, .ofKey schema.keyName key⟩

/-! ## Stopping -/

theorem exists_error_of_not_readable {line : List Char} (h : ¬ Readable schema line) :
    ∃ fault, readLine schema line = .error fault := by
  cases hline : readLine schema line with
  | ok r => exact absurd ⟨r, hline⟩ h
  | error fault => exact ⟨fault, rfl⟩

/-- Lines that cannot all be read have a first one that cannot. -/
theorem exists_malformed {numbered : List (ℕ × List Char)}
    (h : ¬ ∀ e ∈ numbered, Readable schema e.2) :
    ∃ before n line after fault, numbered = before ++ (n, line) :: after ∧
      (∀ e ∈ before, Readable schema e.2) ∧ readLine schema line = .error fault := by
  cases hread : readLines schema numbered with
  | ok records => exact absurd (exists_readLines_iff.1 ⟨records, hread⟩) h
  | error bad =>
    obtain ⟨before, line, after, heq, hbefore, hfault⟩ := readLines_eq_error hread
    exact ⟨before, bad.line, line, after, bad.fault, heq, hbefore, hfault⟩

/-- What is paired with a list splits where the list does. -/
theorem exists_append_of_forall₂ {α β : Type} {R : α → β → Prop} {as bs : List α} {ys : List β}
    (h : List.Forall₂ R (as ++ bs) ys) :
    ∃ cs ds, ys = cs ++ ds ∧ List.Forall₂ R as cs ∧ List.Forall₂ R bs ds := by
  have hflip : List.Forall₂ (flip R) ys (as ++ bs) := h.flip
  exact ⟨_, _, (List.take_append_drop as.length ys).symm,
    (List.forall₂_take_append _ _ _ hflip).flip, (List.forall₂_drop_append _ _ _ hflip).flip⟩

theorem readLines_of_malformed {before : List (ℕ × List Char)} {n : ℕ} {line : List Char}
    {after : List (ℕ × List Char)} {fault : LineFault} (hbefore : ∀ e ∈ before, Readable schema e.2)
    (hline : readLine schema line = .error fault) :
    readLines schema (before ++ (n, line) :: after) = .error ⟨n, fault⟩ := by
  induction before with
  | nil => exact bind_eq_error.2 (.inl (mapError_eq_error.2 ⟨fault, hline, rfl⟩))
  | cons e before ih =>
    obtain ⟨m, first⟩ := e
    obtain ⟨⟨record, hrecord⟩, hbefore⟩ := List.forall_mem_cons.1 hbefore
    refine bind_eq_error.2 (.inr ⟨record, mapError_eq_ok.2 hrecord, ?_⟩)
    exact bind_eq_error.2 (.inl (ih hbefore))

/-- **Entering a key that cannot be held** is refused, and the keys before
it are entered. -/
theorem enterKeys_of_clash {keyName : String} {index : Table String ℕ} {i n : ℕ}
    {before after : List (ℕ × Record)} {record : Record} {l : Ledger String ℕ}
    (h : index.Holds l) (hgood : Indexable (l.keys ++ before.map fun e => e.2.key))
    (hnot : ¬ Indexable (l.keys ++ (before.map fun e => e.2.key) ++ [record.key])) :
    enterKeys keyName index i (before ++ (n, record) :: after) =
      .error ⟨n, .ofKey keyName record.key⟩ := by
  induction before generalizing index i l with
  | nil =>
    rw [List.map_nil, List.append_nil] at hnot
    obtain ⟨-, hstop⟩ | ⟨index', hholds, -⟩ := enterKeys_cons_cases h keyName i n record after
    · exact hstop
    · refine absurd ?_ hnot
      rw [← Ledger.keys_append record.key i]
      exact indexable_keys hholds
  | cons e before ih =>
    obtain ⟨m, first⟩ := e
    have hkeys : l.keys ++ ((m, first) :: before).map (fun e => e.2.key) =
        (l.append first.key i).keys ++ before.map fun e => e.2.key := by
      rw [Ledger.keys_append, List.map_cons, List.append_cons]
    rw [hkeys] at hgood hnot
    obtain ⟨hclash, -⟩ | ⟨index', hholds, hgo⟩ :=
      enterKeys_cons_cases h keyName i m first (before ++ (n, record) :: after)
    · rw [Ledger.keys_append] at hgood
      exact absurd hgood.of_append hclash
    · rw [List.cons_append, hgo]
      exact ih hholds hgood hnot

/-- **Loading stops where it is told to**, with what is told. -/
theorem ofLinesWith_of_stops {lines : List String} {bad : BadLine}
    (h : Stops schema (recordLines 1 lines) bad) :
    ofLinesWith hash schema lines = .error bad := by
  cases h with
  | malformed hlines hbefore hline =>
    rw [ofLinesWith, hlines]
    exact bind_eq_error.2 (.inl (readLines_of_malformed hbefore hline))
  | clash hall hclash =>
    obtain ⟨before, line, after, r, hlines, hline, rfl, hgood, hnot⟩ := hclash
    obtain ⟨records, hread⟩ := exists_readLines_iff.2 hall
    rw [ofLinesWith, hread]
    refine bind_eq_error.2 (.inr ⟨records, rfl, bind_eq_error.2 (.inl ?_)⟩)
    -- the records split where the lines do
    have hforall := readLines_eq_ok hread
    rw [hlines] at hforall
    obtain ⟨earlier, rest, rfl, hearlier, hrest⟩ := exists_append_of_forall₂ hforall
    obtain ⟨⟨_, record⟩, later, ⟨rfl, hrecord⟩, -, rfl⟩ := List.forall₂_cons_left_iff.1 hrest
    obtain rfl : record = r := Except.ok.inj (hrecord.symm.trans hline)
    rw [lineKeys_of_forall₂ (forall₂_readLine hearlier)] at hgood hnot
    exact enterKeys_of_clash (Table.holds_empty hash _) hgood hnot

/-- **Loading stops exactly so.** -/
theorem ofLinesWith_eq_error_iff {lines : List String} {bad : BadLine} :
    ofLinesWith hash schema lines = .error bad ↔ Stops schema (recordLines 1 lines) bad := by
  refine ⟨fun h => ?_, ofLinesWith_of_stops⟩
  have hsame {bad' : BadLine} (hstops : Stops schema (recordLines 1 lines) bad') :
      Stops schema (recordLines 1 lines) bad := by
    have h' : ofLinesWith hash schema lines = .error bad' := ofLinesWith_of_stops hstops
    rw [h, Except.error.injEq] at h'
    rwa [h']
  by_cases hall : ∀ e ∈ recordLines 1 lines, Readable schema e.2
  · obtain ⟨before, line, after, hlines, -, ⟨-, hline⟩ | ⟨-, hgood, hnot⟩⟩ := ofLinesWith_eq_error h
    · exact absurd (hall (bad.line, line) (by simp [hlines])) hline
    · obtain ⟨r, hr⟩ := hall (bad.line, line) (by simp [hlines])
      rw [lineKeys_append] at hnot
      have hkey : lineKeys schema [(bad.line, line)] = [r.key] := by
        rw [lineKeys, List.filterMap_cons, hr]
        rfl
      rw [hkey] at hnot
      exact hsame (.clash hall ⟨before, line, after, r, hlines, hr, rfl, hgood, hnot⟩)
  · obtain ⟨before, n, line, after, fault, hlines, hbefore, hfault⟩ := exists_malformed hall
    exact hsame (.malformed hlines hbefore hfault)

/-- The line where loading stops is one of the lines. -/
theorem Stops.mem {numbered : List (ℕ × List Char)} {bad : BadLine}
    (h : Stops schema numbered bad) : bad.line ∈ numbered.map Prod.fst := by
  cases h with
  | malformed heq => simp [heq]
  | clash _ hclash =>
    obtain ⟨before, line, after, r, heq, -⟩ := hclash
    simp [heq]

/-- Lines that can all be read are loaded up to the first clash of keys. -/
theorem Stops.exists_clash {numbered : List (ℕ × List Char)} {bad : BadLine}
    (h : Stops schema numbered bad) (hall : ∀ e ∈ numbered, Readable schema e.2) :
    ∃ key, bad.fault = .ofKey schema.keyName key ∧ FirstClash schema numbered bad.line key := by
  cases h with
  | clash _ hclash => exact ⟨_, rfl, hclash⟩
  | malformed heq _ hfault =>
    obtain ⟨r, hr⟩ := hall (_, _) (heq ▸ List.mem_append_right _ List.mem_cons_self)
    rw [hfault] at hr
    cases hr

end Store

end Cardfile
