import Cardfile.Proofs.Store.Lines
import Mathlib
/-!
# Stores — the line that a failed load names

A load that fails names a line, and the lines up to it make no store. The
lines before it are well formed, yet they make a store only if their keys
can be held too: all lines are read before the first key is entered, so a
malformed line is named although an empty or repeated key stands before
it. `names_first_bad_line_iff` says exactly when the line that is named is
the first bad one, and `names_later_line_of_repeated_key` shows a load
where it is not.
-/

namespace Cardfile

namespace Store

variable {schema : Schema}

/-! ## Numbered lines -/

theorem recordLines_append (n : ℕ) (front back : List String) :
    recordLines n (front ++ back) = recordLines n front ++ recordLines (n + front.length) back := by
  induction front generalizing n with
  | nil => rfl
  | cons text front ih =>
    rw [List.cons_append, recordLines, recordLines, ih, List.length_cons, Nat.add_right_comm,
      Nat.add_assoc n]
    split_ifs <;> rfl

/-- **A numbered line is one of the lines**, and its number counts those
before it. -/
theorem recordLines_eq_append {n k : ℕ} {lines : List String} {before after : List (ℕ × List Char)}
    {line : List Char} (h : recordLines n lines = before ++ (k, line) :: after) :
    ∃ front text back, lines = front ++ text :: back ∧ k = n + front.length ∧
      recordLines n front = before ∧ recordLines k [text] = [(k, line)] := by
  induction lines generalizing n before with
  | nil => simp [recordLines] at h
  | cons text lines ih =>
    rw [recordLines] at h
    split_ifs at h with hempty
    · obtain ⟨front, text', back, rfl, hk, hfront, htext⟩ := ih h
      refine ⟨text :: front, text', back, rfl, by rw [hk, List.length_cons]; omega, ?_, htext⟩
      rw [recordLines, if_pos hempty, hfront]
    · cases before with
      | nil =>
        obtain ⟨hhead, -⟩ := List.cons_eq_cons.1 h
        obtain ⟨rfl, rfl⟩ := Prod.mk.inj hhead
        refine ⟨[], text, lines, rfl, rfl, rfl, ?_⟩
        rw [recordLines, if_neg hempty]
        rfl
      | cons e before =>
        obtain ⟨rfl, hrest⟩ := List.cons_eq_cons.1 h
        obtain ⟨front, text', back, rfl, hk, hfront, htext⟩ := ih hrest
        refine ⟨text :: front, text', back, rfl, by rw [hk, List.length_cons]; omega, ?_, htext⟩
        rw [recordLines, if_neg hempty, hfront]

/-- The lines before a numbered line, and those up to it. -/
theorem recordLines_take {k : ℕ} {lines : List String} {before after : List (ℕ × List Char)}
    {line : List Char} (h : recordLines 1 lines = before ++ (k, line) :: after) :
    recordLines 1 (lines.take (k - 1)) = before ∧
      recordLines 1 (lines.take k) = before ++ [(k, line)] := by
  obtain ⟨front, text, back, rfl, rfl, hfront, htext⟩ := recordLines_eq_append h
  have hupto : (front ++ text :: back).take (1 + front.length) = front ++ [text] := by
    rw [Nat.add_comm, List.take_length_add_append]
    rfl
  rw [Nat.add_sub_cancel_left, List.take_left, hupto, recordLines_append, hfront, htext]
  exact ⟨rfl, rfl⟩

/-! ## The line that is named -/

/-- **What a failed load comes to.** The lines before the one that is
named can be read. Either the named one cannot, or all can and the named
one has the first key that cannot be held. -/
theorem ofLinesWith_eq_error {hash : String → UInt64} {lines : List String} {bad : BadLine}
    (h : ofLinesWith hash schema lines = .error bad) :
    ∃ before line after, recordLines 1 lines = before ++ (bad.line, line) :: after ∧
      (∀ e ∈ before, Readable schema e.2) ∧
      ((bad.fault.IsMalformed ∧ ¬ Readable schema line) ∨
        (¬ bad.fault.IsMalformed ∧ Indexable (lineKeys schema before) ∧
          ¬ Indexable (lineKeys schema (before ++ [(bad.line, line)])))) := by
  rw [ofLinesWith] at h
  obtain hread | ⟨records, hread, h⟩ := bind_eq_error.1 h
  · obtain ⟨before, line, after, heq, hbefore, hfault⟩ := readLines_eq_error hread
    refine ⟨before, line, after, heq, hbefore, .inl ⟨isMalformed_of_readLine hfault, ?_⟩⟩
    rintro ⟨r, hr⟩
    rw [hfault] at hr
    cases hr
  · obtain henter | ⟨index, -, h⟩ := bind_eq_error.1 h
    · obtain ⟨hfault, earlier, record, later, rfl, hgood, hnot⟩ :=
        enterKeys_eq_error (Table.holds_empty hash records.length) henter
      -- the lines split where their records do
      have hall := readLines_eq_ok hread
      have hbefore := List.forall₂_take_append _ _ _ hall
      have hrest := List.forall₂_drop_append _ _ _ hall
      obtain ⟨⟨n, line⟩, after, hline, -, hdrop⟩ := List.forall₂_cons_right_iff.1 hrest
      obtain rfl : n = bad.line := hline.1
      have hkeys := lineKeys_of_forall₂ (forall₂_readLine hbefore)
      refine ⟨_, line, after, ?_, readable_of_forall₂ (forall₂_readLine hbefore),
        .inr ⟨hfault, ?_, ?_⟩⟩
      · rw [← hdrop, List.take_append_drop]
      · rw [hkeys]
        simpa [Ledger.keys, Ledger.empty] using hgood
      · rw [lineKeys_append, hkeys, lineKeys_of_forall₂ (forall₂_readLine (.cons hline .nil))]
        simpa [Ledger.keys, Ledger.empty] using hnot
    · cases h

/-- **When the line that is named is the first bad one.** The lines before
it make a store and those up to it do not exactly if, should the line be
malformed, no line before it has an empty key or one of an earlier line. -/
theorem names_first_bad_line_iff {hash : String → UInt64} {lines : List String} {bad : BadLine}
    (h : ofLinesWith hash schema lines = .error bad) :
    ((∃ s, ofLinesWith hash schema (lines.take (bad.line - 1)) = .ok s) ∧
        ∃ b, ofLinesWith hash schema (lines.take bad.line) = .error b) ↔
      (bad.fault.IsMalformed →
        Indexable (lineKeys schema (recordLines 1 (lines.take (bad.line - 1))))) := by
  obtain ⟨before, line, after, hlines, hreadable, hcases⟩ := ofLinesWith_eq_error h
  obtain ⟨hbefore, hupto⟩ := recordLines_take hlines
  -- up to the line that is named the lines make no store, whatever the fault
  have hfails : ∃ b, ofLinesWith hash schema (lines.take bad.line) = .error b := by
    cases hload : ofLinesWith hash schema (lines.take bad.line) with
    | error b => exact ⟨b, rfl⟩
    | ok s =>
      have hgood := exists_ofLinesWith_iff.1 ⟨s, hload⟩
      rw [hupto] at hgood
      rcases hcases with ⟨-, hline⟩ | ⟨-, -, hnot⟩
      · exact absurd (hgood.1 _ (List.mem_append_right _ List.mem_cons_self)) hline
      · exact absurd hgood.2 hnot
  rw [exists_ofLinesWith_iff, hbefore]
  constructor
  · rintro ⟨⟨-, hkeys⟩, -⟩ -
    exact hkeys
  · intro hkeys
    refine ⟨⟨hreadable, ?_⟩, hfails⟩
    rcases hcases with ⟨hmalformed, -⟩ | ⟨-, hgood, -⟩
    · exact hkeys hmalformed
    · exact hgood

/-- A schema of keys and nothing else. -/
def keysOnly : Schema where
  columns := [{ name := "k", kind := .text }]
  registry := ⟨Hashing.ofString, #[some 0, none], #[⟨"k", 0, none⟩], 1⟩

/-- With a blank line and other keys before it, a malformed line is the
first bad one. -/
theorem names_first_bad_line_of_distinct_keys :
    ofLines keysOnly ["a", "", "b", "b\tc", "a"] = .error ⟨4, .fieldCount 1 2 "b\tc"⟩ ∧
      (∃ s, ofLines keysOnly ["a", "", "b"] = .ok s) ∧
        ∃ b, ofLines keysOnly ["a", "", "b", "b\tc"] = .error b := by
  have hload : ofLines keysOnly ["a", "", "b", "b\tc", "a"] =
      .error ⟨4, .fieldCount 1 2 "b\tc"⟩ := by cbv
  exact ⟨hload, (names_first_bad_line_iff hload).2 fun _ => by decide +kernel⟩

/-- **A later line is named.** The second line repeats the key of the
first, and the third is malformed: the load names the third, although the
first two lines alone make no store. -/
theorem names_later_line_of_repeated_key :
    Schema.ofColumns [{ name := "k", kind := .text }] = .ok keysOnly ∧
      ofLines keysOnly ["a", "a", "b\tc"] = .error ⟨3, .fieldCount 1 2 "b\tc"⟩ ∧
      ofLines keysOnly ["a", "a"] = .error ⟨2, .duplicateKey "a"⟩ := by
  refine ⟨by cbv, by cbv, by cbv⟩

end Store

end Cardfile
