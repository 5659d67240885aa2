import Cardfile.Proofs.Store.Rows
/-!
# Stores — records as lines again

A record can be written as a line, its values with tabs between them. A
field is stored in a final form, which says the same as a field and is
stored as it is. So a record is read again from its own line
(`readLine_line`), and loading the lines of a store gives its records
again, unless a carriage return at the end of a line gets lost
(`ofLinesWith_lines`).
-/

namespace Cardfile

open Text Query

/-! ## The line of a record -/

namespace Record

/-- **The record as a line**: its values with a tab between one and the
next. -/
def line (r : Record) : String := "\t".intercalate r.values

/-- The last value ends with a carriage return. -/
def EndsInReturn (r : Record) : Prop :=
  ∃ value, r.values.getLast? = some value ∧ value.toList.getLast? = some '\r'

variable {r : Record}

theorem toList_line (r : Record) :
    r.line.toList = ['\t'].intercalate (r.values.map String.toList) := by
  rw [line, String.toList_intercalate]
  rfl

/-- The line of a record that has a key is not empty. -/
theorem line_ne (h : r.key ≠ "") : r.line.toList ≠ [] := by
  obtain ⟨values⟩ := r
  rw [toList_line]
  match values with
  | [] => exact absurd rfl h
  | [value] =>
    rw [List.map_singleton, List.intercalate_singleton, ne_eq, String.toList_eq_nil_iff]
    exact h
  | value :: next :: values => simp

/-- A line ends as its last value does, or with a tab. -/
theorem endsInReturn_of_line (h : r.line.toList.getLast? = some '\r') : r.EndsInReturn := by
  obtain ⟨values⟩ := r
  rw [toList_line] at h
  rcases values.eq_nil_or_concat with rfl | ⟨front, value, rfl⟩
  · cases h
  refine ⟨value, by simp, ?_⟩
  rw [List.concat_eq_append, List.map_append, List.map_singleton] at h
  exact getLast?_intercalate (by decide) h

end Record

namespace Store

variable {schema : Schema}

/-! ## Values as fields -/

/-- **A value in its final form**: as a field of the column it says what it
holds. -/
def IsFinal (column : Column) (value : String) : Prop :=
  ∃ cell, Cell.Said column.kind value.toList cell ∧ cell.Stored value

section Field

variable {kind : ColumnKind} {column : Column} {field : List Char} {cell : Cell} {value : String}

/-- **A value that is stored says the same** as the field it came from. -/
theorem Cell.Said.stored (h : Cell.Said kind field cell) (hvalue : cell.Stored value) :
    Cell.Said kind value.toList cell := by
  cases h with
  | text =>
    cases hvalue
    rw [String.toList_ofList]
    exact .text
  | number _ _ hrange _ =>
    obtain _ | hcanonical := hvalue
    have hsaid := Cell.Said.number isSpace_nil hcanonical.numeral hrange isSpace_nil
    rwa [List.append_nil, List.nil_append] at hsaid

/-- There is no tab in it, if there was none in the field. -/
theorem Cell.Said.tab_not_mem (h : Cell.Said kind field cell) (hvalue : cell.Stored value)
    (hfield : '\t' ∉ field) : '\t' ∉ value.toList := by
  cases h with
  | text =>
    cases hvalue
    rwa [String.toList_ofList]
  | number =>
    obtain _ | hcanonical := hvalue
    intro hmem
    exact absurd (hcanonical.numeral.isBlank_of_mem hmem) (by decide)

/-- To store a value in its final form changes nothing. -/
theorem IsFinal.readField_eq (h : IsFinal column value) (line : List Char) :
    readField column line value.toList = .ok value :=
  readField_eq_ok.2 h

/-- **What is stored is in its final form.** -/
theorem isFinal_of_readField {line : List Char} (h : readField column line field = .ok value) :
    IsFinal column value := by
  obtain ⟨cell, hsaid, hstored⟩ := readField_eq_ok.1 h
  exact ⟨cell, hsaid.stored hstored, hstored⟩

end Field

/-! ## Lines of records -/

section Line

variable {line : List Char} {r : Record} {columns : List Column} {values : List String}

/-- The values of a row are in their final form, and there is no tab in
them. -/
theorem forall₂_isFinal {fields : List (List Char)} {row : List Cell}
    (hlength : fields.length = columns.length)
    (hrow : List.Forall₂ (fun e cell => Cell.Said e.1.kind e.2 cell) (columns.zip fields) row)
    (hvalues : List.Forall₂ Cell.Stored row values) (hfields : ∀ field ∈ fields, '\t' ∉ field) :
    List.Forall₂ IsFinal columns values ∧ ∀ value ∈ values, '\t' ∉ value.toList := by
  induction columns generalizing fields row values with
  | nil =>
    obtain _ | _ := hrow
    obtain _ | _ := hvalues
    exact ⟨.nil, List.forall_mem_nil _⟩
  | cons column columns ih =>
    cases fields with
    | nil => cases hlength
    | cons field fields =>
      obtain _ | ⟨hsaid, hrow⟩ := hrow
      obtain _ | ⟨hstored, hvalues⟩ := hvalues
      obtain ⟨hfield, hfields⟩ := List.forall_mem_cons.1 hfields
      obtain ⟨hfinal, htabs⟩ := ih (Nat.succ.inj hlength) hrow hvalues hfields
      exact ⟨.cons ⟨_, hsaid.stored hstored, hstored⟩ hfinal,
        List.forall_mem_cons.2 ⟨hsaid.tab_not_mem hstored hfield, htabs⟩⟩

/-- **The values of a record are in their final form.** -/
theorem forall₂_isFinal_of_readLine (h : readLine schema line = .ok r) :
    List.Forall₂ IsFinal schema.columns r.values := by
  obtain ⟨row, ⟨fields, hfields, hwidth, hrow⟩, hvalues⟩ := readLine_eq_ok.1 h
  exact (forall₂_isFinal hwidth hrow hvalues hfields.not_mem).1

/-- Values in their final form are stored as they are. -/
theorem readFields_eq (line : List Char) (h : List.Forall₂ IsFinal columns values) :
    readFields line (columns.zip (values.map String.toList)) = .ok values := by
  induction h with
  | nil => rfl
  | cons hvalue _ ih =>
    rw [List.map_cons, List.zip_cons_cons, readFields, hvalue.readField_eq, ih]
    rfl

/-- **A record is read from its own line.** -/
theorem readLine_line (h : readLine schema line = .ok r) :
    readLine schema r.line.toList = .ok r := by
  obtain ⟨row, ⟨fields, hfields, hwidth, hrow⟩, hvalues⟩ := readLine_eq_ok.1 h
  obtain ⟨hfinal, htabs⟩ := forall₂_isFinal hwidth hrow hvalues hfields.not_mem
  have hlength : (r.values.map String.toList).length = schema.width := by
    rw [List.length_map, Schema.width, hfinal.length_eq]
  have hne : r.values.map String.toList ≠ [] := by
    rw [← List.length_pos_iff, hlength, ← hwidth]
    exact List.length_pos_iff.2 hfields.ne_nil
  have hparts : Separated '\t' (r.values.map String.toList) r.line.toList :=
    ⟨hne, List.forall_mem_map.2 htabs, r.toList_line.symm⟩
  rw [readLine, pieces_eq_iff.2 hparts, if_pos hlength, readFields_eq _ hfinal]
  rfl

end Line

/-- Lines that neither are empty nor end with a carriage return stay as
they are. -/
theorem contents_eq {lines : List String} (h : ∀ line ∈ lines,
    line.toList ≠ [] ∧ line.toList.getLast? ≠ some '\r') :
    contents lines = lines.map String.toList := by
  have hkept : lines.map (fun line => dropLastIf '\r' line.toList) = lines.map String.toList :=
    List.map_congr_left fun line hline => if_neg (h line hline).2
  rw [contents, hkept, List.filter_eq_self]
  exact List.forall_mem_map.2 fun line hline => by simpa using (h line hline).1

section Loading

variable {hash : String → UInt64} {lines : List String} {s : Store}

/-- Each record of a store is read from its line, unless one ends with a
carriage return. -/
theorem forall₂_readLine_lines (h : ofLinesWith hash schema lines = .ok s)
    (hreturn : ∀ r ∈ s.records, ¬ r.EndsInReturn) :
    List.Forall₂ (fun line r => readLine schema line = .ok r)
      (contents (s.records.toList.map Record.line)) s.records.toList := by
  have hkept : ∀ line ∈ s.records.toList.map Record.line,
      line.toList ≠ [] ∧ line.toList.getLast? ≠ some '\r' := by
    refine List.forall_mem_map.2 fun r hr =>
      ⟨Record.line_ne ((indexed_ofLinesWith h).key_ne hr), fun hend => ?_⟩
    exact hreturn r (Array.mem_toList_iff.1 hr) (Record.endsInReturn_of_line hend)
  rw [contents_eq hkept, List.map_map, List.forall₂_map_left_iff, List.forall₂_same]
  intro r hr
  obtain ⟨line, hline⟩ := exists_readLine_of_mem h r hr
  exact readLine_line hline

/-- **A store is loaded again from the lines of its records**, unless one of
them ends with a carriage return: whatever hash function the index has
then, there are the same records in the same order. And a field that is
stored again is stored as it was, so integers are in their final form after
one pass. -/
theorem ofLinesWith_lines (h : ofLinesWith hash schema lines = .ok s)
    (hreturn : ∀ r ∈ s.records, ¬ r.EndsInReturn) :
    (∀ hash', ∃ s', ofLinesWith hash' schema (s.records.toList.map Record.line) = .ok s' ∧
      s'.records = s.records) ∧
    ∀ column line field value, readField column line field = .ok value →
      ∀ line', readField column line' value.toList = .ok value := by
  have hread := forall₂_readLine_lines h hreturn
  refine ⟨fun hash' => ?_, fun column line field value hvalue =>
    (isFinal_of_readField hvalue).readField_eq⟩
  obtain ⟨s', hs'⟩ :=
    exists_ofLinesWith_iff_records.2 ⟨_, hread, (indexed_ofLinesWith h).indexable⟩
  -- a line is read into one record
  have hunique : Relator.RightUnique fun line r => readLine schema line = .ok r :=
    fun _ _ _ h h' => Except.ok.inj (h.symm.trans h')
  have hsame := hunique.forall₂ (forall₂_of_ofLinesWith hs').2 hread
  exact ⟨s', hs', Array.toList_inj.1 hsame⟩

/-- A store with the least integer and the greatest one. -/
def extremes : Store where
  schema := numbersAndTexts.schema
  records := #[⟨["-9223372036854775808", "ž"]⟩, ⟨["9223372036854775807", ""]⟩]
  index := ⟨Hashing.constant, #[some 0, none, none, none],
    #[⟨"-9223372036854775808", 0, some 1⟩, ⟨"9223372036854775807", 1, none⟩], 2⟩

/-- White space, a plus sign and a zero in front are gone after one pass. -/
theorem ofLinesWith_lines_of_extremes :
    ofLinesWith Hashing.constant numbersAndTexts.schema
        ["-9223372036854775808\tž\r", "\r", " +09223372036854775807\u00A0\t"] = .ok extremes ∧
      (∀ r ∈ extremes.records, ¬ r.EndsInReturn) ∧
      ∃ s, ofLinesWith Hashing.ofString numbersAndTexts.schema
          ["-9223372036854775808\tž", "9223372036854775807\t"] = .ok s ∧
        s.records = extremes.records := by
  have hload : ofLinesWith Hashing.constant numbersAndTexts.schema
      ["-9223372036854775808\tž\r", "\r", " +09223372036854775807\u00A0\t"] =
        .ok extremes := by rfl
  have hreturn : ∀ r ∈ extremes.records, ¬ r.EndsInReturn := by
    simp [extremes, Record.EndsInReturn]
  exact ⟨hload, hreturn, (ofLinesWith_lines hload hreturn).1 Hashing.ofString⟩

end Loading

end Store

end Cardfile
