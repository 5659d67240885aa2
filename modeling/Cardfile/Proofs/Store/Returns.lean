import Cardfile.Proofs.Text.Pieces
import Cardfile.Proofs.Store.Rows
import Mathlib
/-!
# Stores — a carriage return after a line

A line with a carriage return more at its end has the same fields but for
the last one. An integer there is trimmed, so the record is the same; a
text keeps the carriage return, so the record is another one
(`exists_readLine_return`). A line that is malformed with it is malformed
without it, for the same reason, yet the message has the line and tells
the two apart (`exists_readLine_error_of_return`).

`Shortened` carries this over lists of numbered lines where some have the
carriage return and others have no second one.
-/

namespace Cardfile

open Text

/-- The same fault of another line. -/
def LineFault.about (line : String) : LineFault → LineFault
  | .fieldCount expected found _ => .fieldCount expected found line
  | .notInteger column _ fault => .notInteger column line fault
  | .emptyKey keyName fault => .emptyKey keyName fault
  | .duplicateKey key => .duplicateKey key

namespace Store

variable {schema : Schema}

theorem readField_about (column : Column) (line line' field : List Char) :
    readField column line' field =
      (readField column line field).mapError (·.about (String.ofList line')) := by
  rw [readField, readField]
  cases column.kind with
  | text => rfl
  | integer => cases Integer.read (trim field) <;> rfl

theorem readFields_about (line line' : List Char) (fields : List (Column × List Char)) :
    readFields line' fields =
      (readFields line fields).mapError (·.about (String.ofList line')) := by
  induction fields with
  | nil => rfl
  | cons e fields ih =>
    obtain ⟨column, field⟩ := e
    rw [readFields, readFields, readField_about column line line', ih]
    cases readField column line field with
    | error fault => rfl
    | ok value => cases readFields line fields <;> rfl

theorem readFields_concat (line : List Char) (fields : List (Column × List Char)) (column : Column)
    (field : List Char) :
    readFields line (fields ++ [(column, field)]) = do
      let values ← readFields line fields
      let value ← readField column line field
      return values ++ [value] := by
  induction fields with
  | nil =>
    rw [List.nil_append, readFields, readFields]
    cases readField column line field <;> rfl
  | cons e fields ih =>
    obtain ⟨first, text⟩ := e
    rw [List.cons_append, readFields, readFields, ih]
    cases readField first line text with
    | error fault => rfl
    | ok value =>
      cases readFields line fields with
      | error fault => rfl
      | ok values => cases readField column line field <;> rfl

/-- The last column holds integers. -/
def EndsInInteger (schema : Schema) : Prop :=
  ∃ column, schema.columns.getLast? = some column ∧ column.kind = .integer

/-- **A carriage return after the line** goes to its last field, where it
is trimmed from an integer and stays in a text. -/
theorem exists_readLine_return (schema : Schema) (line : List Char) :
    ∃ f : Record → Record,
      readLine schema (line ++ ['\r']) =
        ((readLine schema line).map f).mapError (·.about (String.ofList (line ++ ['\r']))) ∧
      (EndsInInteger schema → ∀ r, f r = r) ∧
      (¬ EndsInInteger schema → ∀ r, readLine schema line = .ok r → f r ≠ r) := by
  obtain ⟨front, last, hline, hreturn⟩ :=
    exists_pieces_concat (show '\r' ≠ '\t' by decide) line
  have hlength : (front ++ [last ++ ['\r']]).length = (front ++ [last]).length := by simp
  by_cases hwidth : (front ++ [last]).length = schema.width
  · rcases schema.columns.eq_nil_or_concat with hnil | ⟨columns, column, hcolumns⟩
    · rw [Schema.width, hnil] at hwidth
      simp at hwidth
    rw [List.concat_eq_append] at hcolumns
    have hzip (field : List Char) :
        schema.columns.zip (front ++ [field]) = columns.zip front ++ [(column, field)] := by
      rw [hcolumns, List.zip_append]
      · rfl
      · rw [Schema.width, hcolumns] at hwidth
        simpa using hwidth.symm
    have hinteger : EndsInInteger schema ↔ column.kind = .integer := by
      rw [EndsInInteger, hcolumns, List.getLast?_concat]
      simp
    simp only [readLine, hline, hreturn, hlength, hwidth, if_true, hzip]
    rw [readFields_concat, readFields_concat, readFields_about line (line ++ ['\r'])]
    cases hkind : column.kind with
    | integer =>
      refine ⟨id, ?_, fun _ _ => rfl, fun hnot => absurd (hinteger.2 hkind) hnot⟩
      simp only [readField, hkind, trim_append_return]
      cases readFields line (columns.zip front) with
      | error fault => rfl
      | ok values => cases Integer.read (trim last) <;> rfl
    | text =>
      refine ⟨fun r => ⟨r.values.dropLast ++ [String.ofList (last ++ ['\r'])]⟩, ?_, ?_, ?_⟩
      · simp only [readField, hkind]
        cases readFields line (columns.zip front) with
        | error fault => rfl
        | ok values =>
          simp [bind, Except.bind, pure, Except.pure, Except.map, Except.mapError]
      · intro hlast
        rw [hinteger.1 hlast] at hkind
        cases hkind
      · intro _ r hr
        simp only [readField, hkind] at hr
        obtain ⟨values, hvalues, rfl⟩ := map_eq_ok.1 hr
        obtain ⟨values, -, hvalues⟩ := bind_eq_ok.1 hvalues
        cases hvalues
        simp [← String.toList_inj]
  · have hfault : readLine schema line =
        .error (.fieldCount schema.width (front ++ [last]).length (String.ofList line)) := by
      simp only [readLine, hline, if_neg hwidth]
    refine ⟨id, ?_, fun _ _ => rfl, fun _ r hr => ?_⟩
    · simp only [readLine, hreturn, hline, hlength, if_neg hwidth]
      rfl
    · rw [hfault] at hr
      cases hr

section Return

variable {line : List Char} {r : Record} {fault : LineFault}

/-- A line that can be read with a carriage return at its end can be read
without it. -/
theorem readable_of_return (h : Readable schema (line ++ ['\r'])) : Readable schema line := by
  obtain ⟨f, heq, -⟩ := exists_readLine_return schema line
  obtain ⟨r, hr⟩ := h
  rw [heq, mapError_eq_ok, map_eq_ok] at hr
  obtain ⟨r', hr', -⟩ := hr
  exact ⟨r', hr'⟩

/-- **An integer at the end** is the same without the carriage return. -/
theorem EndsInInteger.readLine_of_return (h : EndsInInteger schema)
    (hr : readLine schema (line ++ ['\r']) = .ok r) : readLine schema line = .ok r := by
  obtain ⟨f, heq, hsame, -⟩ := exists_readLine_return schema line
  rw [heq, mapError_eq_ok, map_eq_ok] at hr
  obtain ⟨r', hr', rfl⟩ := hr
  rw [hr', hsame h]

/-- **A text at the end** is another one without it. -/
theorem readLine_return_ne (h : ¬ EndsInInteger schema) (hr : readLine schema line = .ok r) :
    readLine schema (line ++ ['\r']) ≠ .ok r := by
  obtain ⟨f, heq, -, hother⟩ := exists_readLine_return schema line
  rw [heq, hr]
  intro hsame
  exact hother h r hr (Except.ok.inj hsame)

/-- No integer is read from a carriage return. -/
theorem EndsInInteger.not_readable_return (h : EndsInInteger schema) :
    ¬ Readable schema ['\r'] := by
  rintro ⟨r, hr⟩
  have hnil : readLine schema [] = .ok r := h.readLine_of_return hr
  obtain ⟨column, hlast, hkind⟩ := h
  rw [readLine] at hnil
  split_ifs at hnil with hwidth
  obtain ⟨only, hcolumns⟩ := List.length_eq_one_iff.1 hwidth.symm
  rw [hcolumns] at hlast hnil
  obtain rfl : only = column := Option.some.inj hlast
  obtain ⟨values, hvalues, -⟩ := map_eq_ok.1 hnil
  obtain ⟨value, hvalue, -⟩ := bind_eq_ok.1 hvalues
  rw [readField, hkind] at hvalue
  cases hvalue

/-! ### Faults of lines -/

/-- The fault of a line is about that line. -/
theorem about_of_readLine (h : readLine schema line = .error fault) :
    fault.about (String.ofList line) = fault := by
  have hsame : readLine schema line =
      (readLine schema line).mapError (·.about (String.ofList line)) := by
    rw [readLine]
    split_ifs
    · conv_lhs => rw [readFields_about line line]
      cases readFields line _ <;> rfl
    · rfl
  rw [h] at hsame
  exact (Except.error.inj hsame).symm

theorem message_about_ne (h : fault.IsMalformed) {a b : String} (hab : a ≠ b) :
    (fault.about a).report.message ≠ (fault.about b).report.message := by
  cases fault with
  | fieldCount | notInteger =>
    simp only [LineFault.about, LineFault.report, ne_eq, Option.some.injEq, String.append_right_inj]
    exact hab
  | emptyKey | duplicateKey => cases h

/-- **A malformed line is told apart** from the one with a carriage return
at its end. -/
theorem exists_readLine_error_of_return (h : readLine schema (line ++ ['\r']) = .error fault) :
    ∃ fault', readLine schema line = .error fault' ∧
      fault.report.message ≠ fault'.report.message := by
  obtain ⟨f, heq, -⟩ := exists_readLine_return schema line
  rw [heq, mapError_eq_error] at h
  obtain ⟨fault', hfault, rfl⟩ := h
  have hline := map_eq_error.1 hfault
  refine ⟨fault', hline, ?_⟩
  conv_rhs => rw [← about_of_readLine hline]
  refine message_about_ne (isMalformed_of_readLine hline) ?_
  rw [ne_eq, String.ofList_inj]
  simp

end Return

/-! ## Lines without a second carriage return -/

/-- **The lines are the same but for a carriage return** at the ends of
some, and lines that are nothing else are left out. -/
inductive Shortened (D : ℕ → Prop) : List (ℕ × List Char) → List (ℕ × List Char) → Prop
  | nil : Shortened D [] []
  | same {n : ℕ} {line : List Char} {numbered rest : List (ℕ × List Char)} :
      ¬ D n → Shortened D numbered rest →
      Shortened D ((n, line) :: numbered) ((n, line) :: rest)
  | short {n : ℕ} {line : List Char} {numbered rest : List (ℕ × List Char)} :
      D n → Shortened D numbered rest →
      Shortened D ((n, line ++ ['\r']) :: numbered) ((n, line) :: rest)
  | gone {n : ℕ} {numbered rest : List (ℕ × List Char)} :
      D n → Shortened D numbered rest → Shortened D ((n, ['\r']) :: numbered) rest

namespace Shortened

variable {D : ℕ → Prop} {numbered rest : List (ℕ × List Char)}

theorem eq_of_forall_not (h : Shortened D numbered rest) (hnot : ∀ n, ¬ D n) : numbered = rest := by
  induction h with
  | nil => rfl
  | same _ _ ih => rw [ih]
  | short hd | gone hd => exact absurd hd (hnot _)

/-- Lines that are left out have no numbers among the others. -/
theorem sublist (h : Shortened D numbered rest) :
    (rest.map Prod.fst).Sublist (numbered.map Prod.fst) := by
  induction h with
  | nil => exact .slnil
  | same _ _ ih | short _ _ ih => exact ih.cons_cons _
  | gone _ _ ih => exact ih.cons _

/-- A part of the lines goes with a part of the others. -/
theorem exists_append {before after : List (ℕ × List Char)}
    (h : Shortened D (before ++ after) rest) :
    ∃ front back, rest = front ++ back ∧ Shortened D before front ∧ Shortened D after back := by
  induction before generalizing rest with
  | nil => exact ⟨[], rest, rfl, .nil, h⟩
  | cons e before ih =>
    rw [List.cons_append] at h
    cases h with
    | same hd h =>
      obtain ⟨front, back, rfl, hfront, hback⟩ := ih h
      exact ⟨_ :: front, back, rfl, .same hd hfront, hback⟩
    | short hd h =>
      obtain ⟨front, back, rfl, hfront, hback⟩ := ih h
      exact ⟨_ :: front, back, rfl, .short hd hfront, hback⟩
    | gone hd h =>
      obtain ⟨front, back, rfl, hfront, hback⟩ := ih h
      exact ⟨front, back, rfl, .gone hd hfront, hback⟩

/-- **Lines that can be read can be read without the carriage returns.** -/
theorem readable (h : Shortened D numbered rest) (hall : ∀ e ∈ numbered, Readable schema e.2) :
    ∀ e ∈ rest, Readable schema e.2 := by
  induction h with
  | nil => exact hall
  | same _ _ ih =>
    obtain ⟨hline, hall⟩ := List.forall_mem_cons.1 hall
    exact List.forall_mem_cons.2 ⟨hline, ih hall⟩
  | short _ _ ih =>
    obtain ⟨hline, hall⟩ := List.forall_mem_cons.1 hall
    exact List.forall_mem_cons.2 ⟨readable_of_return hline, ih hall⟩
  | gone _ _ ih => exact ih (List.forall_mem_cons.1 hall).2

/-- **With an integer at the end** the records are the same. -/
theorem readLines_eq (h : Shortened D numbered rest) (hinteger : EndsInInteger schema)
    (hall : ∀ e ∈ numbered, Readable schema e.2) :
    readLines schema rest = readLines schema numbered := by
  induction h with
  | nil => rfl
  | same _ _ ih =>
    rw [readLines, readLines, ih (List.forall_mem_cons.1 hall).2]
  | short _ _ ih =>
    obtain ⟨⟨r, hr⟩, hall⟩ := List.forall_mem_cons.1 hall
    rw [readLines, readLines, ih hall, hr, hinteger.readLine_of_return hr]
  | gone => exact absurd (List.forall_mem_cons.1 hall).1 hinteger.not_readable_return

/-- **With a text at the end** they are not, unless the lines are. -/
theorem not_of_records_eq (h : Shortened D numbered rest) (htext : ¬ EndsInInteger schema)
    {records : List Record}
    (hnumbered : List.Forall₂ (fun e r => readLine schema e.2 = .ok r) numbered records)
    (hrest : List.Forall₂ (fun e r => readLine schema e.2 = .ok r) rest records) :
    ∀ e ∈ numbered, ¬ D e.1 := by
  induction h generalizing records with
  | nil => exact List.forall_mem_nil _
  | same hd _ ih =>
    obtain _ | ⟨-, hnumbered⟩ := hnumbered
    obtain _ | ⟨-, hrest⟩ := hrest
    exact List.forall_mem_cons.2 ⟨hd, ih hnumbered hrest⟩
  | short =>
    obtain _ | ⟨hreturn, -⟩ := hnumbered
    obtain _ | ⟨hline, -⟩ := hrest
    exact absurd hreturn (readLine_return_ne htext hline)
  | gone _ h =>
    -- there are more lines than records
    obtain _ | ⟨-, hnumbered⟩ := hnumbered
    have hfewer := h.sublist.length_le
    rw [List.length_map, List.length_map, hrest.length_eq, hnumbered.length_eq,
      List.length_cons] at hfewer
    omega

end Shortened

end Store

end Cardfile
