import Cardfile.Proofs.Text.Numeral
import Cardfile.Proofs.Text.Pieces
import Cardfile.Proofs.Store.Lines
import Mathlib
/-!
# Stores — what lines say

A line says a row of cells, one for each column: a text as it stands, or
the integer that a field is a numeral of. `RowOf` tells this without the
reader. Lines make a store exactly if each of them says a row and the
cells in front are keys, none an empty text and no two the same; and then
the records of the store hold these rows, line by line
(`ofLinesWith_exact`). Integers are the same cell whatever numeral they
are written with, so keys that are integers are told apart by their
values.
-/

namespace Cardfile

namespace Store

open Text Query

/-- **What a field says**: a text, or an integer. -/
inductive Cell where
  | text (value : String)
  | number (n : ℤ)
  deriving DecidableEq

/-- **The field says it** under the kind of its column: a text word for
word, an integer of 64 bits by a numeral with white space around it. -/
inductive Cell.Said : ColumnKind → List Char → Cell → Prop
  | text {field : List Char} : Said .text field (.text (String.ofList field))
  | number {w numeral w' : List Char} {n : ℤ} :
      IsSpace w → Integer.Numeral numeral n → Integer.InRange n → IsSpace w' →
      Said .integer (w ++ (numeral ++ w')) (.number n)

/-- **The value holds it**: a text as it is, an integer by its canonical
numeral. -/
inductive Cell.Stored : Cell → String → Prop
  | text {value : String} : Stored (.text value) value
  | number {value : String} {n : ℤ} : Integer.Canonical value.toList n → Stored (.number n) value

/-- **The line says the row**: between its tabs stands a field for each
column, and each says a cell. -/
def RowOf (schema : Schema) (line : List Char) (row : List Cell) : Prop :=
  ∃ fields, Separated '\t' fields line ∧ fields.length = schema.width ∧
    List.Forall₂ (fun e cell => Cell.Said e.1.kind e.2 cell) (schema.columns.zip fields) row

/-- The record holds the row. -/
def Holds (row : List Cell) (r : Record) : Prop := List.Forall₂ Cell.Stored row r.values

/-- **The rows have keys**: the cells in front are not empty texts, and no
two of them are the same. -/
def Keyed (rows : List (List Cell)) : Prop :=
  some (.text "") ∉ rows.map List.head? ∧ (rows.map List.head?).Nodup

/-- What is left of the lines without a carriage return at their ends, if
it is not empty. -/
def contents (lines : List String) : List (List Char) :=
  (lines.map fun line => dropLastIf '\r' line.toList).filter (· ≠ [])

variable {schema : Schema}

/-! ## Fields -/

/-- **A field of integers is trimmed and read.** -/
theorem read_trim_eq_ok {field : List Char} {n : ℤ} :
    Integer.read (trim field) = .ok n ↔ Cell.Said .integer field (.number n) := by
  rw [Integer.read_eq_ok_iff]
  constructor
  · rintro ⟨hnumeral, hrange⟩
    obtain ⟨w, w', hw, hw', hfield⟩ := exists_trim field
    rw [hfield]
    exact .number hw hnumeral hrange hw'
  · rintro (_ | ⟨hw, hnumeral, hrange, hw'⟩)
    -- a numeral has no white space, so none at its ends
    rw [trim_append_of_forall hw hw' hnumeral.ne_nil fun c => hnumeral.isBlank_of_mem]
    exact ⟨hnumeral, hrange⟩

/-- **A field is read into the value of its cell.** -/
theorem readField_eq_ok {column : Column} {line field : List Char} {value : String} :
    readField column line field = .ok value ↔
      ∃ cell, Cell.Said column.kind field cell ∧ cell.Stored value := by
  rw [readField]
  cases column.kind with
  | text =>
    simp only [Except.ok.injEq]
    constructor
    · rintro rfl
      exact ⟨_, .text, .text⟩
    · rintro ⟨_, ⟨⟩, ⟨⟩⟩
      rfl
  | integer =>
    have hstored {n : ℤ} : (Cell.number n).Stored value ↔ Integer.text n = value := by
      rw [Integer.text, ← String.toList_inj, String.toList_ofList, eq_comm,
        ← Integer.canonical_iff]
      constructor
      · rintro (_ | hcanonical)
        exact hcanonical
      · exact .number
    simp only
    constructor
    · intro h
      cases hread : Integer.read (trim field) with
      | error fault =>
        rw [hread] at h
        cases h
      | ok n =>
        rw [hread, Except.ok.injEq] at h
        exact ⟨.number n, read_trim_eq_ok.1 hread, hstored.2 h⟩
    · rintro ⟨cell | n, hsaid, hcell⟩
      · cases hsaid
      · rw [read_trim_eq_ok.2 hsaid]
        exact congrArg Except.ok (hstored.1 hcell)

/-! ## Lines -/

theorem readFields_eq_ok {line : List Char} {fields : List (Column × List Char)}
    {values : List String} :
    readFields line fields = .ok values ↔
      ∃ row, List.Forall₂ (fun e cell => Cell.Said e.1.kind e.2 cell) fields row ∧
        List.Forall₂ Cell.Stored row values := by
  induction fields generalizing values with
  | nil =>
    rw [readFields, Except.ok.injEq]
    constructor
    · rintro rfl
      exact ⟨[], .nil, .nil⟩
    · rintro ⟨_, ⟨⟩, ⟨⟩⟩
      rfl
  | cons e fields ih =>
    obtain ⟨column, field⟩ := e
    rw [readFields]
    simp only [bind_eq_ok, readField_eq_ok, ih]
    constructor
    · rintro ⟨value, ⟨cell, hsaid, hstored⟩, values, ⟨row, hrow, hvalues⟩, ⟨⟩⟩
      exact ⟨cell :: row, .cons hsaid hrow, .cons hstored hvalues⟩
    · rintro ⟨_, _ | ⟨hsaid, hrow⟩, _ | ⟨hstored, hvalues⟩⟩
      exact ⟨_, ⟨_, hsaid, hstored⟩, _, ⟨_, hrow, hvalues⟩, rfl⟩

/-- **A line is read into a record of its row.** -/
theorem readLine_eq_ok {line : List Char} {r : Record} :
    readLine schema line = .ok r ↔ ∃ row, RowOf schema line row ∧ Holds row r := by
  have hmap : ∀ {fields : List (List Char)},
      (readFields line (schema.columns.zip fields)).map Record.mk = .ok r ↔
        readFields line (schema.columns.zip fields) = .ok r.values := by
    intro fields
    rw [map_eq_ok]
    constructor
    · rintro ⟨values, hvalues, rfl⟩
      exact hvalues
    · exact fun h => ⟨_, h, rfl⟩
  rw [readLine]
  constructor
  · intro h
    split_ifs at h with hwidth
    obtain ⟨row, hrow, hvalues⟩ := readFields_eq_ok.1 (hmap.1 h)
    exact ⟨row, ⟨_, pieces_eq_iff.1 rfl, hwidth, hrow⟩, hvalues⟩
  · rintro ⟨row, ⟨fields, hfields, hwidth, hrow⟩, hvalues⟩
    rw [pieces_eq_iff.2 hfields, if_pos hwidth]
    exact hmap.2 (readFields_eq_ok.2 ⟨row, hrow, hvalues⟩)

/-- The numbered lines are those that are not passed over. -/
theorem map_snd_recordLines (n : ℕ) (lines : List String) :
    (recordLines n lines).map Prod.snd = contents lines := by
  induction lines generalizing n with
  | nil => rfl
  | cons line lines ih =>
    rw [recordLines, contents, List.map_cons, List.filter_cons]
    by_cases hempty : dropLastIf '\r' line.toList = []
    · rw [if_pos hempty, if_neg (by simpa using hempty), ih]
      rfl
    · rw [if_neg hempty, if_pos (by simpa using hempty), List.map_cons, ih]
      rfl

/-! ## Rows and records -/

section Rows

variable {line : List Char} {lines : List (List Char)} {row : List Cell} {r : Record}
  {rows : List (List Cell)} {records : List Record}

/-- A field says one cell. -/
theorem said_unique (kind : ColumnKind) (field : List Char) {cell cell' : Cell}
    (h : Cell.Said kind field cell) (h' : Cell.Said kind field cell') : cell = cell' := by
  cases kind with
  | text =>
    cases h
    cases h'
    rfl
  | integer =>
    obtain _ | n := cell
    · cases h
    obtain _ | n' := cell'
    · cases h'
    have hread := read_trim_eq_ok.2 h
    rw [read_trim_eq_ok.2 h', Except.ok.injEq] at hread
    rw [hread]

/-- **A line says one row.** -/
theorem rowOf_unique : Relator.RightUnique (RowOf schema) := by
  rintro line row row' ⟨fields, hfields, -, hrow⟩ ⟨fields', hfields', -, hrow'⟩
  obtain rfl : fields = fields' := (pieces_eq_iff.2 hfields).symm.trans (pieces_eq_iff.2 hfields')
  have hunique : Relator.RightUnique fun (e : Column × List Char) cell =>
      Cell.Said e.1.kind e.2 cell := fun e _ _ => said_unique e.1.kind e.2
  exact hunique.forall₂ hrow hrow'

/-- Every row can be held. -/
theorem exists_holds (row : List Cell) : ∃ r, Holds row r := by
  have hcell (cell : Cell) : ∃ value, cell.Stored value := by
    cases cell with
    | text value => exact ⟨value, .text⟩
    | number n => exact ⟨Integer.text n, .number (Integer.canonical_iff.2 String.toList_ofList)⟩
  choose stored hstored using hcell
  refine ⟨⟨row.map stored⟩, List.forall₂_map_right_iff.2 ?_⟩
  exact List.forall₂_same.2 fun cell _ => hstored cell

/-- **Lines are read into records of their rows.** -/
theorem forall₂_readLine_iff :
    List.Forall₂ (fun line r => readLine schema line = .ok r) lines records ↔
      ∃ rows, List.Forall₂ (RowOf schema) lines rows ∧ List.Forall₂ Holds rows records := by
  constructor
  · intro h
    induction h with
    | nil => exact ⟨[], .nil, .nil⟩
    | cons hline _ ih =>
      obtain ⟨row, hrow, hholds⟩ := readLine_eq_ok.1 hline
      obtain ⟨rows, hrows, hrecords⟩ := ih
      exact ⟨row :: rows, .cons hrow hrows, .cons hholds hrecords⟩
  · rintro ⟨rows, hrows, hrecords⟩
    induction hrows generalizing records with
    | nil =>
      cases hrecords
      exact .nil
    | cons hrow _ ih =>
      obtain _ | ⟨hholds, hrecords⟩ := hrecords
      exact .cons (readLine_eq_ok.2 ⟨_, hrow, hholds⟩) (ih hrecords)

/-! ## Keys -/

/-- The cell in front of a row says the key of the record that holds it,
under the kind of the first column. -/
def KeyAs (schema : Schema) (front : Option Cell) (key : String) : Prop :=
  ∃ column field cell, schema.columns.head? = some column ∧ front = some cell ∧
    Cell.Said column.kind field cell ∧ cell.Stored key

theorem keyAs_of_holds (h : RowOf schema line row) (hr : Holds row r) :
    KeyAs schema row.head? r.key := by
  obtain ⟨fields, hfields, hwidth, hrow⟩ := h
  obtain ⟨field, fields, rfl⟩ := List.exists_cons_of_ne_nil hfields.ne_nil
  cases hcolumns : schema.columns with
  | nil =>
    rw [Schema.width, hcolumns] at hwidth
    cases hwidth
  | cons column columns =>
    rw [hcolumns, List.zip_cons_cons] at hrow
    obtain ⟨values⟩ := r
    obtain _ | ⟨hsaid, -⟩ := hrow
    rw [Holds] at hr
    obtain _ | ⟨hstored, -⟩ := hr
    exact ⟨column, field, _, by rw [hcolumns]; rfl, rfl, hsaid, hstored⟩

/-- A cell is held by one value. -/
theorem stored_unique {cell : Cell} {value value' : String} (h : cell.Stored value)
    (h' : cell.Stored value') : value = value' := by
  cases h with
  | text =>
    cases h'
    rfl
  | number hcanonical =>
    obtain _ | hcanonical' := h'
    rw [← String.toList_inj, Integer.canonical_iff.1 hcanonical,
      Integer.canonical_iff.1 hcanonical']

/-- **Keys are the same where the cells are**, since columns of integers
hold no texts. -/
theorem keyAs_biUnique : Relator.BiUnique (KeyAs schema) := by
  constructor
  · rintro _ _ key ⟨column, field, cell, hcolumn, rfl, hsaid, hstored⟩
      ⟨column', field', cell', hcolumn', rfl, hsaid', hstored'⟩
    obtain rfl : column = column' := Option.some.inj (hcolumn.symm.trans hcolumn')
    -- a text and a number with the same value would be said by columns of different kinds
    generalize column.kind = kind at hsaid hsaid'
    cases hstored with
    | text =>
      cases hstored' with
      | text => rfl
      | number =>
        cases hsaid
        cases hsaid'
    | number hcanonical =>
      cases hstored' with
      | text =>
        cases hsaid
        cases hsaid'
      | number hcanonical' => rw [hcanonical.numeral.unique hcanonical'.numeral]
  · rintro _ key key' ⟨-, -, cell, -, rfl, -, hstored⟩ ⟨-, -, cell', -, hcell, -, hstored'⟩
    cases hcell
    exact stored_unique hstored hstored'

/-- Only the empty text is an empty key. -/
theorem KeyAs.empty_iff {front : Option Cell} {key : String} (h : KeyAs schema front key) :
    front = some (.text "") ↔ key = "" := by
  obtain ⟨column, field, cell, -, rfl, -, hstored⟩ := h
  cases hstored with
  | text => rw [Option.some.injEq, Cell.text.injEq]
  | number hcanonical =>
    refine ⟨nofun, ?_⟩
    rintro rfl
    exact absurd rfl hcanonical.numeral.ne_nil

/-- **Rows have keys exactly if the keys of their records can be held.** -/
theorem keyed_iff (hrows : List.Forall₂ (RowOf schema) lines rows)
    (hrecords : List.Forall₂ Holds rows records) :
    Keyed rows ↔ Indexable (records.map Record.key) := by
  have hkeys : List.Forall₂ (KeyAs schema) (rows.map List.head?) (records.map Record.key) := by
    rw [List.forall₂_map_left_iff, List.forall₂_map_right_iff]
    induction hrows generalizing records with
    | nil =>
      cases hrecords
      exact .nil
    | cons hrow _ ih =>
      obtain _ | ⟨hholds, hrecords⟩ := hrecords
      exact .cons (keyAs_of_holds hrow hholds) (ih hrecords)
  have hempty : some (.text "") ∈ rows.map List.head? ↔ "" ∈ records.map Record.key := by
    generalize rows.map List.head? = fronts, records.map Record.key = keys at hkeys
    induction hkeys with
    | nil => exact iff_of_false List.not_mem_nil List.not_mem_nil
    | cons hkey _ ih =>
      rw [List.mem_cons, List.mem_cons, ih, eq_comm, hkey.empty_iff, eq_comm]
  rw [Keyed, Indexable, hempty]
  -- repetitions are carried over since cells and keys determine each other
  exact and_congr_right fun _ => List.rel_nodup keyAs_biUnique hkeys

end Rows

/-! ## Loading -/

section Loading

variable {hash : String → UInt64} {lines : List String} {s : Store}

/-- **The records of a store are read from its lines**, one by one, and
their keys can be held. -/
theorem forall₂_of_ofLinesWith (h : ofLinesWith hash schema lines = .ok s) :
    s.schema = schema ∧
      List.Forall₂ (fun line r => readLine schema line = .ok r) (contents lines)
        s.records.toList := by
  rw [ofLinesWith] at h
  obtain ⟨records, hread, h⟩ := bind_eq_ok.1 h
  obtain ⟨index, -, h⟩ := bind_eq_ok.1 h
  cases h
  refine ⟨rfl, ?_⟩
  rw [← map_snd_recordLines 1, List.toList_toArray, List.forall₂_map_left_iff,
    List.forall₂_map_right_iff]
  exact (readLines_eq_ok hread).imp fun _ _ hline => hline.2

/-- Every record was read from a line. -/
theorem exists_readLine_of_mem (h : ofLinesWith hash schema lines = .ok s) :
    ∀ r ∈ s.records.toList, ∃ line, readLine schema line = .ok r := by
  have hread := (forall₂_of_ofLinesWith h).2
  generalize contents lines = texts, s.records.toList = records at hread
  induction hread with
  | nil => exact List.forall_mem_nil _
  | cons hline _ ih => exact List.forall_mem_cons.2 ⟨⟨_, hline⟩, ih⟩

/-- **Every record has a field for each column.** -/
theorem length_values (h : ofLinesWith hash schema lines = .ok s) :
    ∀ r ∈ s.records.toList, r.values.length = schema.width := by
  intro r hr
  obtain ⟨line, hline⟩ := exists_readLine_of_mem h r hr
  obtain ⟨row, ⟨fields, -, hwidth, hrow⟩, hholds⟩ := readLine_eq_ok.1 hline
  rw [← hholds.length_eq, ← hrow.length_eq, List.length_zip, hwidth]
  exact Nat.min_self _

/-- **Lines make a store** exactly if they are read into records whose
keys can be held. -/
theorem exists_ofLinesWith_iff_records :
    (∃ s, ofLinesWith hash schema lines = .ok s) ↔
      ∃ records,
        List.Forall₂ (fun line r => readLine schema line = .ok r) (contents lines) records ∧
        Indexable (records.map Record.key) := by
  constructor
  · rintro ⟨s, h⟩
    exact ⟨s.records.toList, (forall₂_of_ofLinesWith h).2, (indexed_ofLinesWith h).indexable⟩
  · rintro ⟨records, hrecords, hkeys⟩
    rw [← map_snd_recordLines 1, List.forall₂_map_left_iff] at hrecords
    rw [exists_ofLinesWith_iff]
    exact ⟨readable_of_forall₂ hrecords, lineKeys_of_forall₂ hrecords ▸ hkeys⟩

/-- **Loading is exact.** Lines make a store exactly if those that are not
passed over say rows that have keys, and the records of the store are then
the ones that hold these rows, one for each line and in their order. -/
theorem ofLinesWith_exact (hash : String → UInt64) (schema : Schema) (lines : List String) :
    ((∃ s, ofLinesWith hash schema lines = .ok s) ↔
      ∃ rows, List.Forall₂ (RowOf schema) (contents lines) rows ∧ Keyed rows) ∧
    ∀ s, ofLinesWith hash schema lines = .ok s →
      s.schema = schema ∧
        ∀ rows, List.Forall₂ (RowOf schema) (contents lines) rows →
          List.Forall₂ Holds rows s.records.toList := by
  constructor
  · rw [exists_ofLinesWith_iff_records]
    constructor
    · rintro ⟨records, hread, hkeys⟩
      obtain ⟨rows, hrows, hrecords⟩ := forall₂_readLine_iff.1 hread
      exact ⟨rows, hrows, (keyed_iff hrows hrecords).2 hkeys⟩
    · rintro ⟨rows, hrows, hkeyed⟩
      choose hold hholds using exists_holds
      have hrecords : List.Forall₂ Holds rows (rows.map hold) :=
        List.forall₂_map_right_iff.2 (List.forall₂_same.2 fun row _ => hholds row)
      exact ⟨_, forall₂_readLine_iff.2 ⟨rows, hrows, hrecords⟩, (keyed_iff hrows hrecords).1 hkeyed⟩
  · intro s h
    obtain ⟨hschema, hread⟩ := forall₂_of_ofLinesWith h
    refine ⟨hschema, fun rows hrows => ?_⟩
    obtain ⟨rows', hrows', hrecords⟩ := forall₂_readLine_iff.1 hread
    -- the rows that were read are these, as lines say only one row each
    rwa [rowOf_unique.forall₂ hrows hrows']

/-- A store whose keys are integers. -/
def numbersAndTexts : Store where
  schema :=
    { columns := [{ name := "n", kind := .integer }, { name := "t", kind := .text }]
      registry := ⟨Hashing.constant, #[some 0, none, none, none],
        #[⟨"n", 0, some 1⟩, ⟨"t", 1, none⟩], 2⟩ }
  records := #[⟨["7", "ž"]⟩, ⟨["0", ""]⟩]
  index := ⟨Hashing.constant, #[some 0, none, none, none], #[⟨"7", 0, some 1⟩, ⟨"0", 1, none⟩], 2⟩

/-- A sign, zeros in front, white space, and a line that is passed over. -/
theorem ofLinesWith_exact_of_numbers :
    ofLinesWith Hashing.constant numbersAndTexts.schema ["+07\tž\r", "\r", " -0\u00A0\t"] =
        .ok numbersAndTexts ∧
      List.Forall₂ Holds [[.number 7, .text "ž"], [.number 0, .text ""]]
        numbersAndTexts.records.toList := by
  have hload : ofLinesWith Hashing.constant numbersAndTexts.schema
      ["+07\tž\r", "\r", " -0\u00A0\t"] = .ok numbersAndTexts := by rfl
  have hcontents : contents ["+07\tž\r", "\r", " -0\u00A0\t"] =
      ["+07\tž".toList, " -0\u00A0\t".toList] := by decide +kernel
  have hseven : RowOf numbersAndTexts.schema "+07\tž".toList [.number 7, .text "ž"] := by
    have hsaid : Cell.Said .integer "+07".toList (.number 7) := read_trim_eq_ok.1 (by decide)
    exact ⟨["+07".toList, "ž".toList], pieces_eq_iff.1 (by decide), rfl,
      .cons hsaid (.cons .text .nil)⟩
  have hzero : RowOf numbersAndTexts.schema " -0\u00A0\t".toList [.number 0, .text ""] := by
    have hsaid : Cell.Said .integer " -0\u00A0".toList (.number 0) := read_trim_eq_ok.1 (by decide)
    exact ⟨[" -0\u00A0".toList, "".toList], pieces_eq_iff.1 (by decide), rfl,
      .cons hsaid (.cons .text .nil)⟩
  have hrows : List.Forall₂ (RowOf numbersAndTexts.schema)
      (contents ["+07\tž\r", "\r", " -0\u00A0\t"])
      [[.number 7, .text "ž"], [.number 0, .text ""]] := by
    rw [hcontents]
    exact .cons hseven (.cons hzero .nil)
  exact ⟨hload, ((ofLinesWith_exact _ _ _).2 _ hload).2 _ hrows⟩

end Loading

end Store

end Cardfile
