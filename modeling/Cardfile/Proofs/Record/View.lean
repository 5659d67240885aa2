import Cardfile.Json.Printer
import Cardfile.Record.View
import Cardfile.Proofs.Schema.Accepted
import Cardfile.Proofs.Store.Reload
/-!
# Records — what their views show

The loader and the view of a record read integers each for itself, the
view with a string as its way out. But a value that the loader stored is
in its final form, so the view never takes that way: it shows an integer
as the number whose decimal text is the value, and a text as the string
that it is (`shows_fieldView`). As the names of the columns are distinct, a
record can be told from the fields of its view in whatever order they come,
and nothing of it is lost (`view_lossless`).
-/

namespace Cardfile

namespace Json

/-- The text that a number or a string stands for. -/
def scalar? : Json → Option String
  | .number n => some (Text.Integer.text n)
  | .string s => some s
  | .array _ => none
  | .object _ => none

end Json

namespace Record

/-! ## What is shown -/

/-- **A value and how it is shown**: in a column of integers as a number
whose decimal text is the value, in a column of texts as the string. -/
inductive Shows : ColumnKind → Json → String → Prop
  | number (n : ℤ) : Shows .integer (.number n) (Json.number n).compact
  | string (value : String) : Shows .text (.string value) value

/-- **The fields show the record** under the schema. -/
structure IsShownBy (schema : Schema) (r : Record) (fields : List (String × Json)) : Prop where
  /-- There is a field for each column, in the order of the columns. -/
  names : fields.map Prod.fst = schema.names
  /-- No two fields have the same name. -/
  nodup : (fields.map Prod.fst).Nodup
  /-- There is a value for each column. -/
  width : r.values.length = schema.width
  /-- Each field shows the value of its column. -/
  shows : ∀ (i : ℕ) (column : Column) (value : String), schema.columns[i]? = some column →
    r.values[i]? = some value → ∃ j, fields[i]? = some (column.name, j) ∧ Shows column.kind j value

/-- The record whose values stand under the names of the columns. -/
def ofView? (schema : Schema) : Json → Option Record
  | .object fields => do
    let values ← schema.names.mapM fun name =>
      (Ledger.get? ⟨fields⟩ name).bind Json.scalar?
    pure ⟨values⟩
  | _ => none

section Fields

open Text Store

variable {kind : ColumnKind} {column : Column} {j : Json} {value : String}
variable {schema : Schema} {r : Record} {fields : List (String × Json)}

/-- The value is the text that its field stands for. -/
theorem Shows.scalar? (h : Shows kind j value) : j.scalar? = some value := by
  cases h with
  | number n => rw [Json.scalar?, Json.compact]
  | string => rfl

/-- **A value in its final form is shown.** -/
theorem shows_fieldView (h : IsFinal column value) :
    Shows column.kind (fieldView column value) value := by
  obtain ⟨name, kind⟩ := column
  obtain ⟨cell, hsaid, hstored⟩ := h
  change Cell.Said kind _ _ at hsaid
  -- the two kinds of fields cannot be told apart while the characters are those of the value
  generalize htext : value.toList = text at hsaid
  cases hsaid with
  | text => exact .string value
  | @number _ _ _ n _ _ hrange _ =>
    obtain _ | hcanonical := hstored
    have hread : Integer.read value.toList = .ok n :=
      Integer.read_eq_ok_iff.2 ⟨hcanonical.numeral, hrange⟩
    have hvalue : (Json.number n).compact = value := by
      rw [Json.compact, Integer.text, ← Integer.canonical_iff.1 hcanonical, String.ofList_toList]
    have hview : fieldView ⟨name, .integer⟩ value = .number n := by rw [fieldView, hread]
    rw [hview, ← hvalue]
    exact .number n

/-- **The view of a record shows it**, if its values are in their final
form and the names of the columns are distinct. -/
theorem isShownBy_viewFields (h : List.Forall₂ IsFinal schema.columns r.values)
    (hnames : schema.names.Nodup) : r.IsShownBy schema (r.viewFields schema) := by
  obtain ⟨hlength, hfinal⟩ := List.forall₂_iff_zip.1 h
  have hfields : (r.viewFields schema).map Prod.fst = schema.names := by
    have hcolumns : (r.viewFields schema).map Prod.fst =
        ((schema.columns.zip r.values).map Prod.fst).map Column.name := by
      rw [viewFields, List.map_map, List.map_map]
      rfl
    rw [hcolumns, List.map_fst_zip hlength.le, Schema.names]
  refine ⟨hfields, hfields ▸ hnames, hlength.symm, fun i column value hcolumn hvalue => ?_⟩
  have hentry : (schema.columns.zip r.values)[i]? = some (column, value) :=
    List.getElem?_zip_eq_some.2 ⟨hcolumn, hvalue⟩
  refine ⟨fieldView column value, ?_, shows_fieldView (hfinal (List.mem_of_getElem? hentry))⟩
  rw [viewFields, List.getElem?_map, hentry]
  rfl

/-- **The record is told from the fields that show it**, in whatever order
they come. -/
theorem IsShownBy.ofView?_eq {fields' : List (String × Json)} (h : r.IsShownBy schema fields)
    (hperm : fields'.Perm fields) : ofView? schema (.object fields') = some r := by
  have hnodup : (⟨fields'⟩ : Ledger String Json).keys.Nodup :=
    (hperm.map Prod.fst).nodup_iff.2 h.nodup
  have hvalues : List.Forall₂ (fun name value =>
      (Ledger.get? ⟨fields'⟩ name).bind Json.scalar? = some value) schema.names r.values := by
    rw [Schema.names, List.forall₂_map_left_iff, List.forall₂_iff_zip]
    refine ⟨h.width.symm, fun {column value} hmem => ?_⟩
    obtain ⟨i, hi⟩ := List.mem_iff_getElem?.1 hmem
    obtain ⟨hcolumn, hvalue⟩ := List.getElem?_zip_eq_some.1 hi
    obtain ⟨j, hfield, hshows⟩ := h.shows i column value hcolumn hvalue
    rw [(Ledger.get?_eq_some hnodup).2 (hperm.mem_iff.2 (List.mem_of_getElem? hfield))]
    exact hshows.scalar?
  rw [ofView?, mapM_eq_some.2 hvalues]
  rfl

end Fields

/-! ## Views of loaded records -/

/-- **Nothing is lost in a view.** A record that was loaded has a view with
one field for each column, in the order of the columns and under distinct
names, which shows an integer as the number with just that decimal text and
a text as just that string. So the record is told from its view and the
schema, in whatever order the fields of the view are printed, and records
with the same view have the same values. -/
theorem view_lossless {hash hash' : String → UInt64} {columns : List Column} {schema : Schema}
    {lines : List String} {s : Store} (hschema : Schema.ofColumnsWith hash columns = .ok schema)
    (h : Store.ofLinesWith hash' schema lines = .ok s) :
    (∀ r ∈ s.records, ∃ fields, r.view schema = .object fields ∧ r.IsShownBy schema fields ∧
      ∀ fields', fields'.Perm fields → ofView? schema (.object fields') = some r) ∧
    ∀ r ∈ s.records, ∀ r' ∈ s.records, r.view schema = r'.view schema → r.values = r'.values := by
  have hnames : schema.names.Nodup := by
    rw [Schema.names, Schema.columns_ofColumnsWith hschema]
    exact (Schema.exists_ofColumnsWith_iff.1 ⟨schema, hschema⟩).2.2.1
  have hshown (r) (hr : r ∈ s.records) : r.IsShownBy schema (r.viewFields schema) := by
    obtain ⟨line, hline⟩ := Store.exists_readLine_of_mem h r (Array.mem_toList_iff.2 hr)
    exact isShownBy_viewFields (Store.forall₂_isFinal_of_readLine hline) hnames
  refine ⟨fun r hr => ⟨_, rfl, hshown r hr, fun _ hperm => (hshown r hr).ofView?_eq hperm⟩,
    fun r hr r' hr' hview => ?_⟩
  have htold := (hshown r hr).ofView?_eq (.refl _)
  change ofView? schema (r.view schema) = some r at htold
  rw [hview] at htold
  exact congrArg values (Option.some.inj (htold.symm.trans ((hshown r' hr').ofView?_eq (.refl _))))

/-- A store of two keys that read as the same number. -/
def sevens : Store where
  schema := Query.keyAndNumber
  records := #[⟨["007", "7"]⟩, ⟨["7", "0"]⟩]
  index := ⟨Hashing.constant, #[some 0, none, none, none], #[⟨"007", 0, some 1⟩, ⟨"7", 1, none⟩], 2⟩

/-- Keys stay strings, and the fields may be swapped. -/
theorem view_lossless_of_sevens :
    Schema.ofColumnsWith Hashing.constant Query.keyAndNumber.columns = .ok Query.keyAndNumber ∧
      Store.ofLinesWith Hashing.constant Query.keyAndNumber ["007\t+07", "7\t-0"] = .ok sevens ∧
      ofView? Query.keyAndNumber (.object [("n", .number 7), ("k", .string "007")]) =
        some ⟨["007", "7"]⟩ := by
  have hload : Store.ofLinesWith Hashing.constant Query.keyAndNumber ["007\t+07", "7\t-0"] =
      .ok sevens := by rfl
  refine ⟨Query.ofColumnsWith_keyAndNumber, hload, ?_⟩
  obtain ⟨fields, hview, -, htold⟩ :=
    (view_lossless Query.ofColumnsWith_keyAndNumber hload).1 ⟨["007", "7"]⟩ (by simp [sevens])
  cases hview
  exact htold _ (.swap _ _ _)

end Record

end Cardfile
