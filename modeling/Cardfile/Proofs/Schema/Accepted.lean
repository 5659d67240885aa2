import Cardfile.Proofs.Query.Script
import Cardfile.Proofs.Query.Sentences
import Cardfile.Proofs.Table.Capacity
/-!
# Schemas — the columns that make one

The schema and the query language tell names from other texts each in its
own way, the schema by a look at the characters and the scanner by reading
them, and they agree (`standsAlone_iff`). So columns make a schema exactly
if there are any, no two share a name, and the scanner reads each name as
the name of a field; and in that schema every column is found under its
name and can be asked for in a query (`ofColumnsWith_exact`).
-/

namespace Cardfile

namespace Query

open Text Scanner

/-! ## Names alone in a text -/

/-- **The text is a name and nothing else.** The scanner is asked twice:
it reads the name of a field, which is the whole text, and then the end. -/
def StandsAlone (text : String) : Prop :=
  ((ofString text).calls [.next, .next]).map Call.answer = [.ok (.field text), .ok .finish]

instance : DecidablePred StandsAlone := fun _ => inferInstanceAs (Decidable (_ = _))

section Field

variable {mode : Mode} {text rest : List Char} {name : String}

/-- What is read as the name of a field is a word and no keyword. -/
theorem Reads.of_field (h : Reads mode text (.field name) rest) :
    isWord name.toList = true ∧ isKeyword name.toList = false := by
  generalize htoken : Token.field name = t at h
  cases h with
  | opening | closing | literal => cases htoken
  | bare _ hbare =>
    cases hbare with
    | symbol => cases htoken
    | word hword _ =>
      obtain ⟨rfl, hkeyword⟩ := wordToken_eq_field_iff.1 htoken.symm
      exact ⟨hword, hkeyword⟩

/-- **Schema and scanner agree on names.** -/
theorem standsAlone_iff :
    StandsAlone name ↔ isWord name.toList = true ∧ isKeyword name.toList = false := by
  have hstart : ofString name = before .plain name.toList := rfl
  constructor
  · intro h
    obtain ⟨hname, -⟩ := List.cons.inj h
    obtain ⟨hend, -⟩ | ⟨rest, -, hreads⟩ := reads_of_next (Prod.ext hname rfl)
    · cases hend
    · exact hreads.of_field
  · rintro ⟨hword, hkeyword⟩
    have hname := next_of_bare (bare_field hword hkeyword stops_nil)
    rw [List.append_nil, ← hstart] at hname
    rw [StandsAlone, calls, calls, calls, hname, next_isSpace isSpace_nil]
    rfl

end Field

end Query

namespace Schema

open Query

variable {hash : String → UInt64} {columns : List Column} {s : Schema}

/-! ## Registering -/

/-- A name is accepted exactly if the scanner reads it alone. -/
theorem checkName_eq_ok_iff {name : String} : checkName name = .ok () ↔ StandsAlone name :=
  checkName_eq_ok.trans standsAlone_iff.symm

section Register

variable {registry : Table String ℕ} {l : Ledger String ℕ}

/-- **Registering one column.** It is refused if its name is not accepted or
stands already, and otherwise it comes last. -/
theorem register_cons_cases (h : registry.Holds l) (i : ℕ) (column : Column)
    (columns : List Column) :
    ((StandsAlone column.name → column.name ∈ l.keys) ∧
        ∃ fault, register registry i (column :: columns) = .error fault) ∨
      StandsAlone column.name ∧ column.name ∉ l.keys ∧
        ∃ registry', registry'.Holds (l.append column.name i) ∧
          register registry i (column :: columns) = register registry' (i + 1) columns := by
  rw [register]
  cases hcheck : checkName column.name with
  | error fault =>
    refine .inl ⟨fun hname => ?_, fault, rfl⟩
    rw [checkName_eq_ok_iff.2 hname] at hcheck
    cases hcheck
  | ok =>
    have hname := checkName_eq_ok_iff.1 hcheck
    have hblank : TableKey.isBlank column.name = false := by
      by_contra hempty
      rw [Bool.not_eq_false] at hempty
      have hword := (checkName_eq_ok.1 hcheck).1
      rw [String.isEmpty_iff.1 hempty] at hword
      cases hword
    obtain ⟨hmem, j, registry', hput⟩ | ⟨hnot, registry', hput, hholds⟩ := h.put_cases hblank i
    · exact .inl ⟨fun _ => hmem, _, by rw [hput]; rfl⟩
    · exact .inr ⟨hname, hnot, registry', hholds, by rw [hput]; rfl⟩

/-- **Columns are registered** exactly if their names are accepted, and no
name stands already or comes twice. -/
theorem exists_register_iff (h : registry.Holds l) (i : ℕ) :
    (∃ registry', register registry i columns = .ok registry') ↔
      (∀ c ∈ columns, StandsAlone c.name) ∧ (l.keys ++ columns.map Column.name).Nodup := by
  induction columns generalizing registry l i with
  | nil =>
    refine iff_of_true ⟨registry, rfl⟩ ⟨List.forall_mem_nil _, ?_⟩
    rw [List.map_nil, List.append_nil]
    exact h.keys_nodup
  | cons column columns ih =>
    rw [List.forall_mem_cons, List.map_cons]
    obtain ⟨hrefused, fault, hfault⟩ | ⟨hname, -, registry', hholds, hgo⟩ :=
      register_cons_cases h i column columns
    · refine iff_of_false (by simp [hfault]) ?_
      rintro ⟨⟨hname, -⟩, hnodup⟩
      exact List.disjoint_of_nodup_append hnodup (hrefused hname) List.mem_cons_self
    · rw [hgo, ih hholds, Ledger.keys_append, List.append_assoc, List.singleton_append,
        and_iff_right hname]

end Register

/-! ## Columns and schemas -/

/-- **Columns that make a schema.** -/
theorem exists_ofColumnsWith_iff :
    (∃ s, ofColumnsWith hash columns = .ok s) ↔
      columns ≠ [] ∧ columns.length ≤ 2 ^ 63 ∧ (columns.map Column.name).Nodup ∧
        ∀ c ∈ columns, StandsAlone c.name := by
  have hmade : (∃ s, ofColumnsWith hash columns = .ok s) ↔ columns ≠ [] ∧
      ∃ empty : Table String ℕ, Table.create hash columns.length = .ok empty ∧
        ∃ registry, register empty 0 columns = .ok registry := by
    rw [ofColumnsWith]
    split_ifs with hnil
    · simp [hnil]
    · simp only [bind_eq_ok, mapError_eq_ok, ne_eq, hnil, not_false_eq_true, true_and]
      constructor
      · rintro ⟨s, empty, hcreate, registry, hregister, -⟩
        exact ⟨empty, hcreate, registry, hregister⟩
      · rintro ⟨empty, hcreate, registry, hregister⟩
        exact ⟨_, empty, hcreate, registry, hregister, rfl⟩
  rw [hmade]
  refine and_congr_right fun hne => ?_
  have hregister {empty : Table String ℕ} (hcreate : Table.create hash columns.length = .ok empty) :
      (∃ registry, register empty 0 columns = .ok registry) ↔
        (∀ c ∈ columns, StandsAlone c.name) ∧ (columns.map Column.name).Nodup :=
    exists_register_iff (Table.holds_create hcreate) 0
  constructor
  · rintro ⟨empty, hcreate, hregistered⟩
    obtain ⟨hnames, hnodup⟩ := (hregister hcreate).1 hregistered
    exact ⟨(Table.exists_create_iff.1 ⟨empty, hcreate⟩).2, hnodup, hnames⟩
  · rintro ⟨hlength, hnodup, hnames⟩
    obtain ⟨empty, hcreate⟩ :=
      Table.exists_create_iff.2 ⟨List.length_eq_zero_iff.not.2 hne, hlength⟩
    exact ⟨empty, hcreate, (hregister hcreate).2 ⟨hnames, hnodup⟩⟩

/-- The columns stay as they are. -/
theorem columns_ofColumnsWith (h : ofColumnsWith hash columns = .ok s) : s.columns = columns := by
  rw [ofColumnsWith] at h
  split_ifs at h
  obtain ⟨empty, -, h⟩ := bind_eq_ok.1 h
  obtain ⟨registry, -, h⟩ := bind_eq_ok.1 h
  cases h
  rfl

/-- **The columns go by their names.** -/
structure GoesByNames (s : Schema) : Prop where
  /-- A name has the place of the column of that name. -/
  place : ∀ name i, s.place? name = some i ↔ s.names[i]? = some name
  /-- A text that is no name of a column has no place. -/
  no_place : ∀ name, s.place? name = none ↔ name ∉ s.names
  /-- The first name is that of the key, and no other one is. -/
  key : ∀ name, (s.place? name).any isKeyPlace = true ↔ s.names.head? = some name
  /-- Every column can be asked for in a query, whatever is asked of it. -/
  asked : ∀ i name, s.names[i]? = some name → ∀ (op : Operator) (literal : String),
    literal ≠ "" → quoteChar ∉ literal.toList →
    compile s (name ++ " " ++ op.symbol ++ " " ++ quotedLiteral literal) = .ok ⟨[⟨i, op, literal⟩]⟩

theorem Registered.goesByNames (h : s.Registered) : s.GoesByNames where
  place _ _ := h.place?_eq_some
  no_place _ := h.place?_eq_none
  key name := by
    rw [Option.any_eq_true, List.head?_eq_getElem?, ← h.place?_eq_some]
    constructor
    · rintro ⟨i, hplace, hkey⟩
      rwa [← beq_iff_eq.1 hkey]
    · exact fun hplace => ⟨0, hplace, rfl⟩
  asked i name hname op literal hne hquote := by
    have hlt : i < s.names.length := (List.getElem?_eq_some_iff.1 hname).1
    have hwritable : Condition.IsWritable s ⟨i, op, literal⟩ :=
      ⟨by rwa [names, List.length_map] at hlt, hne, hquote⟩
    obtain ⟨text, htext, hcompile⟩ := compile_text? (q := ⟨[⟨i, op, literal⟩]⟩) h
      (List.cons_ne_nil _ _) (List.forall_mem_singleton.2 hwritable)
    have hwritten : text? s ⟨[⟨i, op, literal⟩]⟩ =
        some (name ++ " " ++ op.symbol ++ " " ++ quotedLiteral literal) := by
      rw [text?, List.mapM_cons, List.mapM_nil, Condition.text?, hname]
      rfl
    rw [hwritten] at htext
    rwa [Option.some.inj htext]

/-- **Columns make a schema exactly if the query language can name them**:
there are any, no two share a name, and the scanner reads each name as the
name of a field. (There is a limit to their number, as the registry has at
most `2 ^ 63` buckets, but no memory holds so many columns.) The schema has
just these columns, and they go by their names. -/
theorem ofColumnsWith_exact (hash : String → UInt64) (columns : List Column) :
    ((∃ s, ofColumnsWith hash columns = .ok s) ↔
      columns ≠ [] ∧ columns.length ≤ 2 ^ 63 ∧ (columns.map Column.name).Nodup ∧
        ∀ c ∈ columns, StandsAlone c.name) ∧
    ∀ s, ofColumnsWith hash columns = .ok s → s.columns = columns ∧ s.GoesByNames :=
  ⟨exists_ofColumnsWith_iff, fun _ h =>
    ⟨columns_ofColumnsWith h, (registered_ofColumnsWith h).goesByNames⟩⟩

/-- Words that are nearly keywords, and letters and digits beyond ASCII. -/
theorem ofColumnsWith_exact_of_near_keywords :
    ∃ s, ofColumnsWith Hashing.constant
        [⟨"like", .text⟩, ⟨"_AND", .integer⟩, ⟨"ž٣", .text⟩] = .ok s ∧
      s.place? "ž٣" = some 2 ∧ s.place? "LIKE" = none ∧
      compile s "_AND != \"0\"" = .ok ⟨[⟨1, .notEqual, "0"⟩]⟩ := by
  have hexact := ofColumnsWith_exact Hashing.constant
    [⟨"like", .text⟩, ⟨"_AND", .integer⟩, ⟨"ž٣", .text⟩]
  obtain ⟨s, hs⟩ := hexact.1.2 ⟨by decide, by decide, by decide, by decide +kernel⟩
  obtain ⟨hcolumns, hnames⟩ := hexact.2 s hs
  have hlist : s.names = ["like", "_AND", "ž٣"] := by rw [names, hcolumns]; rfl
  refine ⟨s, hs, (hnames.place _ _).2 ?_, (hnames.no_place _).2 ?_, ?_⟩
  · rw [hlist]; rfl
  · rw [hlist]; decide
  · exact hnames.asked 1 "_AND" (by rw [hlist]; rfl) .notEqual "0" (by decide) (by decide)

end Schema

end Cardfile
