import Cardfile.Schema.Basic
import Cardfile.Proofs.Outcome
import Cardfile.Proofs.Table.Calls
/-!
# Schemas — the names of the columns

The registry of a schema that was made holds the name of each column with
its place (`registered_ofColumnsWith`), and a look-up finds the place of
the column that has the name (`place?_eq_some`). Every name is a word of
the query language and no keyword.
-/

namespace Cardfile

namespace Schema

variable {s : Schema}

/-- A name is accepted if it is a word and no keyword. -/
theorem checkName_eq_ok {name : String} :
    checkName name = .ok () ↔ isWord name.toList = true ∧ isKeyword name.toList = false := by
  rw [checkName]
  cases isWord name.toList <;> cases isKeyword name.toList <;> simp

/-- **The registry holds each name with its place**, and each name can be
written in a query. -/
structure Registered (s : Schema) : Prop where
  holds : s.registry.Holds ⟨s.names.zipIdx⟩
  isWord : ∀ name ∈ s.names, isWord name.toList = true
  not_isKeyword : ∀ name ∈ s.names, isKeyword name.toList = false

/-- Names that were registered come last, with their places, and each of
them was accepted. -/
theorem holds_of_register {registry registry' : Table String ℕ} {i : ℕ} {columns : List Column}
    {l : Ledger String ℕ} (h : registry.Holds l)
    (hregister : register registry i columns = .ok registry') :
    registry'.Holds ⟨l.entries ++ (columns.map Column.name).zipIdx i⟩ ∧
      ∀ c ∈ columns, checkName c.name = .ok () := by
  induction columns generalizing registry i l with
  | nil =>
    cases hregister
    rw [List.map_nil, List.zipIdx_nil, List.append_nil]
    exact ⟨h, List.forall_mem_nil _⟩
  | cons column columns ih =>
    rw [register] at hregister
    obtain ⟨⟨⟩, hname, hregister⟩ := bind_eq_ok.1 hregister
    split at hregister
    · cases hregister
    · cases hregister
    · next next hput =>
      obtain ⟨hholds, hnames⟩ := ih (h.of_put_none hput) hregister
      rw [Ledger.append, List.append_assoc] at hholds
      exact ⟨hholds, List.forall_mem_cons.2 ⟨hname, hnames⟩⟩

/-- **A schema that is made has its names registered.** -/
theorem registered_ofColumnsWith {hash : String → UInt64} {columns : List Column}
    (h : ofColumnsWith hash columns = .ok s) : s.Registered := by
  rw [ofColumnsWith] at h
  split_ifs at h
  obtain ⟨empty, hcreate, h⟩ := bind_eq_ok.1 h
  obtain ⟨registry, hregister, h⟩ := bind_eq_ok.1 h
  cases h
  have hempty := Table.holds_create (mapError_eq_ok.1 hcreate)
  obtain ⟨hholds, hnames⟩ := holds_of_register hempty hregister
  refine ⟨hholds, fun name hmem => ?_, fun name hmem => ?_⟩ <;>
    obtain ⟨c, hc, rfl⟩ := List.mem_map.1 hmem
  · exact (checkName_eq_ok.1 (hnames c hc)).1
  · exact (checkName_eq_ok.1 (hnames c hc)).2

/-- **A column is found under its name.** -/
theorem Registered.place?_eq_some (h : s.Registered) {name : String} {i : ℕ} :
    s.place? name = some i ↔ s.names[i]? = some name :=
  h.holds.get?_zipIdx

/-- **A name that has no place** is no column. -/
theorem Registered.place?_eq_none (h : s.Registered) {name : String} :
    s.place? name = none ↔ name ∉ s.names := by
  rw [List.mem_iff_getElem?, Option.eq_none_iff_forall_ne_some, not_exists]
  exact forall_congr' fun i => not_congr h.place?_eq_some

end Schema

end Cardfile
