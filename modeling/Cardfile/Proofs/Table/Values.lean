import Cardfile.Proofs.Table.Changes
/-!
# Table — values

Values play no part in the structure of a table. A table whose values are
others, each told from its key and the value of before (`revalued`), has
the same chains, and a walk meets the same keys. So a cursor cannot tell
the two apart but by the values that it returns (`next_revalued`,
`remove_revalued`), and it stays so: what is left when an entry is removed
differs in its values only (`unlink_revalued`).

Entries that are put to keys which all have values come to such a change
(`Sound.putEntries_eq_revalued`).
-/

namespace Cardfile

variable {K V : Type}

/-- The entry with another value. -/
def withValue (f : K → V → V) (e : K × V) : K × V := (e.1, f e.1 e.2)

namespace Node

/-- The node with another value. -/
def revalued (f : K → V → V) (node : Node K V) : Node K V :=
  { node with value := f node.key node.value }

end Node

namespace Table

variable {t : Table K V} {f g : K → V → V}

/-- **The table with other values.** Each is told from its key and from
the value of before. -/
def revalued (t : Table K V) (f : K → V → V) : Table K V :=
  { t with nodes := t.nodes.map (Node.revalued f) }

/-! ## The structure -/

theorem size_nodes_revalued : (t.revalued f).nodes.size = t.nodes.size := Array.size_map

theorem getElem?_revalued (i : ℕ) :
    (t.revalued f).nodes[i]? = t.nodes[i]?.map (Node.revalued f) := Array.getElem?_map

theorem entryAt?_revalued (i : ℕ) :
    (t.revalued f).entryAt? i = (t.entryAt? i).map (withValue f) := by
  rw [entryAt?, getElem?_revalued, entryAt?, Option.map_map, Option.map_map]
  rfl

/-- Following links reads no value. -/
theorem follow_map_revalued (nodes : Array (Node K V)) (fuel : ℕ) (start : Option ℕ) :
    follow (nodes.map (Node.revalued f)) fuel start = follow nodes fuel start := by
  induction fuel generalizing start with
  | zero => rfl
  | succ fuel ih =>
    cases start with
    | none => rfl
    | some i =>
      rw [follow, follow, Array.getElem?_map]
      cases nodes[i]? with
      | none => rfl
      | some node => exact congrArg (i :: ·) (ih node.next)

/-- **The chains are the same.** -/
theorem chain_revalued (b : ℕ) : (t.revalued f).chain b = t.chain b := by
  rw [chain, size_nodes_revalued]
  exact follow_map_revalued t.nodes _ _

/-- **A walk meets the same keys**, with their other values. -/
theorem entries_revalued : (t.revalued f).entries = t.entries.map (withValue f) := by
  have hindices : (t.revalued f).indices = t.indices :=
    List.flatMap_congr fun b _ => chain_revalued b
  rw [entries, hindices, entries, List.map_filterMap]
  exact List.filterMap_congr fun i _ => entryAt?_revalued i

theorem revalued_revalued : (t.revalued f).revalued g = t.revalued fun k v => g k (f k v) := by
  simp only [revalued, Array.map_map]
  rfl

/-- Values that are told to be those of before are no others. -/
theorem revalued_eq_self (h : ∀ {i : ℕ} {e : K × V}, t.entryAt? i = some e → f e.1 e.2 = e.2) :
    t.revalued f = t := by
  have hnodes : t.nodes.map (Node.revalued f) = t.nodes := by
    refine Array.ext_getElem? fun i => ?_
    rw [Array.getElem?_map]
    cases hnode : t.nodes[i]? with
    | none => rfl
    | some node =>
      have hvalue := h (entryAt?_eq_some hnode)
      simp only [Option.map_some, Node.revalued, hvalue]
  rw [revalued, hnodes]

/-! ## Removing an entry -/

/-- A node's link is changed whatever its value is. -/
theorem map_revalued_modify (nodes : Array (Node K V)) (i : ℕ) (next : Option ℕ) :
    (nodes.map (Node.revalued f)).modify i (fun node : Node K V => { node with next }) =
      (nodes.modify i fun node : Node K V => { node with next }).map (Node.revalued f) := by
  refine Array.ext_getElem? fun j => ?_
  simp only [Array.getElem?_modify, Array.getElem?_map]
  split_ifs
  · rw [Option.map_map, Option.map_map]
    rfl
  · rfl

/-- **Changing a link reads no value.** -/
theorem relink_revalued (b target : ℕ) (next : Option ℕ) :
    (t.revalued f).relink b target next = (t.relink b target next).revalued f := by
  have hhead : (t.revalued f).head b = t.head b := rfl
  have hlinked : (fun i : ℕ => (t.revalued f).nodes[i]?.any fun node => node.next == some target) =
      fun i => t.nodes[i]?.any fun node => node.next == some target := by
    funext i
    rw [getElem?_revalued]
    cases t.nodes[i]? <;> rfl
  rw [relink, relink, hhead, chain_revalued, hlinked]
  split_ifs
  · rfl
  · cases (t.chain b).find? fun i => t.nodes[i]?.any fun node => node.next == some target with
    | none => rfl
    | some i =>
      dsimp only [revalued]
      rw [map_revalued_modify]

theorem compacted_revalued (i : ℕ) : (t.revalued f).compacted i = (t.compacted i).revalued f := by
  have hswap : (t.nodes.map (Node.revalued f)).swapIfInBounds i (t.nodes.size - 1) =
      (t.nodes.swapIfInBounds i (t.nodes.size - 1)).map (Node.revalued f) := by
    rw [Array.swapIfInBounds, Array.swapIfInBounds]
    simp only [Array.size_map]
    split_ifs
    · refine Array.ext_getElem? fun j => ?_
      simp only [Array.getElem?_swap, Array.getElem?_map, Array.getElem_map]
      split_ifs <;> rfl
    · rfl
    · rfl
  rw [compacted, compacted, size_nodes_revalued]
  dsimp only [revalued]
  rw [hswap, Array.map_pop]

/-- **Taking a node out reads no value.** -/
theorem unlink_revalued {i : ℕ} (hi : i < t.nodes.size) :
    (t.revalued f).unlink i = (t.unlink i).revalued f := by
  obtain ⟨last, hlast⟩ : ∃ last, last = t.nodes.size - 1 := ⟨_, rfl⟩
  have hnode := Array.getElem?_eq_getElem hi
  have hfinal := Array.getElem?_eq_getElem (show last < t.nodes.size by omega)
  have hnode' := getElem?_revalued (t := t) (f := f) i
  have hfinal' := getElem?_revalued (t := t) (f := f) last
  rw [hnode, Option.map_some] at hnode'
  rw [hfinal, Option.map_some] at hfinal'
  rw [unlink_eq hlast hnode hfinal,
    unlink_eq (hlast.trans (congrArg (· - 1) size_nodes_revalued.symm)) hnode' hfinal']
  have hslot : (t.revalued f).slot = t.slot := rfl
  split_ifs
  · rw [hslot, Node.revalued, relink_revalued, compacted_revalued]
    rfl
  · rw [hslot, Node.revalued, Node.revalued, relink_revalued, relink_revalued, compacted_revalued]
    rfl

end Table

/-! ## Cursors -/

namespace Cursor

variable {t : Table K V} {f : K → V → V}

/-- **A cursor looks ahead as before.** -/
theorem hasNext_revalued (c : Cursor) : c.hasNext (t.revalued f) = c.hasNext t := rfl

/-- **It goes on as before**, and returns the same key. -/
theorem next_revalued (c : Cursor) :
    c.next (t.revalued f) = ((c.next t).1.map (Option.map (withValue f)), (c.next t).2) := by
  have hagrees : c.agrees (t.revalued f) = c.agrees t := rfl
  have hafter : (t.revalued f).nodeAfter c.position = t.nodeAfter c.position := rfl
  have hcapacity : (t.revalued f).capacity = t.capacity := rfl
  rw [next, next, hagrees, hafter, hcapacity]
  split_ifs
  · rfl
  · cases t.nodeAfter c.position with
    | none => rfl
    | some found =>
      obtain ⟨bucket, i⟩ := found
      simp only [Table.getElem?_revalued]
      cases t.nodes[i]? <;> rfl
  · rfl

/-- **It removes the same entry**, and the table that is left differs in
its values only. -/
theorem remove_revalued (c : Cursor) :
    c.remove (t.revalued f) =
      ((c.remove t).1.map (withValue f), (c.remove t).2.1, (c.remove t).2.2.revalued f) := by
  have hagrees : c.agrees (t.revalued f) = c.agrees t := rfl
  rw [remove, remove, hagrees]
  split_ifs
  · cases c.last with
    | none => rfl
    | some i =>
      simp only [Table.entryAt?_revalued]
      cases he : t.entryAt? i with
      | none => rfl
      | some e =>
        have hunlink : (t.revalued f).unlink i = (t.unlink i).revalued f :=
          Table.unlink_revalued (Table.exists_entryAt?.1 ⟨e, he⟩)
        have hmoved : (t.revalued f).movedInto i = t.movedInto i := by
          rw [Table.movedInto, Table.movedInto, Table.size_nodes_revalued]
        simp only [Option.map_some, afterRemoval, hunlink, hmoved]
        rfl
  · rfl

end Cursor

namespace Table

variable {t : Table K V}

/-! ## Entries put to keys that have values -/

section Put

variable [DecidableEq K] [TableKey K]

omit [TableKey K] in
/-- Looking a key up reads no value. -/
theorem contains_revalued {f : K → V → V} (k : K) :
    (t.revalued f).contains k = t.contains k := by
  have hslot : (t.revalued f).slot k = t.slot k := rfl
  have hkey : (fun i : ℕ => (t.revalued f).nodes[i]?.any fun node => decide (node.key = k)) =
      fun i => t.nodes[i]?.any fun node => decide (node.key = k) := by
    funext i
    rw [getElem?_revalued]
    cases t.nodes[i]? <;> rfl
  rw [contains, find?, hslot, chain_revalued, hkey]
  rfl

/-- The value of the key in the list, if it has one there. -/
def valueIn (es : List (K × V)) (k : K) (v : V) : V := ((⟨es⟩ : Ledger K V).get? k).getD v

/-- **A value that is put to a key that has one.** No other node has the
key, so the values of the others stay. -/
theorem Sound.put_eq_revalued (h : t.Sound) {k : K} (hk : t.contains k = true) (v : V) :
    (∃ old, t.put k v = .ok (old, t.revalued (valueIn [(k, v)]))) ∧
      (t.revalued (valueIn [(k, v)])).Sound := by
  obtain ⟨i, hfind⟩ := Option.isSome_iff_exists.1 hk
  obtain ⟨w, hw⟩ := h.find?_eq_some.1 hfind
  have hblank : ¬ TableKey.isBlank k = true := by simp [h.unblank hw]
  have hnodes : (t.replaced i v).nodes = (t.revalued (valueIn [(k, v)])).nodes := by
    refine Array.ext_getElem? fun j => ?_
    rw [getElem?_revalued, Table.replaced, Array.getElem?_modify]
    cases hj : t.nodes[j]? with
    | none => simp
    | some node =>
      have hplace : i = j ↔ node.key = k := by
        constructor
        · rintro rfl
          rw [entryAt?_eq_some hj] at hw
          cases hw
          rfl
        · exact fun hkey => (h.distinct (entryAt?_eq_some hj) hw hkey).symm
      by_cases hkey : node.key = k
      · rw [if_pos (hplace.2 hkey)]
        simp [Node.revalued, valueIn, Ledger.get?, hkey]
      · have hne : k ≠ node.key := Ne.symm hkey
        rw [if_neg (hplace.not.2 hkey)]
        simp [Node.revalued, valueIn, Ledger.get?, hne]
  have hreplaced : t.replaced i v = t.revalued (valueIn [(k, v)]) :=
    congrArg (fun nodes => { t with nodes }) hnodes
  rw [← hreplaced]
  refine ⟨⟨t.get? k, ?_⟩, h.replaced i v⟩
  rw [put, if_neg hblank, hfind]
  rfl

omit [TableKey K] in
/-- A list without the key leaves the value as it is. -/
theorem valueIn_of_not_mem {es : List (K × V)} {k : K} (hk : k ∉ es.map Prod.fst) (v : V) :
    valueIn es k v = v := by
  rw [valueIn, Ledger.get?_eq_none.2 hk, Option.getD_none]

omit [TableKey K] in
/-- One entry changes the value of its key. -/
theorem withValue_singleton (e e' : K × V) :
    withValue (valueIn [e]) e' = if e'.1 = e.1 then e else e' := by
  by_cases he : e'.1 = e.1
  · simp [withValue, valueIn, Ledger.get?, he]
  · simp [withValue, valueIn, Ledger.get?, he, Ne.symm he]

omit [TableKey K] in
/-- The first entry of a list has its key to itself. -/
theorem valueIn_cons {e : K × V} {es : List (K × V)} (he : e.1 ∉ es.map Prod.fst) (k : K)
    (v : V) : valueIn es k (valueIn [e] k v) = valueIn (e :: es) k v := by
  by_cases hk : e.1 = k
  · rw [valueIn_of_not_mem (hk ▸ he)]
    simp [valueIn, Ledger.get?, hk]
  · simp [valueIn, Ledger.get?, hk]

/-- **Entries put to keys that all have values** change these values and
nothing else. -/
theorem Sound.putEntries_eq_revalued (h : t.Sound) {es : List (K × V)}
    (hnd : (es.map Prod.fst).Nodup) (hes : ∀ e ∈ es, t.contains e.1 = true) :
    t.putEntries es = .ok (t.revalued (valueIn es)) := by
  induction es generalizing t with
  | nil =>
    have hsame : t.revalued (valueIn []) = t := revalued_eq_self fun _ => rfl
    rw [hsame]
    rfl
  | cons e es ih =>
    rw [List.map_cons, List.nodup_cons] at hnd
    obtain ⟨hhead, htail⟩ := List.forall_mem_cons.1 hes
    obtain ⟨⟨old, hput⟩, hsound⟩ := h.put_eq_revalued hhead e.2
    have hrest := ih hsound hnd.2 fun e' he' => (contains_revalued e'.1).trans (htail e' he')
    have hvalues : (fun k v => valueIn es k (valueIn [e] k v)) = valueIn (e :: es) :=
      funext fun k => funext fun v => valueIn_cons hnd.1 k v
    rw [putEntries, hput]
    exact hrest.trans (by rw [revalued_revalued, hvalues])

end Put

end Table

end Cardfile
