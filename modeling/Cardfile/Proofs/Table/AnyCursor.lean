import Cardfile.Table.Hashing
import Cardfile.Proofs.Table.FiniteMap
import Cardfile.Proofs.Table.FailFast
import Mathlib
/-!
# Table — cursors of other tables

A cursor holds numbers only, and nothing says that they fit the table it
is driven with. `Harmless` says what such a cursor can do: its operations
end and keep to the places that the table has, and a removal that is not
refused takes out one entry, the one it answers, and leaves a table like
any other. It holds of every cursor (`harmless_of_reachable`), hence of
one that was made for another table and moved on with a third.

The places are checked by partial operations, which do not answer at all
if they read or write a place that is not there, or if a search along
links or buckets does not end. The table's own operations answer in any
case; on a sound table the two agree (`Chained.relink?_eq`, `Sound.unlink?_eq`,
`next?_eq`, `Sound.remove?_eq`).
-/

namespace Cardfile

namespace Table

variable {K V : Type} {t : Table K V}

/-! ## Checked operations -/

/-- The first node, from a link on, with the property. No answer is given
if a link leads out of the arena or the links go on for ever. -/
def along (nodes : Array (Node K V)) (p : Node K V → Prop) [DecidablePred p] :
    Option ℕ →. Option ℕ :=
  PFun.fix fun link =>
    match link with
    | none => Part.some (.inl none)
    | some i => (Part.ofOption nodes[i]?).map fun node =>
      if p node then .inl (some i) else .inr node.next

/-- The first node, from a link on, whose own link leads to `target`. -/
def seek (nodes : Array (Node K V)) (target : ℕ) : Option ℕ →. Option ℕ :=
  along nodes fun node => node.next = some target

/-- The bucket at which looking for a chain from bucket `b` on comes to an
end, with the first node of the chain if there is one. No answer is given
if it goes on for ever. -/
def look (buckets : Array (Option ℕ)) : ℕ →. ℕ × Option ℕ :=
  PFun.fix fun b =>
    Part.some <| match buckets[b]? with
      | none => .inl (b, none)
      | some none => .inr (b + 1)
      | some (some i) => .inl (b + 1, some i)

/-- The node that follows a place, if there is one, with the bucket to look
into after it. -/
def nodeAfter? (t : Table K V) (p : Position) : Part (ℕ × Option ℕ) :=
  match p.successor with
  | some i => Part.some (p.bucket, some i)
  | none => look t.buckets p.bucket

/-- The bucket that a key belongs to, if there are any buckets. -/
def slot? (t : Table K V) (k : K) : Part ℕ :=
  if t.capacity = 0 then Part.none else Part.some (t.slot k)

/-- `relink` with its accesses checked. -/
def relink? (t : Table K V) (slot target : ℕ) (next : Option ℕ) : Part (Table K V) := do
  let head ← Part.ofOption t.buckets[slot]?
  if head = some target then
    return { t with buckets := t.buckets.setIfInBounds slot next }
  match ← seek t.nodes target head with
  | none => return t
  | some i => return { t with nodes := t.nodes.modify i fun node => { node with next } }

/-- `unlink` with its accesses checked. -/
def unlink? (t : Table K V) (i : ℕ) : Part (Table K V) := do
  let last := t.nodes.size - 1
  let node ← Part.ofOption t.nodes[i]?
  let bypassed ← t.relink? (← t.slot? node.key) i node.next
  let moved ←
    if i = last then Part.some bypassed
    else do
      let final ← Part.ofOption bypassed.nodes[last]?
      bypassed.relink? (← bypassed.slot? final.key) last (some i)
  let _ ← Part.ofOption moved.nodes[i]?
  return { moved with nodes := (moved.nodes.swapIfInBounds i last).pop }.touched

end Table

namespace Cursor

variable {K V : Type}

/-- `next` with its search checked. What it reads of the arena it asks for. -/
def next? (c : Cursor) (t : Table K V) :
    Part (Except CursorFault (Option (K × V)) × Cursor) :=
  if c.agrees t then
    if c.position.remaining = 0 then Part.some (.ok none, c)
    else do
      let (bucket, found) ← t.nodeAfter? c.position
      match found with
      | none => Part.some (.error .pastLastBucket, c.atBucket bucket)
      | some i =>
        match t.nodes[i]? with
        | none => Part.some (.error .foreignTable, c.atBucket bucket)
        | some node =>
          Part.some (.ok (some (node.key, node.value)),
            { c with
              position :=
                { bucket, successor := node.next, remaining := c.position.remaining - 1 }
              last := some i })
  else Part.some (.error .modified, c)

/-- `remove` with its accesses checked. -/
def remove? (c : Cursor) (t : Table K V) :
    Part (Except CursorFault (K × V) × Cursor × Table K V) :=
  if c.agrees t then
    match c.last with
    | none => Part.some (.error .nothingReturned, c, t)
    | some i =>
      if t.nodes.size ≤ i then Part.some (.error .foreignTable, { c with last := none }, t)
      else do
        let e ← Part.ofOption (t.entryAt? i)
        let left ← t.unlink? i
        return (.ok e, { c.afterRemoval t i with expected := left.generation }, left)
  else Part.some (.error .modified, c, t)

end Cursor

namespace Table

variable {K V : Type} {t : Table K V}

/-! ## Searches end -/

section Searches

variable {nodes : Array (Node K V)} {p : Node K V → Prop} [DecidablePred p]
  {buckets : Array (Option ℕ)} {i b : ℕ}

theorem along_none : along nodes p none = Part.some none :=
  Part.eq_some_iff.2 (PFun.fix_stop (Part.mem_some _))

/-- A search looks at a node and goes on from its link. -/
theorem along_some {node : Node K V} (hnode : nodes[i]? = some node) :
    along nodes p (some i) = if p node then Part.some (some i) else along nodes p node.next := by
  have hstep {r : Option ℕ ⊕ Option ℕ}
      (hr : (if p node then .inl (some i) else .inr node.next) = r) :
      r ∈ (Part.ofOption nodes[i]?).map fun node : Node K V =>
        if p node then .inl (some i) else .inr node.next := by
    rw [hnode, Part.coe_some, Part.map_some, hr]
    exact Part.mem_some r
  split_ifs with hp
  · exact Part.eq_some_iff.2 (PFun.fix_stop (hstep (if_pos hp)))
  · exact PFun.fix_fwd_eq (hstep (if_neg hp))

/-- A search through the buckets ends behind the last one or at a chain. -/
theorem look_of_none (h : buckets[b]? = none) : look buckets b = Part.some (b, none) := by
  refine Part.eq_some_iff.2 (PFun.fix_stop ?_)
  rw [h]
  exact Part.mem_some _

theorem look_of_chain (h : buckets[b]? = some (some i)) :
    look buckets b = Part.some (b + 1, some i) := by
  refine Part.eq_some_iff.2 (PFun.fix_stop ?_)
  rw [h]
  exact Part.mem_some _

/-- It goes on after a bucket without one. -/
theorem look_of_empty (h : buckets[b]? = some none) : look buckets b = look buckets (b + 1) := by
  refine PFun.fix_fwd_eq ?_
  rw [h]
  exact Part.mem_some _

/-- **Following links ends where links lead.** -/
theorem Leads.along_eq {start : Option ℕ} {is : List ℕ} (h : Leads nodes start is)
    (p : Node K V → Prop) [DecidablePred p] :
    along nodes p start =
      Part.some (is.find? fun i => nodes[i]?.any fun node => decide (p node)) := by
  induction h with
  | stop => exact along_none
  | @step i node is hnode _ ih =>
    rw [along_some hnode, List.find?_cons, hnode, Option.any_some, ih]
    by_cases hp : p node
    · rw [if_pos hp, decide_eq_true hp]
    · rw [if_neg hp, decide_eq_false hp]

theorem Leads.seek_eq {start : Option ℕ} {is : List ℕ} (h : Leads nodes start is) (target : ℕ) :
    seek nodes target start =
      Part.some (is.find? fun i => nodes[i]?.any fun node => node.next == some target) := by
  simp only [beq_eq_decide]
  exact h.along_eq fun node => node.next = some target

end Searches

theorem getElem?_buckets {b : ℕ} (hb : b < t.capacity) : t.buckets[b]? = some (t.head b) := by
  have hget : t.buckets[b]? = some t.buckets[b] := Array.getElem?_eq_getElem hb
  rw [head, hget]
  rfl

/-- **Looking into buckets ends** after the last one at the latest. -/
theorem look_eq (t : Table K V) (b : ℕ) :
    look t.buckets b =
      Part.some (match t.nextChain b with
        | some (c, i) => (c, some i)
        | none => (max b t.capacity, none)) := by
  obtain ⟨n, hn⟩ : ∃ n, t.capacity - b = n := ⟨_, rfl⟩
  induction n generalizing b with
  | zero =>
    have hge : t.buckets.size ≤ b := Nat.sub_eq_zero_iff_le.1 hn
    have hdrop : t.buckets.toList.drop b = [] := List.drop_eq_nil_of_le (by simpa using hge)
    have hmax : max b t.capacity = b := max_eq_left hge
    rw [look_of_none (Array.getElem?_eq_none hge), nextChain, hdrop, hmax]
    rfl
  | succ n ih =>
    have hb : b < t.capacity := by omega
    have hget := getElem?_buckets hb
    rw [nextChain_of_lt hb]
    cases hhead : t.head b with
    | none =>
      rw [hhead] at hget
      have hmax : max (b + 1) t.capacity = max b t.capacity := by omega
      have hrest := ih (b + 1) (by omega)
      rw [hmax] at hrest
      exact (look_of_empty hget).trans hrest
    | some i =>
      rw [hhead] at hget
      exact look_of_chain hget

theorem nodeAfter?_eq (t : Table K V) (p : Position) :
    t.nodeAfter? p =
      Part.some (match t.nodeAfter p with
        | some (c, i) => (c, some i)
        | none => (max p.bucket t.capacity, none)) := by
  rw [nodeAfter?, nodeAfter]
  cases p.successor with
  | some i => rfl
  | none => exact look_eq t p.bucket

/-! ## Accesses are in range -/

/-- **Changing a link** looks only at places that are there. -/
theorem Chained.relink?_eq {cs : ℕ → List ℕ} (h : t.Chained cs) {b : ℕ} (hb : b < t.capacity)
    (target : ℕ) (next : Option ℕ) :
    t.relink? b target next = Part.some (t.relink b target next) := by
  have hseek := (h.leads b).seek_eq target
  rw [relink?, relink, getElem?_buckets hb, h.chain_eq, Part.coe_some, Part.bind_eq_bind,
    Part.bind_some]
  split_ifs
  · rfl
  · rw [hseek, Part.bind_eq_bind, Part.bind_some]
    cases (cs b).find? fun i => t.nodes[i]?.any fun node => node.next == some target <;> rfl

variable [TableKey K]

theorem Sound.slot?_eq (h : t.Sound) (k : K) : t.slot? k = Part.some (t.slot k) := by
  have hpos := h.capacity_pos
  rw [slot?, if_neg (by omega)]

/-- **Taking a node out** looks only at places that are there. -/
theorem Sound.unlink?_eq (h : t.Sound) {i : ℕ} (hi : i < t.nodes.size) :
    t.unlink? i = Part.some (t.unlink i) := by
  have hnode := Array.getElem?_eq_getElem hi
  obtain ⟨last, hlast⟩ : ∃ last, last = t.nodes.size - 1 := ⟨_, rfl⟩
  have hlt : last < t.nodes.size := by omega
  have hfinal := Array.getElem?_eq_getElem hlt
  obtain ⟨bypassed, hbypassed⟩ :
      ∃ bypassed, bypassed = t.relink (t.slot t.nodes[i].key) i t.nodes[i].next := ⟨_, rfl⟩
  have hone : t.relink? (t.slot t.nodes[i].key) i t.nodes[i].next = Part.some bypassed := by
    rw [hbypassed]
    exact h.chained.relink?_eq (h.slot_lt _) _ _
  -- the first move leaves the arena as large as it is and the keys where they are
  have hsize : bypassed.nodes.size = t.nodes.size := by rw [hbypassed, size_nodes_relink]
  have hchained : bypassed.Chained fun b => (t.chain b).filter (· ≠ i) := by
    rw [hbypassed]
    exact h.chained_bypass hnode
  have hslot : ∀ k, bypassed.slot? k = Part.some (t.slot k) := by
    intro k
    have hpos := h.capacity_pos
    rw [slot?, hbypassed, capacity_relink, slot_relink, if_neg (by omega)]
  have hkey : bypassed.nodes[last]?.map Node.key = some t.nodes[last].key := by
    have hentry := congrArg (Option.map Prod.fst)
      (entryAt?_relink (t := t) (t.slot t.nodes[i].key) i t.nodes[i].next last)
    rw [← hbypassed, entryAt?, entryAt?, hfinal, Option.map_map] at hentry
    exact hentry
  obtain ⟨final, hlastnode, hfinalkey⟩ := Option.map_eq_some_iff.1 hkey
  have htwo : bypassed.relink? (t.slot t.nodes[last].key) last (some i) =
      Part.some (bypassed.relink (t.slot t.nodes[last].key) last (some i)) := by
    refine hchained.relink?_eq ?_ _ _
    rw [hbypassed, capacity_relink]
    exact h.slot_lt _
  rw [unlink?, unlink_eq hlast hnode hfinal, ← hbypassed, ← hlast, hnode]
  simp only [Part.bind_eq_bind, Part.coe_some, Part.bind_some, h.slot?_eq, hone]
  by_cases hil : i = last
  · have hthere : bypassed.nodes[i]? = some _ := Array.getElem?_eq_getElem (by rwa [hsize])
    simp only [if_pos hil, Part.coe_some, Part.bind_some, hthere, compacted, hsize, ← hlast]
    rfl
  · have hthere : (bypassed.relink (t.slot t.nodes[last].key) last (some i)).nodes[i]? = some _ :=
      Array.getElem?_eq_getElem (by rwa [size_nodes_relink, hsize])
    simp only [if_neg hil, hlastnode, Part.coe_some, Part.bind_some, hfinalkey, hslot, htwo,
      hthere, compacted, size_nodes_relink, hsize, ← hlast]
    rfl

omit [TableKey K] in
/-- **Moving on** ends, also on a table that is not sound. -/
theorem next?_eq (c : Cursor) (t : Table K V) : c.next? t = Part.some (c.next t) := by
  rw [Cursor.next?, Cursor.next]
  split_ifs
  · rfl
  · rw [nodeAfter?_eq, Part.bind_eq_bind, Part.bind_some]
    cases t.nodeAfter c.position with
    | none => rfl
    | some found =>
      dsimp only
      cases t.nodes[found.2]? <;> rfl
  · rfl

/-- **Removing** looks only at places that are there. -/
theorem Sound.remove?_eq (h : t.Sound) (c : Cursor) : c.remove? t = Part.some (c.remove t) := by
  rw [Cursor.remove?, Cursor.remove]
  split_ifs
  · cases c.last with
    | none => rfl
    | some i =>
      dsimp only
      split_ifs with hi
      · have hnone : t.entryAt? i = none := by
          rw [entryAt?, Array.getElem?_eq_none hi]
          rfl
        rw [hnone]
      · have hlt := Nat.not_le.1 hi
        obtain ⟨e, he⟩ := exists_entryAt?.2 hlt
        rw [he, h.unlink?_eq hlt, Part.coe_some, Part.bind_eq_bind, Part.bind_some,
          Part.bind_eq_bind, Part.bind_some]
        rfl
  · rfl

/-! ## What any cursor can do -/

/-- The use with every access checked and every search at its end: what is
noted of it, and the cursor and the table after it. -/
def Use.checked (u : Use) (c : Cursor) (t : Table K V) :
    Part (Event K V × Cursor × Table K V) :=
  match u with
  | .hasNext => Part.some (.hasNext (c.hasNext t), c, t)
  | .next => (c.next? t).map fun r => (.next r.1, r.2, t)
  | .remove => (c.remove? t).map fun r => (.remove r.1, r.2)

/-- Every use ends and keeps to the places that there are. -/
theorem Sound.checked_eq (h : t.Sound) (u : Use) (c : Cursor) :
    u.checked c t = Part.some (u.event c t, u.after c t) := by
  cases u with
  | hasNext => rfl
  | next =>
    rw [Use.checked, next?_eq, Part.map_some]
    rfl
  | remove =>
    rw [Use.checked, h.remove?_eq, Part.map_some]
    rfl

/-- **A cursor does no harm to the table**, whatever its numbers are. -/
structure Harmless [DecidableEq K] [DecidableEq V] (t : Table K V) (c : Cursor) : Prop where
  /-- Every use ends and keeps to the places that the table has. -/
  checked_eq : ∀ u : Use, u.checked c t = Part.some (u.event c t, u.after c t)
  /-- Nothing but a removal changes the table. -/
  table_eq : ∀ u : Use, u ≠ .remove → (u.after c t).2 = t
  /-- A removal that is refused does not change it either. -/
  refused : ∀ {fault : CursorFault}, (c.remove t).1 = .error fault → (c.remove t).2.2 = t ∧
    fault.report.kind ∈ [.concurrentModification, .illegalState, .internal]
  /-- A removal takes out the entry that it answers, and the others keep
  their values and their order. -/
  removed : ∀ {k : K} {v : V}, (c.remove t).1 = .ok (k, v) →
    t.get? k = some v ∧ (c.remove t).2.2.entries = t.entries.filter (fun e => e.1 ≠ k) ∧
      (c.remove t).2.2.size + 1 = t.size
  /-- From then on the table answers as the map of the other entries, and
  it is one that can come about. -/
  serves : ∀ {k : K} {v : V}, (c.remove t).1 = .ok (k, v) →
    (c.remove t).2.2.Reachable ∧
      ∃ m : FiniteMap K V, (∀ k', m.lookup k' = t.get? k') ∧
        ∀ {calls : List (Call K V)}, (∀ other, .putAll other ∈ calls → other.Reachable) →
          FiniteMap.Serves (m.erase k) ((c.remove t).2.2.history calls)

variable [DecidableEq K] [DecidableEq V]

/-- A table that can come about stands for a map. -/
theorem Reachable.exists_represents (h : t.Reachable) : ∃ m : FiniteMap K V, t.Represents m := by
  induction h with
  | create hcreate => exact ⟨∅, represents_create hcreate⟩
  | call _ hothers ih =>
    obtain ⟨m, hm⟩ := ih
    exact ⟨_, hm.call fun other ho => (hothers other ho).sound⟩

/-- **Any cursor is harmless** to any table that can come about. -/
theorem harmless_of_reachable (h : t.Reachable) (c : Cursor) : t.Harmless c where
  checked_eq u := h.sound.checked_eq u c
  table_eq u hu := by
    cases u with
    | hasNext | next => rfl
    | remove => exact absurd rfl hu
  refused := by
    intro fault hfault
    obtain ⟨cause, c', hremove, -⟩ | ⟨i, e, -, -, hremove⟩ := removal_cases c t
    · rw [hremove]
      exact ⟨rfl, by cases fault <;> decide⟩
    · rw [hremove] at hfault
      cases hfault
  removed := by
    intro k v hok
    obtain ⟨cause, c', hremove, -⟩ | ⟨i, e, -, he, hremove⟩ := removal_cases c t
    · rw [hremove] at hok
      cases hok
    · rw [hremove] at hok ⊢
      cases hok
      have hlt := exists_entryAt?.1 ⟨_, he⟩
      refine ⟨h.sound.get?_eq_some.2 ⟨i, he⟩, h.sound.entries_unlink he, ?_⟩
      have hsize : (t.unlink i).size = t.size - 1 := size_nodes_unlink hlt
      have hpos : 0 < t.size := Nat.zero_lt_of_lt hlt
      show (t.unlink i).size + 1 = t.size
      omega
  serves := by
    intro k v hok
    have hcall : t.call (.removeAt c) = (.entry k v, (c.remove t).2.2) := by
      simp only [Table.call, hok]
    obtain ⟨m, hm⟩ := h.exists_represents
    have hnext := hm.call (c := .removeAt c) fun _ hputAll => by cases hputAll
    rw [hcall] at hnext
    refine ⟨?_, m, hm.lookup_eq, fun hothers => ?_⟩
    · have hreachable := h.call (c := .removeAt c) fun _ hputAll => by cases hputAll
      rwa [hcall] at hreachable
    · exact hnext.serves fun other ho => (hothers other ho).sound

/-- Five entries in one chain. -/
def oneChain : Table ℤ ℕ :=
  (empty (fun _ => 0) 16).after [.put 1 10, .put 2 20, .put 3 30, .put 4 40, .put 5 50]

/-- A cursor that has returned two of them. -/
def strayCursor : Cursor := (((Cursor.ofTable oneChain).next oneChain).2.next oneChain).2

/-- Five entries in the buckets of their keys. -/
def fiveBuckets : Table ℤ ℕ :=
  (empty Hashing.ofInt 8).after [.put 7 70, .put 6 60, .put 1 10, .put 8 80, .put 9 90]

/-- One entry, after as many structural changes. -/
def oneLeft : Table ℤ ℕ :=
  (empty Hashing.ofInt 4).after [.put 1 10, .put 2 20, .put 3 30, .remove 2, .remove 3]

/-- Driven with two tables that it was not made for, a cursor removes an
entry of the one and is refused by the other. -/
theorem harmless_of_reachable_stray :
    fiveBuckets.Harmless strayCursor ∧ oneLeft.Harmless strayCursor ∧
      (strayCursor.remove fiveBuckets).1 = .ok (6, 60) ∧
      (strayCursor.remove fiveBuckets).2.2.entries = [(8, 80), (1, 10), (9, 90), (7, 70)] ∧
      (strayCursor.remove oneLeft).1 = .error .foreignTable := by
  have hfive : create Hashing.ofInt 8 = .ok (empty Hashing.ofInt 8 : Table ℤ ℕ) := rfl
  have hone : create Hashing.ofInt 4 = .ok (empty Hashing.ofInt 4 : Table ℤ ℕ) := rfl
  have hbuckets : fiveBuckets.Reachable :=
    (((((Reachable.create hfive).call (c := .put 7 70) nofun).call (c := .put 6 60) nofun).call
      (c := .put 1 10) nofun).call (c := .put 8 80) nofun).call (c := .put 9 90) nofun
  have hleft : oneLeft.Reachable :=
    (((((Reachable.create hone).call (c := .put 1 10) nofun).call (c := .put 2 20) nofun).call
      (c := .put 3 30) nofun).call (c := .remove 2) nofun).call (c := .remove 3) nofun
  exact ⟨harmless_of_reachable hbuckets strayCursor, harmless_of_reachable hleft strayCursor,
    by decide, by decide, by decide⟩

end Table

end Cardfile
