import Cardfile.Proofs.Table.AnyCursor
import Cardfile.Proofs.Table.Traversal
import Mathlib
/-!
# Table — every access in place

The operations of a table once more, now with every loop as long as its
links make it and with every place checked before it is read or written.
There is no answer if a loop does not end, if a place is not there, or if
a node that is entered again has been entered before.

On a sound table they answer what the table's own operations answer. The
loops go along links that lead somewhere (`Leads.along_eq`), and the last
node of a chain is the one without a link (`Leads.find?_end`). Growing takes
each node out of the old arena once, because no two chains share a node
(`Sound.drained_eq`), and enters it in a table that is sound all along
(`Enterable`). A step of a walk finds a node as long as nodes lie ahead
(`Ahead.step?_eq`). So every call of an operation keeps to the places that
there are, and ends (`Sound.checked_call`).
-/

namespace Cardfile

namespace Table

variable {K V : Type}

/-! ## Checked operations -/

/-- `linkTail` with its accesses checked. -/
def linkTail? (t : Table K V) (k : K) (v : V) : Part (Table K V) := do
  let slot ← t.slot? k
  let i := t.nodes.size
  let nodes := t.nodes.push { key := k, value := v, next := none }
  match ← Part.ofOption t.buckets[slot]? with
  | none => return { t with nodes, buckets := t.buckets.setIfInBounds slot (some i) }
  | some first =>
    match ← along nodes (fun node => node.next = none) (some first) with
    | none => Part.none
    | some tail =>
      return { t with nodes := nodes.modify tail fun node => { node with next := some i } }

/-- What is left of an arena and the table that its nodes are entered in,
after the nodes of a chain. No answer is given if a node of the chain is
not left. -/
def drain : Option ℕ × Array (Option (Node K V)) × Table K V →.
    Array (Option (Node K V)) × Table K V :=
  PFun.fix fun (link, left, t) =>
    match link with
    | none => Part.some (.inl (left, t))
    | some i => do
      let node ← Part.ofOption left[i]?.join
      let t ← t.linkTail? node.key node.value
      return .inr (node.next, left.setIfInBounds i none, t)

/-- `grown` with its accesses checked. -/
def grown? (t : Table K V) : Part (Table K V) := do
  let (_, grown) ← t.buckets.toList.foldlM (fun s link => drain (link, s))
    (t.nodes.map some, { t with buckets := Array.replicate (2 * t.capacity) none, nodes := #[] })
  return grown

/-- `step` with its accesses checked. -/
def step? (t : Table K V) (p : Position) : Part (Option ((K × V) × Position)) :=
  if p.remaining = 0 then Part.some none
  else do
    let (bucket, found) ← t.nodeAfter? p
    match found with
    | none => return none
    | some i =>
      let node ← Part.ofOption t.nodes[i]?
      return some ((node.key, node.value),
        { bucket, successor := node.next, remaining := p.remaining - 1 })

/-- The entries met so far, and those that a walk still meets. -/
def walked (t : Table K V) : Position × List (K × V) →. List (K × V) :=
  PFun.fix fun (p, met) => (t.step? p).map fun
    | none => .inl met
    | some (e, p) => .inr (p, met ++ [e])

/-- `entries` as they are met by a walk, with its accesses checked. -/
def entries? (t : Table K V) : Part (List (K × V)) := t.walked (t.start, [])

section Keyed

variable [DecidableEq K]

/-- `find?` with its accesses checked. -/
def locate? (t : Table K V) (k : K) : Part (Option ℕ) := do
  let first ← Part.ofOption t.buckets[← t.slot? k]?
  along t.nodes (fun node => node.key = k) first

/-- `get?` with its accesses checked. -/
def read? (t : Table K V) (k : K) : Part (Option V) := do
  match ← t.locate? k with
  | none => return none
  | some i => return some (← Part.ofOption t.nodes[i]?).value

/-- `remove` with its accesses checked. -/
def remove? (t : Table K V) (k : K) : Part (Option V × Table K V) := do
  match ← t.locate? k with
  | none => return (none, t)
  | some i =>
    let node ← Part.ofOption t.nodes[i]?
    return (some node.value, ← t.unlink? i)

variable [TableKey K]

/-- `put` with its accesses checked. -/
def put? (t : Table K V) (k : K) (v : V) : Part (Except TableFault (Option V × Table K V)) :=
  if TableKey.isBlank k then Part.some (.error .blankKey)
  else do
    match ← t.locate? k with
    | some i =>
      let node ← Part.ofOption t.nodes[i]?
      return .ok (some node.value, t.replaced i v)
    | none =>
      let t := (← t.linkTail? k v).touched
      return .ok (none, ← if t.isCrowded then t.grown? else Part.some t)

/-- `putEntries` with its accesses checked. -/
def putEntries? (t : Table K V) : List (K × V) → Part (Except TableFault (Table K V))
  | [] => Part.some (.ok t)
  | e :: rest => do
    match ← t.put? e.1 e.2 with
    | .error fault => return .error fault
    | .ok (_, t) => t.putEntries? rest

end Keyed

variable {t : Table K V}

/-! ## Entering -/

/-- The node without a link is the last one that is met. -/
theorem Leads.find?_end {nodes : Array (Node K V)} {start : Option ℕ} {is : List ℕ}
    (h : Leads nodes start is) :
    is.find? (fun i => nodes[i]?.any fun node => decide (node.next = none)) = is.getLast? := by
  induction h with
  | stop => rfl
  | @step i node is hnode hrest ih =>
    rw [List.find?_cons, hnode, Option.any_some]
    cases hnext : node.next with
    | none =>
      rw [hnext] at hrest
      rw [hrest.eq_nil]
      rfl
    | some j =>
      rw [hnext] at hrest
      cases hrest with
      | step _ _ => simpa using ih

/-- The table with entries entered in it, one after the other. -/
def entered (t : Table K V) (es : List (K × V)) : Table K V :=
  es.foldl (fun t e => t.linkTail e.1 e.2) t

variable [TableKey K]

/-- **Entering a key** reads and writes places that are there. -/
theorem Sound.linkTail?_eq (h : t.Sound) (k : K) (v : V) :
    t.linkTail? k v = Part.some (t.linkTail k v) := by
  have hleads := h.chained.leads (t.slot k)
  rw [linkTail?, Table.linkTail, h.slot?_eq, Part.bind_eq_bind, Part.bind_some,
    getElem?_buckets (h.slot_lt k), Part.coe_some, Part.bind_eq_bind, Part.bind_some]
  cases hhead : t.head (t.slot k) with
  | none =>
    rw [hhead] at hleads
    rw [hleads.eq_nil]
    rfl
  | some first =>
    -- the new node is in the arena before the end of the chain is looked for
    rw [hhead] at hleads
    have hpushed : Leads (t.nodes.push ⟨k, v, none⟩) (some first) (t.chain (t.slot k)) := by
      refine hleads.congr fun i hi node hnode => ⟨node, ?_, rfl⟩
      have hlt := h.chained.lt_size hi
      rw [Array.getElem?_push, if_neg (by omega), hnode]
    have hmem := hpushed.start_mem
    dsimp only
    rw [hpushed.along_eq, hpushed.find?_end, Part.bind_eq_bind, Part.bind_some]
    cases hlast : (t.chain (t.slot k)).getLast? with
    | none =>
      rw [List.getLast?_eq_none_iff.1 hlast] at hmem
      cases hmem
    | some tail => rfl

/-- **Entries that can be entered** one after the other: the table is sound
all along. -/
def Enterable (t : Table K V) (es : List (K × V)) : Prop :=
  ∀ front back, es = front ++ back → (t.entered front).Sound

namespace Enterable

variable {e : K × V} {es es' : List (K × V)}

theorem sound (h : t.Enterable es) : t.Sound := h [] es rfl

theorem tail (h : t.Enterable (e :: es)) : (t.linkTail e.1 e.2).Enterable es :=
  fun front back hsplit => h (e :: front) back (congrArg (e :: ·) hsplit)

theorem left (h : t.Enterable (es ++ es')) : t.Enterable es :=
  fun front back hsplit => h front (back ++ es') (by rw [hsplit, List.append_assoc])

theorem right (h : t.Enterable (es ++ es')) : (t.entered es).Enterable es' := by
  intro front back hsplit
  have hsound := h (es ++ front) back (by rw [hsplit, List.append_assoc])
  rwa [entered, List.foldl_append] at hsound

end Enterable

/-- Fresh keys can be entered. -/
theorem Holds.enterable [DecidableEq K] {l : Ledger K V} {es : List (K × V)} (h : t.Holds l)
    (hnd : (l.keys ++ es.map Prod.fst).Nodup) (hblank : ∀ e ∈ es, TableKey.isBlank e.1 = false) :
    t.Enterable es := by
  rintro front back rfl
  rw [List.map_append, ← List.append_assoc] at hnd
  exact (h.foldl_linkTail (List.Nodup.of_append_left hnd) fun e he =>
    hblank e (List.mem_append_left back he)).sound

/-! ## Growing -/

section Drain

variable {left : Array (Option (Node K V))} {r : Table K V} {start : Option ℕ} {is : List ℕ}

omit [TableKey K] in
theorem drain_none : drain (none, left, r) = Part.some (left, r) :=
  Part.eq_some_iff.2 (PFun.fix_stop (Part.mem_some _))

/-- A node that is left is taken and entered. -/
theorem drain_some {i : ℕ} {node : Node K V} (hnode : left[i]? = some (some node))
    (hr : r.Sound) :
    drain (some i, left, r) =
      drain (node.next, left.setIfInBounds i none, r.linkTail node.key node.value) := by
  refine PFun.fix_fwd_eq ?_
  simp only [hnode, Option.join_some, Part.coe_some, Part.bind_eq_bind, Part.bind_some,
    hr.linkTail?_eq]
  exact Part.mem_some _

/-- **A chain is drained**: its entries are entered in order, and no other
node is taken. -/
theorem Leads.drain_eq (h : Leads t.nodes start is) (hnd : is.Nodup)
    (hleft : ∀ i ∈ is, left[i]? = t.nodes[i]?.map some)
    (hr : r.Enterable (is.filterMap t.entryAt?)) :
    ∃ left', drain (start, left, r) = Part.some (left', r.entered (is.filterMap t.entryAt?)) ∧
      ∀ j, j ∉ is → left'[j]? = left[j]? := by
  induction h generalizing left r with
  | stop => exact ⟨left, drain_none, fun _ _ => rfl⟩
  | @step i node is hnode _ ih =>
    obtain ⟨hfresh, hnd⟩ := List.nodup_cons.1 hnd
    have htaken : left[i]? = some (some node) := by
      rw [hleft i List.mem_cons_self, hnode]
      rfl
    rw [List.filterMap_cons_some (entryAt?_eq_some hnode)] at hr ⊢
    have hkept : ∀ j ∈ is, (left.setIfInBounds i none)[j]? = t.nodes[j]?.map some := by
      intro j hj
      have hne : i ≠ j := fun he => hfresh (he ▸ hj)
      rw [Array.getElem?_setIfInBounds_ne hne]
      exact hleft j (List.mem_cons_of_mem _ hj)
    obtain ⟨left', hdrain, hother⟩ := ih hnd hkept hr.tail
    refine ⟨left', (drain_some htaken hr.sound).trans hdrain, fun j hj => ?_⟩
    have hne : i ≠ j := fun he => hj (he ▸ List.mem_cons_self)
    rw [hother j fun hmem => hj (List.mem_cons_of_mem _ hmem), Array.getElem?_setIfInBounds_ne hne]

/-- **Buckets are drained one after the other.** What one of them takes,
no other needs. -/
theorem Sound.drained_eq (h : t.Sound) {bs : List ℕ} (hnd : bs.Nodup)
    (hleft : ∀ b ∈ bs, ∀ i ∈ t.chain b, left[i]? = t.nodes[i]?.map some)
    (hr : r.Enterable (bs.flatMap t.bucket)) :
    ∃ left', bs.foldlM (fun s b => drain (t.head b, s)) (left, r) =
      Part.some (left', r.entered (bs.flatMap t.bucket)) := by
  induction bs generalizing left r with
  | nil => exact ⟨left, rfl⟩
  | cons b bs ih =>
    obtain ⟨hfresh, hnd⟩ := List.nodup_cons.1 hnd
    rw [List.flatMap_cons] at hr ⊢
    obtain ⟨left₁, hdrain, hother⟩ :
        ∃ left₁, drain (t.head b, left, r) = Part.some (left₁, r.entered (t.bucket b)) ∧
          ∀ i, i ∉ t.chain b → left₁[i]? = left[i]? :=
      (h.chained.leads b).drain_eq (h.chained.nodup b) (hleft b List.mem_cons_self) hr.left
    have hkept : ∀ c ∈ bs, ∀ i ∈ t.chain c, left₁[i]? = t.nodes[i]?.map some := by
      intro c hc i hi
      have hnot : i ∉ t.chain b := fun hb => hfresh (h.chained.disjoint hb hi ▸ hc)
      rw [hother i hnot]
      exact hleft c (List.mem_cons_of_mem _ hc) i hi
    obtain ⟨left₂, hrest⟩ := ih hnd hkept hr.right
    refine ⟨left₂, ?_⟩
    rw [List.foldlM_cons, hdrain, Part.bind_eq_bind, Part.bind_some]
    simpa only [entered, List.foldl_append] using hrest

end Drain

omit [TableKey K] in
/-- The buckets are the heads of their chains. -/
theorem toList_buckets : t.buckets.toList = (List.range t.capacity).map t.head := by
  refine List.ext_getElem? fun b => ?_
  rw [Array.getElem?_toList, List.getElem?_map]
  rcases Nat.lt_or_ge b t.capacity with hb | hb
  · rw [getElem?_buckets hb, List.getElem?_range hb]
    rfl
  · rw [Array.getElem?_eq_none hb, List.getElem?_eq_none (by simpa using hb)]
    rfl

/-- **Growing takes every node once** and enters it in a sound table. -/
theorem Sound.grown?_eq [DecidableEq K] (h : t.Sound) : t.grown? = Part.some t.grown := by
  have henterable := h.holds_emptied.enterable h.keys_nodup fun e he => h.holds.unblank he
  have hleft : ∀ b ∈ List.range t.capacity, ∀ i ∈ t.chain b,
      (t.nodes.map some)[i]? = t.nodes[i]?.map some := fun _ _ _ _ => Array.getElem?_map
  rw [entries_eq_flatMap] at henterable
  obtain ⟨left', hdrained⟩ := h.drained_eq List.nodup_range hleft henterable
  rw [grown?, toList_buckets, List.foldlM_map, hdrained, Part.bind_eq_bind, Part.bind_some, grown,
    entries_eq_flatMap]
  rfl

/-! ## Walking -/

section Walk

variable {p : Position} {js : List ℕ}

omit [TableKey K] in
/-- **A step of a walk** finds the first node ahead, if there is one. -/
theorem Ahead.step?_eq (h : t.Ahead p js) (hchained : t.Chained t.chain) :
    t.step? p = Part.some (t.step p) := by
  cases js with
  | nil =>
    have hlen : p.remaining = 0 := h.remaining_eq
    rw [step?, if_pos hlen, h.step_nil]
  | cons j js =>
    have hlen : p.remaining ≠ 0 := by
      rw [h.remaining_eq]
      exact Nat.succ_ne_zero _
    obtain ⟨b, node, hafter, hnode, -⟩ := h.nodeAfter hchained
    rw [step?, step, if_neg hlen, if_neg hlen, nodeAfter?_eq, hafter]
    simp only [Part.bind_eq_bind, Part.bind_some, hnode, Part.coe_some, Option.bind_eq_bind,
      Option.bind_some]
    rfl

omit [TableKey K] in
/-- A walk meets the entries ahead and ends. -/
theorem Ahead.walked_eq (h : t.Ahead p js) (hchained : t.Chained t.chain) (met : List (K × V)) :
    t.walked (p, met) = Part.some (met ++ js.filterMap t.entryAt?) := by
  induction js generalizing p met with
  | nil =>
    refine Part.eq_some_iff.2 (PFun.fix_stop ?_)
    dsimp only
    rw [h.step?_eq hchained, h.step_nil, List.filterMap_nil, List.append_nil]
    exact Part.mem_some _
  | cons j js ih =>
    obtain ⟨e, p', hstep, he, hahead⟩ := h.step_cons hchained
    have hgo : t.walked (p, met) = t.walked (p', met ++ [e]) := by
      refine PFun.fix_fwd_eq ?_
      dsimp only
      rw [h.step?_eq hchained, hstep]
      exact Part.mem_some _
    rw [hgo, ih hahead, List.filterMap_cons_some he, List.append_assoc, List.singleton_append]

theorem Sound.entries?_eq (h : t.Sound) : t.entries? = Part.some t.entries :=
  h.ahead_start.walked_eq h.chained []

end Walk

/-! ## Each operation -/

section Keyed

variable [DecidableEq K]

/-- **Looking for a key** ends at its node or at the end of its chain. -/
theorem Sound.locate?_eq (h : t.Sound) (k : K) : t.locate? k = Part.some (t.find? k) := by
  rw [locate?, h.slot?_eq, Part.bind_eq_bind, Part.bind_some, getElem?_buckets (h.slot_lt k),
    Part.coe_some, Part.bind_eq_bind, Part.bind_some]
  exact (h.chained.leads (t.slot k)).along_eq fun node => node.key = k

/-- The node that is found is in the arena, and has the value. -/
theorem Sound.exists_node_of_find? (h : t.Sound) {k : K} {i : ℕ} (hfind : t.find? k = some i) :
    ∃ node, t.nodes[i]? = some node ∧ t.get? k = some node.value := by
  obtain ⟨w, hw⟩ := h.find?_eq_some.1 hfind
  obtain ⟨node, hnode, -⟩ := Option.map_eq_some_iff.1 hw
  refine ⟨node, hnode, ?_⟩
  rw [get?, hfind, Option.bind_some, hnode]
  rfl

theorem Sound.read?_eq (h : t.Sound) (k : K) : t.read? k = Part.some (t.get? k) := by
  rw [read?, h.locate?_eq, Part.bind_eq_bind, Part.bind_some]
  cases hfind : t.find? k with
  | none =>
    rw [h.find?_eq_none.1 hfind]
    rfl
  | some i =>
    obtain ⟨node, hnode, hget⟩ := h.exists_node_of_find? hfind
    dsimp only
    rw [hnode, hget, Part.coe_some, Part.bind_eq_bind, Part.bind_some]
    rfl

theorem Sound.removeKey?_eq (h : t.Sound) (k : K) : t.remove? k = Part.some (t.remove k) := by
  rw [remove?, remove, h.locate?_eq, Part.bind_eq_bind, Part.bind_some]
  cases hfind : t.find? k with
  | none => rfl
  | some i =>
    obtain ⟨node, hnode, hget⟩ := h.exists_node_of_find? hfind
    have hi := (Array.getElem?_eq_some_iff.1 hnode).1
    dsimp only
    rw [hnode, hget, h.unlink?_eq hi, Part.coe_some, Part.bind_eq_bind, Part.bind_some,
      Part.bind_eq_bind, Part.bind_some]
    rfl

theorem Sound.put?_eq (h : t.Sound) (k : K) (v : V) : t.put? k v = Part.some (t.put k v) := by
  rw [put?, put]
  split_ifs with hk
  · rfl
  rw [h.locate?_eq, Part.bind_eq_bind, Part.bind_some]
  cases hfind : t.find? k with
  | some i =>
    obtain ⟨node, hnode, hget⟩ := h.exists_node_of_find? hfind
    dsimp only
    rw [hnode, hget, Part.coe_some, Part.bind_eq_bind, Part.bind_some]
    rfl
  | none =>
    have hfresh := h.get?_eq_none.1 (h.find?_eq_none.1 hfind)
    have hentered : (t.linkTail k v).Sound := h.linkTail hfresh (by simpa using hk) v
    dsimp only
    rw [h.linkTail?_eq, Part.bind_eq_bind, Part.bind_some]
    split_ifs
    · rw [hentered.holds.touched.sound.grown?_eq, Part.bind_eq_bind, Part.bind_some]
      rfl
    · rw [Part.bind_eq_bind, Part.bind_some]
      rfl

/-- Entries are put as long as no key is blank. -/
theorem Sound.putEntries?_eq (h : t.Sound) (es : List (K × V)) :
    t.putEntries? es = Part.some (t.putEntries es) := by
  induction es generalizing t with
  | nil => rfl
  | cons e es ih =>
    rw [putEntries?, putEntries, h.put?_eq, Part.bind_eq_bind, Part.bind_some]
    cases hk : TableKey.isBlank e.1 with
    | true =>
      rw [put_blank hk]
      rfl
    | false =>
      obtain ⟨t', _, hput, -, hholds, -⟩ := h.holds.put hk e.2
      rw [hput]
      exact ih hholds.sound

/-! ## Every call -/

variable [DecidableEq V]

/-- The call with every access checked and every loop at its end: what it
answers, and the table after it. -/
def Call.checked (c : Call K V) (t : Table K V) : Part (Answer K V × Table K V) :=
  match c with
  | .put k v => (t.put? k v).map fun
    | .ok (old, t) => (.value old, t)
    | .error fault => (.failed fault.report, t)
  | .get k => (t.read? k).map fun old => (.value old, t)
  | .contains k => (t.locate? k).map fun found => (.truth found.isSome, t)
  | .containsValue v => t.entries?.map fun es => (.truth (es.any fun e => e.2 = v), t)
  | .remove k => (t.remove? k).map fun r => (.value r.1, r.2)
  | .size => Part.some (.count t.size, t)
  | .isEmpty => Part.some (.truth t.isEmpty, t)
  | .clear => Part.some (.done, t.clear)
  | .putAll other => do
    match ← t.putEntries? (← other.entries?) with
    | .ok t => return (.done, t)
    | .error fault => return (.failed fault.report, t)
  | .removeAt c => (c.remove? t).map fun
    | (.ok e, _, t) => (.entry e.1 e.2, t)
    | (.error fault, _, t) => (.failed fault.report, t)

/-- **Every call of an operation ends** and keeps to the places that there
are. -/
theorem Sound.checked_call (h : t.Sound) {c : Call K V}
    (hothers : ∀ other, c = .putAll other → other.Sound) :
    c.checked t = Part.some (t.call c) := by
  cases c with
  | put k v =>
    rcases hput : t.put k v with _ | ⟨_, _⟩ <;>
      simp only [Call.checked, Table.call, h.put?_eq, Part.map_some, hput]
  | get k =>
    simp only [Call.checked, Table.call, h.read?_eq, Part.map_some]
  | contains k =>
    simp only [Call.checked, Table.call, contains, h.locate?_eq, Part.map_some]
  | containsValue v =>
    simp only [Call.checked, Table.call, Table.containsValue, h.entries?_eq, Part.map_some]
  | remove k =>
    simp only [Call.checked, Table.call, h.removeKey?_eq, Part.map_some]
  | size | isEmpty | clear => rfl
  | putAll other =>
    have hentries := (hothers other rfl).entries?_eq
    cases hput : t.putEntries other.entries <;>
      simp only [Call.checked, Table.call, putAll, hentries, h.putEntries?_eq, Part.bind_eq_bind,
        Part.bind_some, Part.pure_eq_some, hput]
  | removeAt c =>
    rcases hremove : c.remove t with ⟨_ | _, _, _⟩ <;>
      simp only [Call.checked, Table.call, h.remove?_eq, Part.map_some, hremove]

end Keyed

end Table

end Cardfile
