import Cardfile.Proofs.Table.Sound
/-!
# Table — unlinking

A node is taken out in two moves. First the link that leads to it is led
past it (`Sound.chained_bypass`); then the last node of the arena takes
its place, and the link that led to the last node follows
(`Sound.getElem?_unlink`, `Sound.head_unlink`). Each link has one place
it is kept in, so searching a chain for it changes that link and no other
(`head_relink`, `getElem?_relink`). Between the moves the node that goes still points
into its old chain, perhaps at the last node; this is why `getElem?_relink`
speaks of the nodes that are met and of no others.

In the end whatever a link led to is met in the same order, less the
node, and with the last node at its new place (`Sound.leads_unlink`): so
it is with the chains (`Sound.chained_unlink`), and the entries of a
bucket keep their order (`Sound.bucket_unlink`).
-/

namespace Cardfile

namespace Table

variable {K V : Type} {t : Table K V}

/-! ## Changing one link -/

@[simp] theorem hash_relink (b target : ℕ) (next : Option ℕ) :
    (t.relink b target next).hash = t.hash := by
  unfold relink
  split
  · rfl
  · split <;> rfl

@[simp] theorem generation_relink (b target : ℕ) (next : Option ℕ) :
    (t.relink b target next).generation = t.generation := by
  unfold relink
  split
  · rfl
  · split <;> rfl

@[simp] theorem capacity_relink (b target : ℕ) (next : Option ℕ) :
    (t.relink b target next).capacity = t.capacity := by
  unfold relink
  split
  · exact Array.size_setIfInBounds
  · split <;> rfl

@[simp] theorem size_nodes_relink (b target : ℕ) (next : Option ℕ) :
    (t.relink b target next).nodes.size = t.nodes.size := by
  unfold relink
  split
  · rfl
  · split
    · exact Array.size_modify
    · rfl

@[simp] theorem slot_relink (b target : ℕ) (next : Option ℕ) :
    (t.relink b target next).slot = t.slot := by
  funext k
  simp [slot]

/-- No entry moves. -/
@[simp] theorem entryAt?_relink (b target : ℕ) (next : Option ℕ) (i : ℕ) :
    (t.relink b target next).entryAt? i = t.entryAt? i := by
  unfold relink
  split
  · rfl
  · split
    · simp only [entryAt?, Array.getElem?_modify]
      split
      · rw [Option.map_map]
        rfl
      · rfl
    · rfl

section Relink

variable {cs : ℕ → List ℕ} {b target : ℕ}

/-- No bucket but that of the target begins with it. -/
theorem Chained.eq_of_head (h : t.Chained cs) (hb : target ∈ cs b) {c : ℕ}
    (hc : t.head c = some target) : c = b := by
  have hleads := h.leads c
  rw [hc] at hleads
  exact h.disjoint hleads.start_mem hb

/-- No chain but that of the target has a link to it. -/
theorem Chained.eq_of_next (h : t.Chained cs) (hb : target ∈ cs b) {c i : ℕ} {node : Node K V}
    (hi : i ∈ cs c) (hnode : t.nodes[i]? = some node) (hnext : node.next = some target) :
    c = b :=
  h.disjoint ((h.leads c).next_mem hi hnode hnext) hb

/-- **The heads after a link was changed.** -/
theorem Chained.head_relink (h : t.Chained cs) (hb : target ∈ cs b) (next : Option ℕ) (c : ℕ) :
    (t.relink b target next).head c = bypass target next (t.head c) := by
  rw [relink]
  by_cases hhead : t.head b = some target
  · rw [if_pos hhead]
    by_cases hc : c = b
    · subst hc
      have hlt : c < t.buckets.size := by
        by_contra hge
        rw [head_of_le (Nat.not_lt.1 hge)] at hhead
        cases hhead
      rw [hhead, bypass_self, head, Array.getElem?_setIfInBounds_self_of_lt hlt]
      rfl
    · have hne : t.head c ≠ some target := fun he => hc (h.eq_of_head hb he)
      rw [bypass_of_ne hne, head, Array.getElem?_setIfInBounds_ne (Ne.symm hc)]
      rfl
  · have hne : t.head c ≠ some target := fun he => hhead (h.eq_of_head hb he ▸ he)
    rw [if_neg hhead, bypass_of_ne hne]
    split <;> rfl

/-- **The node that has the link** is found in the chain of the target, unless
the bucket has it. -/
theorem Chained.exists_find?_next (h : t.Chained cs) (hb : target ∈ cs b)
    (hhead : t.head b ≠ some target) :
    ∃ i node, ((cs b).find? fun i => t.nodes[i]?.any fun node => node.next == some target) =
      some i ∧ i ∈ cs b ∧ t.nodes[i]? = some node ∧ node.next = some target := by
  cases hfind : (cs b).find? fun i => t.nodes[i]?.any fun node => node.next == some target with
  | none =>
    obtain ⟨j, hj, m, hm, hmnext⟩ := (h.leads b).exists_next hb hhead
    have hnot := List.find?_eq_none.1 hfind j hj
    simp [hm, hmnext] at hnot
  | some i =>
    have htrue := List.find?_some hfind
    obtain ⟨node, hnode, hnext⟩ := (Option.any_eq_true _ _).1 htrue
    exact ⟨i, node, rfl, List.mem_of_find?_eq_some hfind, hnode, beq_iff_eq.1 hnext⟩

/-- **The nodes that are met, after a link was changed.** -/
theorem Chained.getElem?_relink (h : t.Chained cs) (hb : target ∈ cs b) (next : Option ℕ)
    {c i : ℕ} (hi : i ∈ cs c) :
    (t.relink b target next).nodes[i]? =
      t.nodes[i]?.map (Node.relinked (bypass target next)) := by
  obtain ⟨node, hnode⟩ := (h.leads c).exists_node hi
  have hsame : node.next ≠ some target → node.relinked (bypass target next) = node := by
    intro hne
    rw [Node.relinked, bypass_of_ne hne]
  rw [hnode, Option.map_some, relink]
  by_cases hhead : t.head b = some target
  · -- the link is the head of the bucket, and no node has it
    rw [if_pos hhead]
    have hne : node.next ≠ some target := by
      intro hnext
      obtain rfl := h.eq_of_next hb hi hnode hnext
      have hleads := h.leads c
      rw [hhead] at hleads
      exact hleads.next_ne_start (h.nodup c) hi hnode hnext
    rw [hsame hne]
    exact hnode
  · -- the node that is found is the only one with the link
    obtain ⟨x, n, hfind, hx, hn, hnnext⟩ := h.exists_find?_next hb hhead
    rw [if_neg hhead, h.chain_eq, hfind]
    simp only [Array.getElem?_modify]
    by_cases hxi : x = i
    · subst hxi
      rw [hn] at hnode
      cases hnode
      rw [if_pos rfl, hn, Node.relinked, hnnext, bypass_self]
      rfl
    · have hne : node.next ≠ some target := by
        intro hnext
        obtain rfl := h.eq_of_next hb hi hnode hnext
        exact hxi ((h.leads c).next_inj (h.nodup c) hx hi hn hnode hnnext hnext)
      rw [if_neg hxi, hsame hne, hnode]

end Relink

/-! ## Filling the gap -/

/-- The table with the last node of the arena in the place of node `i`. -/
def compacted (t : Table K V) (i : ℕ) : Table K V :=
  { t with nodes := (t.nodes.swapIfInBounds i (t.nodes.size - 1)).pop }

@[simp] theorem head_compacted (i b : ℕ) : (t.compacted i).head b = t.head b := rfl

@[simp] theorem head_touched (b : ℕ) : t.touched.head b = t.head b := rfl

@[simp] theorem nodes_touched : t.touched.nodes = t.nodes := rfl

/-- Where node `j` lies after the last node has moved to `i`. -/
def relocated (i last j : ℕ) : ℕ := if j = last then i else j

/-- A link to the last node follows it. -/
theorem bypass_eq_map_relocated (i last : ℕ) :
    bypass last (some i) = Option.map (relocated i last) := by
  funext link
  cases link with
  | none => rfl
  | some j =>
    simp only [bypass, relocated, Option.map_some, Option.some.injEq]
    split_ifs <;> rfl

theorem relocated_self (i : ℕ) : relocated i i = id := by
  funext j
  by_cases hj : j = i
  · rw [relocated, if_pos hj, hj, id_eq]
  · rw [relocated, if_neg hj, id_eq]

/-- Nodes other than `i` keep apart. -/
theorem relocated_inj {i last j k : ℕ} (hj : j ≠ i) (hk : k ≠ i)
    (h : relocated i last j = relocated i last k) : j = k := by
  simp only [relocated] at h
  split_ifs at h <;> omega

/-- **Every node but `i` is found at its new place.** -/
theorem getElem?_compacted {i j : ℕ} (hi : i < t.nodes.size) (hji : j ≠ i)
    (hj : j < t.nodes.size) :
    (t.compacted i).nodes[relocated i (t.nodes.size - 1) j]? = t.nodes[j]? := by
  have hlast : t.nodes.size - 1 < t.nodes.size := by omega
  have hswap : t.nodes.swapIfInBounds i (t.nodes.size - 1) =
      t.nodes.swap i (t.nodes.size - 1) hi hlast := by
    rw [Array.swapIfInBounds, dif_pos hi, dif_pos hlast]
  simp only [compacted, hswap, Array.getElem?_pop, Array.size_swap, Array.getElem?_swap]
  by_cases hjl : j = t.nodes.size - 1
  · have hil : ¬ t.nodes.size - 1 = i := by omega
    have hlt : i < t.nodes.size - 1 := by omega
    rw [relocated, if_pos hjl, if_pos hlt, if_neg hil, if_pos rfl, hjl,
      Array.getElem?_eq_getElem hlast]
  · have hlt : j < t.nodes.size - 1 := by omega
    rw [relocated, if_neg hjl, if_pos hlt, if_neg (Ne.symm hjl), if_neg (Ne.symm hji)]

/-- Every place that is left is the new place of a node. -/
theorem exists_relocated {i k : ℕ} (hi : i < t.nodes.size) (hk : k < (t.compacted i).nodes.size) :
    ∃ j, j ≠ i ∧ j < t.nodes.size ∧ relocated i (t.nodes.size - 1) j = k := by
  have hk : k < t.nodes.size - 1 := by
    simpa [compacted] using hk
  by_cases hki : k = i
  · exact ⟨t.nodes.size - 1, by omega, by omega, by rw [relocated, if_pos rfl, hki]⟩
  · exact ⟨k, hki, by omega, by rw [relocated, if_neg (by omega)]⟩

/-! ## Both moves -/

/-- What is left of a table when node `i` is unlinked, in steps. -/
theorem unlink_eq {i last : ℕ} {node final : Node K V} (hlast : last = t.nodes.size - 1)
    (hnode : t.nodes[i]? = some node) (hfinal : t.nodes[last]? = some final) :
    t.unlink i =
      ((if i = last then t.relink (t.slot node.key) i node.next
        else (t.relink (t.slot node.key) i node.next).relink (t.slot final.key) last
          (some i)).compacted i).touched := by
  subst hlast
  simp only [unlink, hnode, hfinal, slot_relink, compacted]
  split_ifs <;> simp only [size_nodes_relink]

section Unlink

variable [TableKey K] {i : ℕ} {node : Node K V}

/-- No node points at itself. -/
theorem Sound.next_ne_self (h : t.Sound) (hnode : t.nodes[i]? = some node) :
    node.next ≠ some i := by
  intro hnext
  have hmem : i ∈ t.chain (t.slot node.key) := (h.mem_chain (entryAt?_eq_some hnode) _).2 rfl
  obtain ⟨front, back, hsplit⟩ := List.append_of_mem hmem
  have hleads := h.chained.leads (t.slot node.key)
  have hnd := h.chained.nodup (t.slot node.key)
  rw [hsplit] at hleads hnd
  obtain ⟨n, hn, hback⟩ := hleads.suffix
  rw [hnode] at hn
  cases hn
  rw [hnext] at hback
  exact (List.nodup_cons.1 (List.Nodup.of_append_right hnd)).1 hback.start_mem

/-- **The link to a node is led past it.** -/
theorem Sound.chained_bypass (h : t.Sound) (hnode : t.nodes[i]? = some node) :
    (t.relink (t.slot node.key) i node.next).Chained fun b => (t.chain b).filter (· ≠ i) where
  leads b := by
    have hmem : i ∈ t.chain (t.slot node.key) :=
      (h.mem_chain (entryAt?_eq_some hnode) _).2 rfl
    rw [h.chained.head_relink hmem]
    exact (h.chained.leads b).bypassed hnode (h.next_ne_self hnode) fun j hj =>
      h.chained.getElem?_relink hmem _ hj
  nodup b := (h.chained.nodup b).filter _
  disjoint hb hc := h.chained.disjoint (List.mem_of_mem_filter hb) (List.mem_of_mem_filter hc)

/-- A node that stays is met in the bucket of its key. -/
theorem Sound.mem_filter_chain (h : t.Sound) {j : ℕ} {e : K × V} (he : t.entryAt? j = some e)
    (hji : j ≠ i) : j ∈ (t.chain (t.slot e.1)).filter (· ≠ i) :=
  List.mem_filter.2 ⟨(h.mem_chain he _).2 rfl, by simpa using hji⟩

/-- Both moves seen from a node that stays: the links into the gap were
led past it, and those to the last node follow it to `i`. -/
theorem Sound.getElem?_unlink (h : t.Sound) (hnode : t.nodes[i]? = some node) {j : ℕ}
    (hji : j ≠ i) (hj : j < t.nodes.size) :
    (t.unlink i).nodes[relocated i (t.nodes.size - 1) j]? =
      (t.relink (t.slot node.key) i node.next).nodes[j]?.map
        (Node.relinked (Option.map (relocated i (t.nodes.size - 1)))) := by
  have hi := (Array.getElem?_eq_some_iff.1 hnode).1
  obtain ⟨last, hlast⟩ : ∃ last, last = t.nodes.size - 1 := ⟨_, rfl⟩
  have hlt : last < t.nodes.size := by omega
  have hfinal := Array.getElem?_eq_getElem hlt
  rw [unlink_eq hlast hnode hfinal, ← hlast]
  by_cases hil : i = last
  · -- the node is the last one, and no other node moves
    rw [if_pos hil, ← hil, relocated_self, Option.map_id]
    have hstay := getElem?_compacted (t := t.relink (t.slot node.key) i node.next) (i := i)
      (by rwa [size_nodes_relink]) hji (by rwa [size_nodes_relink])
    rw [size_nodes_relink, ← hlast, ← hil, relocated_self] at hstay
    have hsame : (Node.relinked id : Node K V → Node K V) = id := rfl
    rw [hsame, Option.map_id, nodes_touched]
    exact hstay
  · -- the last node moves, and the one link to it is changed too
    rw [if_neg hil, ← bypass_eq_map_relocated]
    have hstay := getElem?_compacted (i := i) (j := j)
      (t := (t.relink (t.slot node.key) i node.next).relink (t.slot t.nodes[last].key) last
        (some i)) (by simpa using hi) hji (by simpa using hj)
    rw [size_nodes_relink, size_nodes_relink, ← hlast] at hstay
    have hmem := h.mem_filter_chain (entryAt?_eq_some hfinal) (Ne.symm hil)
    obtain ⟨e, he⟩ := exists_entryAt?.2 hj
    rw [nodes_touched, hstay]
    exact (h.chained_bypass hnode).getElem?_relink hmem _ (h.mem_filter_chain he hji)

/-- Both moves seen from a bucket. -/
theorem Sound.head_unlink (h : t.Sound) (hnode : t.nodes[i]? = some node) (b : ℕ) :
    (t.unlink i).head b =
      ((t.relink (t.slot node.key) i node.next).head b).map
        (relocated i (t.nodes.size - 1)) := by
  have hi := (Array.getElem?_eq_some_iff.1 hnode).1
  obtain ⟨last, hlast⟩ : ∃ last, last = t.nodes.size - 1 := ⟨_, rfl⟩
  have hlt : last < t.nodes.size := by omega
  have hfinal := Array.getElem?_eq_getElem hlt
  rw [unlink_eq hlast hnode hfinal, ← hlast]
  by_cases hil : i = last
  · rw [if_pos hil, ← hil, relocated_self, Option.map_id, head_touched, head_compacted]
    rfl
  · have hmem := h.mem_filter_chain (entryAt?_eq_some hfinal) (Ne.symm hil)
    rw [if_neg hil, ← bypass_eq_map_relocated, head_touched, head_compacted]
    exact (h.chained_bypass hnode).head_relink hmem _ b

/-- **What a link led to is met in the same order**, less the node that
is gone. -/
theorem Sound.leads_unlink (h : t.Sound) (hnode : t.nodes[i]? = some node) {start : Option ℕ}
    {is : List ℕ} (hleads : Leads t.nodes start is) :
    Leads (t.unlink i).nodes
      ((bypass i node.next start).map (relocated i (t.nodes.size - 1)))
      ((is.filter (· ≠ i)).map (relocated i (t.nodes.size - 1))) := by
  have hmem : i ∈ t.chain (t.slot node.key) := (h.mem_chain (entryAt?_eq_some hnode) _).2 rfl
  have hsize : ∀ j ∈ is, j < t.nodes.size := fun j hj =>
    have ⟨_, hn⟩ := hleads.exists_node hj
    (Array.getElem?_eq_some_iff.1 hn).1
  have hpast := hleads.bypassed hnode (h.next_ne_self hnode) fun j hj => by
    obtain ⟨e, he⟩ := exists_entryAt?.2 (hsize j hj)
    exact h.chained.getElem?_relink hmem node.next ((h.mem_chain he _).2 rfl)
  refine hpast.rename _ fun j hj => ?_
  have hj := List.mem_filter.1 hj
  exact h.getElem?_unlink hnode (by simpa using hj.2) (hsize j hj.1)

/-- **The chains after a node was unlinked.** -/
theorem Sound.chained_unlink (h : t.Sound) (hnode : t.nodes[i]? = some node) :
    (t.unlink i).Chained fun b =>
      ((t.chain b).filter (· ≠ i)).map (relocated i (t.nodes.size - 1)) where
  leads b := by
    have hmem : i ∈ t.chain (t.slot node.key) :=
      (h.mem_chain (entryAt?_eq_some hnode) _).2 rfl
    rw [h.head_unlink hnode, h.chained.head_relink hmem]
    exact h.leads_unlink hnode (h.chained.leads b)
  nodup b := by
    refine List.Nodup.map_on ?_ ((h.chained.nodup b).filter _)
    intro j hj k hk hjk
    have hji := (List.mem_filter.1 hj).2
    have hki := (List.mem_filter.1 hk).2
    exact relocated_inj (by simpa using hji) (by simpa using hki) hjk
  disjoint := by
    intro b c j hb hc
    obtain ⟨x, hx, hxj⟩ := List.mem_map.1 hb
    obtain ⟨y, hy, hyj⟩ := List.mem_map.1 hc
    have hxi := (List.mem_filter.1 hx).2
    have hyi := (List.mem_filter.1 hy).2
    obtain rfl : x = y :=
      relocated_inj (by simpa using hxi) (by simpa using hyi) (hxj.trans hyj.symm)
    exact h.chained.disjoint (List.mem_of_mem_filter hx) (List.mem_of_mem_filter hy)

theorem Sound.chain_unlink (h : t.Sound) (hnode : t.nodes[i]? = some node) (b : ℕ) :
    (t.unlink i).chain b =
      ((t.chain b).filter (· ≠ i)).map (relocated i (t.nodes.size - 1)) :=
  congrFun (h.chained_unlink hnode).chain_eq b

end Unlink

/-! ## What is left -/

@[simp] theorem hash_unlink (i : ℕ) : (t.unlink i).hash = t.hash := by
  rw [unlink]
  split
  · dsimp only [touched]
    split_ifs <;> simp
  · rfl

@[simp] theorem capacity_unlink (i : ℕ) : (t.unlink i).capacity = t.capacity := by
  rw [unlink]
  split
  · show capacity (ite _ _ _ : Table K V) = t.capacity
    split_ifs <;> simp
  · rfl

@[simp] theorem slot_unlink (i : ℕ) : (t.unlink i).slot = t.slot := by
  funext k
  simp [slot]

section Fields

variable {i : ℕ} (hi : i < t.nodes.size)

include hi

/-- A removal is one structural change. -/
theorem generation_unlink : (t.unlink i).generation = t.generation + 1 := by
  have hlt : t.nodes.size - 1 < t.nodes.size := by omega
  rw [unlink_eq rfl (Array.getElem?_eq_getElem hi) (Array.getElem?_eq_getElem hlt)]
  split_ifs <;> simp [compacted, touched]

theorem size_nodes_unlink : (t.unlink i).nodes.size = t.nodes.size - 1 := by
  have hlt : t.nodes.size - 1 < t.nodes.size := by omega
  rw [unlink_eq rfl (Array.getElem?_eq_getElem hi) (Array.getElem?_eq_getElem hlt)]
  split_ifs <;> simp [compacted, touched]

end Fields

section Left

variable [TableKey K] {i : ℕ}

/-- **The other entries are at their new places.** -/
theorem Sound.entryAt?_unlink (h : t.Sound) (hi : i < t.nodes.size) {j : ℕ} (hji : j ≠ i)
    (hj : j < t.nodes.size) :
    (t.unlink i).entryAt? (relocated i (t.nodes.size - 1) j) = t.entryAt? j := by
  have hnode := h.getElem?_unlink (Array.getElem?_eq_getElem hi) hji hj
  rw [entryAt?, hnode, Option.map_map, ← entryAt?_relink (t.slot t.nodes[i].key) i t.nodes[i].next]
  rfl

/-- And there are no others. -/
theorem Sound.exists_entryAt?_of_unlink (h : t.Sound) (hi : i < t.nodes.size) {k : ℕ}
    {e : K × V} (he : (t.unlink i).entryAt? k = some e) :
    ∃ j, j ≠ i ∧ t.entryAt? j = some e ∧ relocated i (t.nodes.size - 1) j = k := by
  have hk : k < (t.compacted i).nodes.size := by
    have := exists_entryAt?.1 ⟨e, he⟩
    rw [size_nodes_unlink hi] at this
    simpa [compacted] using this
  obtain ⟨j, hji, hj, rfl⟩ := exists_relocated hi hk
  rw [h.entryAt?_unlink hi hji hj] at he
  exact ⟨j, hji, he, rfl⟩

/-- **Unlinking a node keeps a table sound.** -/
theorem Sound.unlink (h : t.Sound) (hi : i < t.nodes.size) : (t.unlink i).Sound := by
  refine .of_chained ?_ (h.chained_unlink (Array.getElem?_eq_getElem hi)) ?_ ?_ ?_
  · rw [capacity_unlink]
    exact h.power
  · intro k e he b
    obtain ⟨j, hji, hj, rfl⟩ := h.exists_entryAt?_of_unlink hi he
    rw [slot_unlink, ← h.mem_chain hj b, List.mem_map]
    constructor
    · rintro ⟨x, hx, hxj⟩
      have hx := List.mem_filter.1 hx
      rw [← relocated_inj (by simpa using hx.2) hji hxj]
      exact hx.1
    · intro hmem
      exact ⟨j, List.mem_filter.2 ⟨hmem, by simpa using hji⟩, rfl⟩
  · intro k k' e e' he he' hee
    obtain ⟨j, -, hj, rfl⟩ := h.exists_entryAt?_of_unlink hi he
    obtain ⟨j', -, hj', rfl⟩ := h.exists_entryAt?_of_unlink hi he'
    rw [h.distinct hj hj' hee]
  · intro k e he
    obtain ⟨j, -, hj, -⟩ := h.exists_entryAt?_of_unlink hi he
    exact h.unblank hj

/-- The other entries of a bucket keep their order. -/
theorem Sound.bucket_unlink [DecidableEq K] (h : t.Sound) {k : K} {v : V}
    (hi : t.entryAt? i = some (k, v)) (b : ℕ) :
    (t.unlink i).bucket b = (t.bucket b).filter fun e => e.1 ≠ k := by
  have hlt := exists_entryAt?.1 ⟨_, hi⟩
  have hstay : ∀ {is : List ℕ}, (∀ j ∈ is, j < t.nodes.size) →
      (is.filter (· ≠ i)).filterMap
          ((t.unlink i).entryAt? ∘ relocated i (t.nodes.size - 1)) =
        (is.filterMap t.entryAt?).filter fun e => e.1 ≠ k := by
    intro is his
    induction is with
    | nil => rfl
    | cons j is ih =>
      have hrest := ih fun x hx => his x (List.mem_cons_of_mem _ hx)
      obtain ⟨e, he⟩ := exists_entryAt?.2 (his j List.mem_cons_self)
      rw [List.filterMap_cons_some he]
      by_cases hji : j = i
      · subst hji
        rw [hi] at he
        cases he
        rw [List.filter_cons_of_neg (by simp), List.filter_cons_of_neg (by simp)]
        exact hrest
      · -- no other node has the key
        have hne : e.1 ≠ k := fun hk => hji (h.distinct he hi hk)
        have hmoved : ((t.unlink i).entryAt? ∘ relocated i (t.nodes.size - 1)) j = some e :=
          (h.entryAt?_unlink hlt hji (his j List.mem_cons_self)).trans he
        rw [List.filter_cons_of_pos (by simpa using hji),
          List.filter_cons_of_pos (by simpa using hne), List.filterMap_cons_some hmoved, hrest]
  rw [bucket, h.chain_unlink (Array.getElem?_eq_getElem hlt), List.filterMap_map]
  exact hstay fun j hj => h.chained.lt_size hj

/-- And so do those of the whole traversal. -/
theorem Sound.entries_unlink [DecidableEq K] (h : t.Sound) {k : K} {v : V}
    (hi : t.entryAt? i = some (k, v)) :
    (t.unlink i).entries = t.entries.filter fun e => e.1 ≠ k := by
  rw [entries_eq_flatMap, entries_eq_flatMap, capacity_unlink, List.filter_flatMap]
  congr 1
  funext b
  exact h.bucket_unlink hi b

/-- **The table holds what the ledger keeps.** -/
theorem Holds.unlink [DecidableEq K] {l : Ledger K V} (h : t.Holds l) {k : K} {v : V}
    (hi : t.entryAt? i = some (k, v)) : (t.unlink i).Holds (l.remove k).2 where
  sound := h.sound.unlink (exists_entryAt?.1 ⟨_, hi⟩)
  bucket_eq b := by
    rw [h.sound.bucket_unlink hi, h.bucket_eq, slot_unlink, Ledger.remove, List.filter_filter,
      List.filter_filter]
    refine List.filter_congr fun e _ => ?_
    rw [Bool.and_comm]

end Left

end Table

end Cardfile
