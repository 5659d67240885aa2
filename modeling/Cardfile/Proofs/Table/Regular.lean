import Cardfile.Proofs.Table.Accesses
import Mathlib
/-!
# Table — regularity

`Regular` puts together what is true of every table that can come about:
how its links lie, what its keys are, and that therefore no operation runs
on for ever, reads a place that is not there, or misses the link that it is
about to change (`regular_of_reachable`).

A node is taken out in two moves, and the second one looks for its link in
a table that is no longer sound: the node that goes is still in the arena,
and in no chain. What it looks for is met all the same
(`Sound.findsLink_last`).
-/

namespace Cardfile

namespace Table

variable {K V : Type} {t : Table K V}

/-! ## Links that are looked for -/

/-- **The link to a node is found** where a change of it begins to look: it
is the head of the bucket, or following the links from there ends at the
node that has it. -/
def FindsLink (t : Table K V) (b target : ℕ) : Prop :=
  t.head b = some target ∨
    ∃ i node, seek t.nodes target (t.head b) = Part.some (some i) ∧
      t.nodes[i]? = some node ∧ node.next = some target

/-- The link to a node that is met in a bucket is found there. -/
theorem Chained.findsLink {cs : ℕ → List ℕ} (h : t.Chained cs) {b target : ℕ}
    (hb : target ∈ cs b) : t.FindsLink b target := by
  by_cases hhead : t.head b = some target
  · exact .inl hhead
  obtain ⟨i, node, hfind, -, hnode, hnext⟩ := h.exists_find?_next hb hhead
  exact .inr ⟨i, node, by rw [(h.leads b).seek_eq, hfind], hnode, hnext⟩

variable [TableKey K] {i : ℕ} {node final : Node K V}

/-- The first move finds the link to the node that goes. -/
theorem Sound.findsLink (h : t.Sound) (hnode : t.nodes[i]? = some node) :
    t.FindsLink (t.slot node.key) i :=
  h.chained.findsLink ((h.mem_chain (entryAt?_eq_some hnode) _).2 rfl)

/-- The second move finds the link to the last node. -/
theorem Sound.findsLink_last (h : t.Sound) (hnode : t.nodes[i]? = some node)
    (hfinal : t.nodes[t.nodes.size - 1]? = some final) (hne : i ≠ t.nodes.size - 1) :
    (t.relink (t.slot node.key) i node.next).FindsLink (t.slot final.key) (t.nodes.size - 1) :=
  (h.chained_bypass hnode).findsLink
    (h.mem_filter_chain (entryAt?_eq_some hfinal) (Ne.symm hne))

/-- A link leads to a place of the arena. -/
theorem Sound.lt_of_next (h : t.Sound) {j : ℕ} (hnode : t.nodes[i]? = some node)
    (hnext : node.next = some j) : j < t.size := by
  have hmem := (h.mem_chain (entryAt?_eq_some hnode) _).2 rfl
  exact h.chained.lt_size ((h.chained.leads _).next_mem hmem hnode hnext)

/-! ## Regular tables -/

variable [DecidableEq K] [DecidableEq V]

/-- **A regular table.** -/
structure Regular (t : Table K V) : Prop where
  /-- The capacity is a power of two. -/
  power : ∃ n, t.capacity = 2 ^ n
  /-- The links from each bucket on end. -/
  leads : ∀ b, Leads t.nodes (t.head b) (t.chain b)
  /-- The chains of all buckets, one after the other, meet every place of
  the arena, and each once. -/
  perm : ((List.range t.capacity).flatMap t.chain).Perm (List.range t.size)
  /-- No bucket leads out of the arena. -/
  head_lt : ∀ {b i : ℕ}, t.head b = some i → i < t.size
  /-- No node does. -/
  next_lt : ∀ {i j : ℕ} {node : Node K V}, t.nodes[i]? = some node → node.next = some j →
    j < t.size
  /-- A node is met in the bucket that the hash of its key leaves modulo the
  capacity, and in no other. -/
  mem_chain : ∀ {i : ℕ} {node : Node K V}, t.nodes[i]? = some node →
    ∀ b, i ∈ t.chain b ↔ b = (t.hash node.key).toNat % t.capacity
  /-- No two nodes have the same key. -/
  distinct : ∀ {i j : ℕ} {m n : Node K V}, t.nodes[i]? = some m → t.nodes[j]? = some n →
    m.key = n.key → i = j
  /-- No key is blank. -/
  unblank : ∀ {i : ℕ} {node : Node K V}, t.nodes[i]? = some node →
    TableKey.isBlank node.key = false
  /-- Every call ends and keeps to the places that there are, and growing
  takes no node a second time. -/
  checked_call : ∀ c : Call K V, (∀ other, c = .putAll other → other.Reachable) →
    c.checked t = Part.some (t.call c)
  /-- So does every step of a walk. -/
  checked_step : ∀ n,
    t.step? (t.skip n t.start) = Part.some (t.step (t.skip n t.start))
  /-- To take a node out, the link to it is looked for and found. -/
  findsLink : ∀ {i : ℕ} {node : Node K V}, t.nodes[i]? = some node →
    t.FindsLink (t.slot node.key) i
  /-- Then the link to the last node is, if that is another one. -/
  findsLink_last : ∀ {i : ℕ} {node final : Node K V}, t.nodes[i]? = some node →
    t.nodes[t.nodes.size - 1]? = some final → i ≠ t.nodes.size - 1 →
      (t.relink (t.slot node.key) i node.next).FindsLink (t.slot final.key) (t.nodes.size - 1)

/-- **Every table that can come about is regular.** -/
theorem regular_of_reachable (h : t.Reachable) : t.Regular where
  power := h.sound.power
  leads := h.sound.chained.leads
  perm := h.sound.indices_perm
  head_lt := by
    intro b i hhead
    have hleads := h.sound.chained.leads b
    rw [hhead] at hleads
    exact h.sound.chained.lt_size hleads.start_mem
  next_lt := h.sound.lt_of_next
  mem_chain hnode b := (h.sound.mem_chain (entryAt?_eq_some hnode) b).trans eq_comm
  distinct hm hn hkey := h.sound.distinct (entryAt?_eq_some hm) (entryAt?_eq_some hn) hkey
  unblank hnode := h.sound.unblank (entryAt?_eq_some hnode)
  checked_call c hothers := h.sound.checked_call fun other ho => (hothers other ho).sound
  checked_step n := (h.sound.ahead_start.skip h.sound.chained n).step?_eq h.sound.chained
  findsLink := h.sound.findsLink
  findsLink_last := h.sound.findsLink_last

/-- What is left of four entries of one chain, after one was removed by its
key and one through a cursor of another table. -/
def crossed : Table ℤ ℕ :=
  (empty (fun _ => 0) 2).after
    [.put 1 10, .put 2 20, .put 3 30, .put 4 40, .remove 1, .removeAt strayCursor]

/-- The table has grown twice, and its chain does not go by the order of the
arena. The node that the cursor removed was the first of its chain and led
to the last node of the arena. -/
theorem regular_of_reachable_crossed :
    crossed.Regular ∧ crossed.capacity = 8 ∧ crossed.chain 0 = [1, 0] ∧
      crossed.entries = [(3, 30), (4, 40)] := by
  have hcreate : create (fun _ : ℤ => 0) 2 = .ok (empty (fun _ => 0) 2 : Table ℤ ℕ) := rfl
  refine ⟨regular_of_reachable ?_, by decide, by decide, by decide⟩
  exact ((((((Reachable.create hcreate).call (c := .put 1 10) nofun).call (c := .put 2 20)
    nofun).call (c := .put 3 30) nofun).call (c := .put 4 40) nofun).call (c := .remove 1)
    nofun).call (c := .removeAt strayCursor) nofun

end Table

end Cardfile
