import Cardfile.Proofs.Table.Links
import Cardfile.Proofs.Table.Ledger
import Mathlib.Data.List.Perm.Subperm
import Mathlib.Algebra.Group.Nat.Defs
/-!
# Table — the representation

`Sound` is what every operation keeps: the chains share out the arena,
each node lies in the bucket of its key, and keys are neither blank nor
repeated. `Holds` relates a sound table to the ledger of its entries: a
bucket holds the ledger's entries of that bucket, in the ledger's order.
All that can be read off a table follows from these two (`get?_eq`,
`entries_eq`, `size_eq`).

Both speak of a node through `entryAt?` only, so a change of links that
leaves the entries where they are has nothing to show for them.
-/

namespace Cardfile

variable {K V : Type}

namespace Table

variable {t : Table K V}

/-! ## Chains -/

/-- A list without repetition below `n` has at most `n` members. -/
theorem length_le_of_nodup {is : List ℕ} {n : ℕ} (hnd : is.Nodup) (h : ∀ i ∈ is, i < n) :
    is.length ≤ n := by
  have hsub : is.Subperm (List.range n) :=
    hnd.subperm fun i hi => List.mem_range.2 (h i hi)
  simpa using hsub.length_le

/-- **The chains of the table are these**: links lead through them, and
no node is met twice. -/
structure Chained (t : Table K V) (cs : ℕ → List ℕ) : Prop where
  leads : ∀ b, Leads t.nodes (t.head b) (cs b)
  nodup : ∀ b, (cs b).Nodup
  disjoint : ∀ {b c i}, i ∈ cs b → i ∈ cs c → b = c

namespace Chained

variable {cs : ℕ → List ℕ}

theorem lt_size (h : t.Chained cs) {b i : ℕ} (hi : i ∈ cs b) : i < t.nodes.size := by
  obtain ⟨node, hnode⟩ := (h.leads b).exists_node hi
  exact (Array.getElem?_eq_some_iff.1 hnode).1

/-- The fuel of `chain` is enough. -/
theorem chain_eq (h : t.Chained cs) : t.chain = cs := by
  funext b
  exact (h.leads b).follow_eq (length_le_of_nodup (h.nodup b) fun _ hi => h.lt_size hi)

end Chained

/-- There is no chain past the last bucket. -/
theorem head_of_le {b : ℕ} (h : t.capacity ≤ b) : t.head b = none := by
  have : t.buckets[b]? = none := Array.getElem?_eq_none h
  rw [head, this]
  rfl

theorem chain_of_le {b : ℕ} (h : t.capacity ≤ b) : t.chain b = [] := by
  rw [chain, head_of_le h]
  cases t.nodes.size <;> rfl

/-! ## Entries -/

theorem entryAt?_eq_some {i : ℕ} {node : Node K V} (h : t.nodes[i]? = some node) :
    t.entryAt? i = some (node.key, node.value) := by
  rw [entryAt?, h]
  rfl

/-- There is an entry at every place of the arena. -/
theorem exists_entryAt? {i : ℕ} : (∃ e, t.entryAt? i = some e) ↔ i < t.nodes.size := by
  simp only [entryAt?, Option.map_eq_some_iff, Array.getElem?_eq_some_iff]
  constructor
  · rintro ⟨_, _, ⟨hi, -⟩, -⟩
    exact hi
  · intro hi
    exact ⟨_, _, ⟨hi, rfl⟩, rfl⟩

/-- The entries of a bucket, in the order of its chain. -/
def bucket (t : Table K V) (b : ℕ) : List (K × V) := (t.chain b).filterMap t.entryAt?

theorem bucket_of_le {b : ℕ} (h : t.capacity ≤ b) : t.bucket b = [] := by
  rw [bucket, chain_of_le h]
  rfl

/-- The traversal is the buckets one after the other. -/
theorem entries_eq_flatMap : t.entries = (List.range t.capacity).flatMap t.bucket := by
  rw [entries, indices, List.filterMap_flatMap]
  rfl

/-- A look-up reads the bucket of its key and nothing else. -/
theorem get?_eq_find?_bucket [DecidableEq K] (k : K) :
    t.get? k = ((t.bucket (t.slot k)).find? fun e => e.1 = k).map Prod.snd := by
  have hany : (fun i => (t.entryAt? i).any fun e => decide (e.1 = k)) =
      fun i => t.nodes[i]?.any fun node => decide (node.key = k) := by
    funext i
    rw [entryAt?]
    cases t.nodes[i]? <;> rfl
  rw [get?, find?, bucket, List.find?_filterMap, hany, Option.map_bind]
  congr 1
  funext i
  simp only [entryAt?, Function.comp, Option.map_map]
  rfl

/-! ## Sound tables -/

variable [TableKey K]

/-- **What every operation keeps.** -/
structure Sound (t : Table K V) : Prop where
  /-- The capacity is a power of two. -/
  power : ∃ n, t.capacity = 2 ^ n
  /-- The links of each bucket end, and no node is met twice. -/
  chained : t.Chained t.chain
  /-- A node lies in the chain of its key's bucket and in no other. -/
  mem_chain : ∀ {i : ℕ} {e : K × V}, t.entryAt? i = some e →
    ∀ b, i ∈ t.chain b ↔ t.slot e.1 = b
  /-- No two nodes have the same key. -/
  distinct : ∀ {i j : ℕ} {e e' : K × V}, t.entryAt? i = some e → t.entryAt? j = some e' →
    e.1 = e'.1 → i = j
  /-- No key is blank. -/
  unblank : ∀ {i : ℕ} {e : K × V}, t.entryAt? i = some e → TableKey.isBlank e.1 = false

namespace Sound

/-- Chains that lie as they should are the table's own. -/
theorem of_chained {cs : ℕ → List ℕ} (hp : ∃ n, t.capacity = 2 ^ n) (hc : t.Chained cs)
    (hmem : ∀ {i : ℕ} {e : K × V}, t.entryAt? i = some e → ∀ b, i ∈ cs b ↔ t.slot e.1 = b)
    (hdist : ∀ {i j : ℕ} {e e' : K × V}, t.entryAt? i = some e → t.entryAt? j = some e' →
      e.1 = e'.1 → i = j)
    (hblank : ∀ {i : ℕ} {e : K × V}, t.entryAt? i = some e → TableKey.isBlank e.1 = false) :
    t.Sound where
  power := hp
  chained := by
    rw [hc.chain_eq]
    exact hc
  mem_chain := by
    rw [hc.chain_eq]
    exact hmem
  distinct := hdist
  unblank := hblank

variable (h : t.Sound)

include h

theorem capacity_pos : 0 < t.capacity := by
  obtain ⟨n, hn⟩ := h.power
  rw [hn]
  exact Nat.two_pow_pos n

theorem slot_lt (k : K) : t.slot k < t.capacity := Nat.mod_lt _ h.capacity_pos

/-- A node is met in one bucket. -/
theorem mem_indices {i : ℕ} : i ∈ t.indices ↔ i < t.nodes.size := by
  simp only [indices, List.mem_flatMap, List.mem_range]
  constructor
  · rintro ⟨b, -, hi⟩
    exact h.chained.lt_size hi
  · intro hi
    obtain ⟨e, he⟩ := exists_entryAt?.2 hi
    exact ⟨t.slot e.1, h.slot_lt _, (h.mem_chain he _).2 rfl⟩

theorem indices_nodup : t.indices.Nodup := by
  rw [indices, List.nodup_flatMap]
  refine ⟨fun b _ => h.chained.nodup b, List.nodup_range.imp ?_⟩
  intro b c hbc i hb hc
  exact hbc (h.chained.disjoint hb hc)

/-- **The chains share out the arena.** -/
theorem indices_perm : t.indices.Perm (List.range t.nodes.size) := by
  rw [List.perm_ext_iff_of_nodup h.indices_nodup List.nodup_range]
  intro i
  rw [h.mem_indices, List.mem_range]

/-- Every node has its entry in the traversal. -/
theorem length_entries : t.entries.length = t.size := by
  have hall : t.entries.length = t.indices.length := by
    rw [entries, List.filterMap_length_eq_length]
    intro i hi
    obtain ⟨e, he⟩ := exists_entryAt?.2 (h.mem_indices.1 hi)
    rw [he]
    rfl
  rw [hall, h.indices_perm.length_eq, List.length_range, size]

/-- The entries of a bucket have keys that belong to it. -/
theorem slot_of_mem_bucket {b : ℕ} {e : K × V} (he : e ∈ t.bucket b) : t.slot e.1 = b := by
  obtain ⟨i, hi, hie⟩ := List.mem_filterMap.1 he
  exact (h.mem_chain hie b).1 hi

/-- **No key is met twice.** -/
theorem keys_nodup : (t.entries.map Prod.fst).Nodup := by
  rw [entries, List.map_filterMap]
  refine List.Nodup.filterMap ?_ h.indices_nodup
  intro i j k hi hj
  obtain ⟨e, he, hek⟩ := Option.map_eq_some_iff.1 hi
  obtain ⟨e', he', hek'⟩ := Option.map_eq_some_iff.1 hj
  exact h.distinct he he' (hek.trans hek'.symm)

/-- **A key is found where its entry is.** -/
theorem find?_eq_some [DecidableEq K] {k : K} {i : ℕ} :
    t.find? k = some i ↔ ∃ v, t.entryAt? i = some (k, v) := by
  have hany : ∀ {j : ℕ}, (t.nodes[j]?.any fun node => decide (node.key = k)) = true ↔
      ∃ v, t.entryAt? j = some (k, v) := by
    intro j
    rw [entryAt?]
    cases t.nodes[j]? with
    | none => simp
    | some node => simp [eq_comm]
  have hsome : ∀ {j : ℕ}, t.find? k = some j → ∃ v, t.entryAt? j = some (k, v) := by
    intro j hj
    rw [find?] at hj
    have htrue := List.find?_some hj
    exact hany.1 htrue
  constructor
  · exact hsome
  · rintro ⟨v, hi⟩
    have hmem : i ∈ t.chain (t.slot k) := (h.mem_chain hi _).2 rfl
    cases hfind : t.find? k with
    | none => exact absurd (hany.2 ⟨v, hi⟩) (List.find?_eq_none.1 hfind i hmem)
    | some j =>
      obtain ⟨w, hj⟩ := hsome hfind
      rw [h.distinct hj hi rfl]

theorem get?_eq_some [DecidableEq K] {k : K} {v : V} :
    t.get? k = some v ↔ ∃ i, t.entryAt? i = some (k, v) := by
  have hvalue : ∀ {i : ℕ} {w : V}, t.entryAt? i = some (k, w) →
      t.nodes[i]?.map Node.value = some w := by
    intro i w hi
    have hsnd := congrArg (Option.map Prod.snd) hi
    rwa [entryAt?, Option.map_map] at hsnd
  constructor
  · intro hget
    obtain ⟨i, hfind, hi⟩ := Option.bind_eq_some_iff.1 hget
    obtain ⟨w, hw⟩ := h.find?_eq_some.1 hfind
    rw [hvalue hw] at hi
    cases hi
    exact ⟨i, hw⟩
  · rintro ⟨i, hi⟩
    rw [get?, h.find?_eq_some.2 ⟨v, hi⟩, Option.bind_some, hvalue hi]

/-- A key without a value is at no place of the arena. -/
theorem get?_eq_none [DecidableEq K] {k : K} :
    t.get? k = none ↔ ∀ i v, t.entryAt? i ≠ some (k, v) := by
  rw [Option.eq_none_iff_forall_ne_some]
  simp only [ne_eq, h.get?_eq_some, not_exists]
  exact forall_comm

theorem find?_eq_none [DecidableEq K] {k : K} : t.find? k = none ↔ t.get? k = none := by
  rw [h.get?_eq_none, Option.eq_none_iff_forall_ne_some]
  simp only [ne_eq, h.find?_eq_some, not_exists]

end Sound

/-! ## What a table holds -/

/-- **The table holds the ledger's entries**, those of a bucket in the
order of the ledger. -/
structure Holds (t : Table K V) (l : Ledger K V) : Prop where
  sound : t.Sound
  bucket_eq : ∀ b, t.bucket b = l.entries.filter fun e => t.slot e.1 == b

/-- A sound table holds its own traversal. -/
theorem Sound.holds (h : t.Sound) : t.Holds ⟨t.entries⟩ where
  sound := h
  bucket_eq b := by
    have hself : (t.bucket b).filter (fun e => t.slot e.1 == b) = t.bucket b :=
      List.filter_eq_self.2 fun e he => beq_iff_eq.2 (h.slot_of_mem_bucket he)
    rcases Nat.lt_or_ge b t.capacity with hb | hb
    · rw [entries_eq_flatMap, Ledger.filter_flatMap_range hb, hself]
      intro c e he hslot
      exact (h.slot_of_mem_bucket he).symm.trans (beq_iff_eq.1 hslot)
    · rw [bucket_of_le hb, eq_comm, List.filter_eq_nil_iff]
      intro e _ hslot
      have := h.slot_lt e.1
      rw [beq_iff_eq.1 hslot] at this
      omega

namespace Holds

variable {l : Ledger K V} (h : t.Holds l)

include h

/-- **The traversal is the ledger's, bucket by bucket.** -/
theorem entries_eq : t.entries = l.inBuckets t.hash t.capacity := by
  rw [entries_eq_flatMap, Ledger.inBuckets]
  congr 1
  funext b
  exact h.bucket_eq b

theorem entries_perm : t.entries.Perm l.entries := by
  rw [h.entries_eq]
  exact Ledger.inBuckets_perm t.hash h.sound.capacity_pos l

theorem size_eq : t.size = l.size := by
  rw [← h.sound.length_entries, h.entries_perm.length_eq, Ledger.size]

theorem keys_nodup : l.keys.Nodup :=
  (h.entries_perm.map Prod.fst).nodup_iff.1 h.sound.keys_nodup

/-- **A look-up answers what the ledger says.** -/
theorem get?_eq [DecidableEq K] (k : K) : t.get? k = l.get? k := by
  rw [get?_eq_find?_bucket, h.bucket_eq, List.find?_filter, Ledger.get?]
  congr 2
  funext e
  by_cases he : e.1 = k <;> simp [he]

/-- No key that is held is blank. -/
theorem unblank {e : K × V} (he : e ∈ l.entries) : TableKey.isBlank e.1 = false := by
  rw [← h.entries_perm.mem_iff] at he
  obtain ⟨i, -, hie⟩ := List.mem_filterMap.1 he
  exact h.sound.unblank hie

omit h in
/-- A table of keys with their places finds each key at its place. -/
theorem get?_zipIdx [DecidableEq K] {places : Table K ℕ} {keys : List K}
    (h : places.Holds ⟨keys.zipIdx⟩) {k : K} {i : ℕ} :
    places.get? k = some i ↔ keys[i]? = some k := by
  rw [h.get?_eq, Ledger.get?_eq_some h.keys_nodup, List.mk_mem_zipIdx_iff_getElem?]

end Holds

end Table

end Cardfile
