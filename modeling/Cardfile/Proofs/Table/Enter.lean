import Cardfile.Proofs.Table.Sound
/-!
# Table — entering

A key that is entered comes last in its bucket (`bucket_linkTail`), a
value that is replaced stays where it is (`bucket_replaced`), and growing
keeps what the table holds (`Holds.grown`): the traversal it enters again
meets the entries of a new bucket in one old bucket, because the old
capacity divides the new one.
-/

namespace Cardfile

namespace Table

variable {K V : Type} {t : Table K V}

/-! ## Fields and entries -/

@[simp] theorem hash_linkTail (k : K) (v : V) : (t.linkTail k v).hash = t.hash := by
  unfold linkTail
  cases (t.chain (t.slot k)).getLast? <;> rfl

@[simp] theorem generation_linkTail (k : K) (v : V) :
    (t.linkTail k v).generation = t.generation := by
  unfold linkTail
  cases (t.chain (t.slot k)).getLast? <;> rfl

@[simp] theorem capacity_linkTail (k : K) (v : V) : (t.linkTail k v).capacity = t.capacity := by
  unfold linkTail
  cases (t.chain (t.slot k)).getLast? with
  | none => exact Array.size_setIfInBounds
  | some tail => rfl

@[simp] theorem slot_linkTail (k : K) (v : V) : (t.linkTail k v).slot = t.slot := by
  funext k'
  simp [slot]

/-- The arena has one node more, and the others keep their entries. -/
theorem entryAt?_linkTail (k : K) (v : V) (i : ℕ) :
    (t.linkTail k v).entryAt? i = if i = t.nodes.size then some (k, v) else t.entryAt? i := by
  have hpush : (t.nodes.push ⟨k, v, none⟩)[i]?.map (fun node => (node.key, node.value)) =
      if i = t.nodes.size then some (k, v) else t.entryAt? i := by
    rw [Array.getElem?_push]
    split_ifs <;> rfl
  unfold linkTail
  cases (t.chain (t.slot k)).getLast? with
  | none => exact hpush
  | some tail =>
    rw [← hpush]
    simp only [entryAt?, Array.getElem?_modify]
    split_ifs
    · rw [Option.map_map]
      rfl
    · rfl

/-- Entering entries one after the other changes only buckets and arena. -/
theorem foldl_linkTail_fields (es : List (K × V)) (t : Table K V) :
    (es.foldl (fun t e => t.linkTail e.1 e.2) t).hash = t.hash ∧
      (es.foldl (fun t e => t.linkTail e.1 e.2) t).capacity = t.capacity ∧
      (es.foldl (fun t e => t.linkTail e.1 e.2) t).generation = t.generation := by
  induction es generalizing t with
  | nil => exact ⟨rfl, rfl, rfl⟩
  | cons e es ih =>
    have := ih (t.linkTail e.1 e.2)
    simpa using this

@[simp] theorem hash_grown : t.grown.hash = t.hash := (foldl_linkTail_fields _ _).1

@[simp] theorem capacity_grown : t.grown.capacity = 2 * t.capacity := by
  rw [grown, (foldl_linkTail_fields _ _).2.1]
  exact Array.size_replicate

@[simp] theorem generation_grown : t.grown.generation = t.generation :=
  (foldl_linkTail_fields _ _).2.2

/-- The table with another value at a place. -/
def replaced (t : Table K V) (i : ℕ) (v : V) : Table K V :=
  { t with nodes := t.nodes.modify i fun node => { node with value := v } }

theorem entryAt?_replaced (i : ℕ) (v : V) (j : ℕ) :
    (t.replaced i v).entryAt? j =
      if j = i then (t.entryAt? j).map fun e => (e.1, v) else t.entryAt? j := by
  simp only [entryAt?, replaced, Array.getElem?_modify]
  by_cases hj : i = j
  · rw [if_pos hj, if_pos hj.symm, Option.map_map, Option.map_map]
    rfl
  · rw [if_neg hj, if_neg (Ne.symm hj)]

/-- The least power of two is a power of two. -/
theorem leastPower_eq (n : ℕ) : ∃ m, leastPower n = 2 ^ m := by
  unfold leastPower
  split_ifs
  · exact ⟨0, rfl⟩
  · exact ⟨_, rfl⟩

section Chains

variable [TableKey K]

/-! ## The end of a chain -/

omit [TableKey K] in
/-- Entering a key gives the last node of its chain a link to the new
node, and no other node another link. -/
theorem getElem?_linkTail (k : K) (v : V) {i : ℕ} {node : Node K V}
    (hnode : t.nodes[i]? = some node) :
    (t.linkTail k v).nodes[i]? =
      some (if (t.chain (t.slot k)).getLast? = some i
        then { node with next := some t.nodes.size } else node) := by
  have hi := (Array.getElem?_eq_some_iff.1 hnode).1
  have hkeep : (t.nodes.push ⟨k, v, none⟩)[i]? = some node := by
    rw [Array.getElem?_push, if_neg (Nat.ne_of_lt hi), hnode]
  unfold linkTail
  cases (t.chain (t.slot k)).getLast? with
  | none => simpa using hkeep
  | some tail =>
    simp only [Array.getElem?_modify, Option.some.injEq, hkeep]
    split_ifs <;> rfl

theorem Sound.getElem?_linkTail_new (h : t.Sound) (k : K) (v : V) :
    (t.linkTail k v).nodes[t.nodes.size]? = some ⟨k, v, none⟩ := by
  have hnew : (t.nodes.push ⟨k, v, none⟩)[t.nodes.size]? = some ⟨k, v, none⟩ :=
    Array.getElem?_push_size
  unfold linkTail
  cases hlast : (t.chain (t.slot k)).getLast? with
  | none => exact hnew
  | some tail =>
    have htail := h.chained.lt_size (List.mem_of_getLast? hlast)
    simp only [Array.getElem?_modify, if_neg (Nat.ne_of_lt htail), hnew]

/-- A bucket without a chain points at the new node. -/
theorem Sound.head_linkTail (h : t.Sound) (k : K) (v : V) (b : ℕ) :
    (t.linkTail k v).head b =
      if b = t.slot k ∧ t.chain b = [] then some t.nodes.size else t.head b := by
  have hslot : t.slot k < t.buckets.size := h.slot_lt k
  unfold linkTail
  cases hlast : (t.chain (t.slot k)).getLast? with
  | none =>
    have hempty : t.chain (t.slot k) = [] := List.getLast?_eq_none_iff.1 hlast
    by_cases hb : b = t.slot k
    · subst hb
      have hhead : (t.buckets.setIfInBounds (t.slot k) (some t.nodes.size))[t.slot k]? =
          some (some t.nodes.size) := Array.getElem?_setIfInBounds_self_of_lt hslot
      rw [if_pos ⟨rfl, hempty⟩, head, hhead]
      rfl
    · have hhead : (t.buckets.setIfInBounds (t.slot k) (some t.nodes.size))[b]? =
          t.buckets[b]? := Array.getElem?_setIfInBounds_ne (Ne.symm hb)
      rw [if_neg fun hb' => hb hb'.1, head, hhead, head]
  | some tail =>
    have hne : ¬ (b = t.slot k ∧ t.chain b = []) := by
      rintro ⟨rfl, hempty⟩
      rw [hempty] at hlast
      cases hlast
    rw [if_neg hne]
    rfl

/-- **The chain of the key's bucket leads on to the new node.** -/
theorem Sound.leads_linkTail_slot (h : t.Sound) (k : K) (v : V) :
    Leads (t.linkTail k v).nodes ((t.linkTail k v).head (t.slot k))
      (t.chain (t.slot k) ++ [t.nodes.size]) := by
  have hnew := h.getElem?_linkTail_new k v
  rw [h.head_linkTail]
  rcases List.eq_nil_or_concat' (t.chain (t.slot k)) with hempty | ⟨front, tail, hfront⟩
  · rw [if_pos ⟨rfl, hempty⟩, hempty]
    exact .step hnew .stop
  · -- the last node of the chain now points at the new one, and no other does
    have hleads := h.chained.leads (t.slot k)
    have hnd := h.chained.nodup (t.slot k)
    have hlast : (t.chain (t.slot k)).getLast? = some tail := by
      rw [hfront, List.getLast?_concat]
    rw [if_neg fun hempty => by simp [hfront] at hempty]
    rw [hfront] at hleads hnd ⊢
    obtain ⟨node, hnode⟩ :=
      hleads.exists_node (List.mem_append_right _ (List.mem_singleton_self _))
    refine hleads.concat hnd hnew rfl ⟨_, getElem?_linkTail k v hnode, ?_⟩ ?_
    · rw [if_pos hlast]
    · intro i hi node hnode
      have hne : tail ≠ i := by
        rintro rfl
        exact List.disjoint_of_nodup_append hnd hi (List.mem_singleton_self _)
      refine ⟨_, getElem?_linkTail k v hnode, ?_⟩
      rw [hlast, if_neg fun he => hne (Option.some.inj he)]

/-- The other chains stay as they are. -/
theorem Sound.leads_linkTail_of_ne (h : t.Sound) {k : K} (v : V) {b : ℕ} (hb : b ≠ t.slot k) :
    Leads (t.linkTail k v).nodes ((t.linkTail k v).head b) (t.chain b) := by
  rw [h.head_linkTail, if_neg fun hb' => hb hb'.1]
  refine (h.chained.leads b).congr fun i hi node hnode => ⟨_, getElem?_linkTail k v hnode, ?_⟩
  rw [if_neg fun hlast => hb (h.chained.disjoint hi (List.mem_of_getLast? hlast))]

omit [TableKey K] in
/-- What is met once a node was added to one chain. -/
theorem mem_chain_or_new {s b i : ℕ} :
    (i ∈ if b = s then t.chain b ++ [t.nodes.size] else t.chain b) ↔
      i ∈ t.chain b ∨ b = s ∧ i = t.nodes.size := by
  split_ifs with hb <;> simp [hb]

/-- **The new node comes last in its chain.** -/
theorem Sound.chained_linkTail (h : t.Sound) (k : K) (v : V) :
    (t.linkTail k v).Chained
      fun b => if b = t.slot k then t.chain b ++ [t.nodes.size] else t.chain b where
  leads b := by
    split_ifs with hb
    · rw [hb]
      exact h.leads_linkTail_slot k v
    · exact h.leads_linkTail_of_ne v hb
  nodup b := by
    split_ifs
    · refine List.nodup_append.2 ⟨h.chained.nodup b, List.nodup_singleton _, ?_⟩
      intro i hi j hj
      have := h.chained.lt_size hi
      have := List.mem_singleton.1 hj
      omega
    · exact h.chained.nodup b
  disjoint := by
    intro b c i hb hc
    rcases mem_chain_or_new.1 hb with hb | ⟨rfl, rfl⟩
    · rcases mem_chain_or_new.1 hc with hc | ⟨-, rfl⟩
      · exact h.chained.disjoint hb hc
      · exact absurd (h.chained.lt_size hb) (Nat.lt_irrefl _)
    · rcases mem_chain_or_new.1 hc with hc | ⟨rfl, -⟩
      · exact absurd (h.chained.lt_size hc) (Nat.lt_irrefl _)
      · rfl

theorem Sound.chain_linkTail (h : t.Sound) (k : K) (v : V) (b : ℕ) :
    (t.linkTail k v).chain b =
      if b = t.slot k then t.chain b ++ [t.nodes.size] else t.chain b :=
  congrFun (h.chained_linkTail k v).chain_eq b

/-- So its entry comes last in its bucket. -/
theorem Sound.bucket_linkTail (h : t.Sound) (k : K) (v : V) (b : ℕ) :
    (t.linkTail k v).bucket b =
      if b = t.slot k then t.bucket b ++ [(k, v)] else t.bucket b := by
  have hold : (t.chain b).filterMap (t.linkTail k v).entryAt? = t.bucket b := by
    refine List.filterMap_congr fun i hi => ?_
    have := h.chained.lt_size hi
    rw [entryAt?_linkTail, if_neg (by omega)]
  rw [bucket, h.chain_linkTail]
  split_ifs
  · rw [List.filterMap_append, hold]
    simp [entryAt?_linkTail]
  · exact hold

/-- Entering a fresh key keeps a table sound. -/
theorem Sound.linkTail (h : t.Sound) {k : K} (hk : ∀ i v, t.entryAt? i ≠ some (k, v))
    (hblank : TableKey.isBlank k = false) (v : V) : (t.linkTail k v).Sound := by
  refine .of_chained ?_ (h.chained_linkTail k v) ?_ ?_ ?_
  · rw [capacity_linkTail]
    exact h.power
  · intro i e he b
    rw [entryAt?_linkTail] at he
    rw [slot_linkTail, mem_chain_or_new]
    split_ifs at he with hi
    · cases he
      subst hi
      have hfresh : t.nodes.size ∉ t.chain b := fun hmem =>
        absurd (h.chained.lt_size hmem) (Nat.lt_irrefl _)
      simp [hfresh, eq_comm]
    · simp [h.mem_chain he b, hi]
  · intro i j e e' he he' hee
    rw [entryAt?_linkTail] at he he'
    split_ifs at he he' with hi hj hj
    · rw [hi, hj]
    · cases he
      obtain ⟨k', v'⟩ := e'
      cases hee
      exact absurd he' (hk j v')
    · cases he'
      obtain ⟨k', v'⟩ := e
      cases hee
      exact absurd he (hk i v')
    · exact h.distinct he he' hee
  · intro i e he
    rw [entryAt?_linkTail] at he
    split_ifs at he
    · cases he
      exact hblank
    · exact h.unblank he

/-- **A fresh key is entered last.** -/
theorem Holds.linkTail [DecidableEq K] {l : Ledger K V} (h : t.Holds l) {k : K}
    (hk : l.get? k = none) (hblank : TableKey.isBlank k = false) (v : V) :
    (t.linkTail k v).Holds (l.append k v) where
  sound := h.sound.linkTail (h.sound.get?_eq_none.1 ((h.get?_eq k).trans hk)) hblank v
  bucket_eq b := by
    rw [h.sound.bucket_linkTail, slot_linkTail, h.bucket_eq, Ledger.append, List.filter_append]
    split_ifs with hb
    · rw [List.filter_cons_of_pos (by simpa using hb.symm), List.filter_nil]
    · rw [List.filter_cons_of_neg (by simpa using Ne.symm hb), List.filter_nil, List.append_nil]

/-! ## A value that is replaced -/

omit [TableKey K] in
/-- No link moves. -/
theorem leads_replaced {start : Option ℕ} {is : List ℕ} (h : Leads t.nodes start is) (i : ℕ)
    (v : V) : Leads (t.replaced i v).nodes start is := by
  refine h.congr fun j _ node hnode => ?_
  by_cases hj : i = j
  · exact ⟨{ node with value := v }, by simp [replaced, Array.getElem?_modify, hj, hnode], rfl⟩
  · exact ⟨node, by simp [replaced, Array.getElem?_modify, hj, hnode], rfl⟩

theorem Sound.chained_replaced (h : t.Sound) (i : ℕ) (v : V) :
    (t.replaced i v).Chained t.chain where
  leads b := leads_replaced (h.chained.leads b) i v
  nodup := h.chained.nodup
  disjoint := h.chained.disjoint

omit [TableKey K] in
/-- No key changes. -/
theorem exists_entryAt?_of_replaced {i j : ℕ} {v : V} {e : K × V}
    (he : (t.replaced i v).entryAt? j = some e) : ∃ v', t.entryAt? j = some (e.1, v') := by
  rw [entryAt?_replaced] at he
  split_ifs at he with hj
  · obtain ⟨e', he', rfl⟩ := Option.map_eq_some_iff.1 he
    exact ⟨e'.2, he'⟩
  · exact ⟨e.2, he⟩

/-- Replacing a value keeps a table sound. -/
theorem Sound.replaced (h : t.Sound) (i : ℕ) (v : V) : (t.replaced i v).Sound := by
  refine .of_chained h.power (h.chained_replaced i v) ?_ ?_ ?_
  · intro j e he b
    obtain ⟨v', hv'⟩ := exists_entryAt?_of_replaced he
    exact h.mem_chain hv' b
  · intro j j' e e' he he' hee
    obtain ⟨v₁, hv₁⟩ := exists_entryAt?_of_replaced he
    obtain ⟨v₂, hv₂⟩ := exists_entryAt?_of_replaced he'
    exact h.distinct hv₁ hv₂ hee
  · intro j e he
    obtain ⟨v', hv'⟩ := exists_entryAt?_of_replaced he
    exact h.unblank (e := (e.1, v')) hv'

section Value

variable [DecidableEq K] {k : K} {i : ℕ} {w : V}

/-- The entry with the key has the new value in its place. -/
theorem Sound.bucket_replaced (h : t.Sound) (hi : t.entryAt? i = some (k, w)) (v : V) (b : ℕ) :
    (t.replaced i v).bucket b = (t.bucket b).map fun e => if e.1 = k then (k, v) else e := by
  rw [bucket, (h.chained_replaced i v).chain_eq, bucket, List.map_filterMap]
  refine List.filterMap_congr fun j _ => ?_
  rw [entryAt?_replaced]
  split_ifs with hj
  · rw [hj, hi]
    simp
  · cases he : t.entryAt? j with
    | none => rfl
    | some e =>
      have hne : e.1 ≠ k := fun hk => hj (h.distinct he hi hk)
      simp [hne]

theorem Sound.entries_replaced (h : t.Sound) (hi : t.entryAt? i = some (k, w)) (v : V) :
    (t.replaced i v).entries = t.entries.map fun e => if e.1 = k then (k, v) else e := by
  rw [entries_eq_flatMap, entries_eq_flatMap, List.map_flatMap]
  congr 1
  funext b
  exact h.bucket_replaced hi v b

/-- **A value is replaced where its key stands.** -/
theorem Holds.replaced {l : Ledger K V} (h : t.Holds l) (hi : t.entryAt? i = some (k, w))
    (v : V) : (t.replaced i v).Holds (l.replace k v) where
  sound := h.sound.replaced i v
  bucket_eq b := by
    have hslot : (t.replaced i v).slot = t.slot := rfl
    rw [h.sound.bucket_replaced hi, h.bucket_eq, Ledger.replace, List.filter_map, hslot]
    congr 1
    refine List.filter_congr fun e _ => ?_
    rw [Function.comp]
    split_ifs with hk
    · rw [hk]
    · rfl

end Value

/-! ## Tables without entries -/

/-- A table whose buckets and arena are empty holds nothing. -/
theorem Holds.of_empty (hnodes : t.nodes = #[]) {n : ℕ}
    (hbuckets : t.buckets = Array.replicate (2 ^ n) none) : t.Holds .empty := by
  have hhead : ∀ b, t.head b = none := by
    intro b
    rw [head, hbuckets, Array.getElem?_replicate]
    split_ifs <;> rfl
  have hentry : ∀ i, t.entryAt? i = none := by
    intro i
    rw [entryAt?, hnodes]
    rfl
  have hc : t.Chained fun _ => [] := by
    refine ⟨fun b => ?_, fun _ => List.nodup_nil, fun hb _ => absurd hb List.not_mem_nil⟩
    rw [hhead]
    exact .stop
  refine ⟨.of_chained ⟨n, ?_⟩ hc ?_ ?_ ?_, ?_⟩
  · rw [capacity, hbuckets, Array.size_replicate]
  · intro i e he
    rw [hentry] at he
    cases he
  · intro i j e e' he
    rw [hentry] at he
    cases he
  · intro i e he
    rw [hentry] at he
    cases he
  · intro b
    rw [bucket, hc.chain_eq]
    rfl

theorem holds_empty (hash : K → UInt64) (n : ℕ) :
    (empty hash (leastPower n) : Table K V).Holds .empty := by
  obtain ⟨m, hm⟩ := leastPower_eq n
  exact .of_empty rfl (congrArg (Array.replicate · none) hm)

theorem Sound.holds_clear (h : t.Sound) : t.clear.Holds .empty := by
  obtain ⟨n, hn⟩ := h.power
  exact .of_empty rfl (congrArg (Array.replicate · none) hn)

theorem Holds.touched {l : Ledger K V} (h : t.Holds l) : t.touched.Holds l where
  sound := {
    power := h.sound.power
    chained := ⟨h.sound.chained.leads, h.sound.chained.nodup, h.sound.chained.disjoint⟩
    mem_chain := h.sound.mem_chain
    distinct := h.sound.distinct
    unblank := h.sound.unblank }
  bucket_eq := h.bucket_eq

/-! ## Growing -/

/-- Entries with fresh keys are entered in their order. -/
theorem Holds.foldl_linkTail [DecidableEq K] {es : List (K × V)} {l : Ledger K V}
    (h : t.Holds l) (hnd : (l.keys ++ es.map Prod.fst).Nodup)
    (hblank : ∀ e ∈ es, TableKey.isBlank e.1 = false) :
    (es.foldl (fun t e => t.linkTail e.1 e.2) t).Holds ⟨l.entries ++ es⟩ := by
  induction es generalizing t l with
  | nil => simpa using h
  | cons e es ih =>
    have hfresh : l.get? e.1 = none := by
      rw [Ledger.get?_eq_none]
      intro hmem
      exact List.disjoint_of_nodup_append hnd hmem List.mem_cons_self
    have hstep := h.linkTail hfresh (hblank e List.mem_cons_self) e.2
    have hnd' : ((l.append e.1 e.2).keys ++ es.map Prod.fst).Nodup := by
      simpa [Ledger.keys_append] using hnd
    have hrest := ih hstep hnd' fun e' he' => hblank e' (List.mem_cons_of_mem _ he')
    simpa [Ledger.append] using hrest

/-- The table with twice as many buckets and nothing in them yet. -/
theorem Sound.holds_emptied (h : t.Sound) :
    ({ t with buckets := Array.replicate (2 * t.capacity) none, nodes := #[] } :
      Table K V).Holds .empty := by
  obtain ⟨n, hn⟩ := h.power
  exact .of_empty (n := n + 1) rfl (by rw [hn, Nat.pow_succ, Nat.mul_comm])

/-- **Growing keeps what the table holds.** A bucket of the grown table
draws from one bucket of the old one, whose entries the traversal meets
in the order of the ledger. -/
theorem Holds.grown [DecidableEq K] {l : Ledger K V} (h : t.Holds l) : t.grown.Holds l := by
  have hentered := h.sound.holds_emptied.foldl_linkTail h.sound.keys_nodup fun e he =>
    h.unblank (h.entries_perm.mem_iff.1 he)
  refine ⟨hentered.sound, fun b => ?_⟩
  have hbucket : t.grown.bucket b = t.entries.filter fun e => t.grown.slot e.1 == b :=
    hentered.bucket_eq b
  rw [hbucket, h.entries_eq]
  -- what is left modulo the new capacity settles what is left modulo the old one
  refine Ledger.filter_inBuckets t.hash (Nat.mod_lt b h.sound.capacity_pos) fun e he => ?_
  have hslot : (t.hash e.1).toNat % (2 * t.capacity) = b := by
    simpa [slot] using he
  rw [← hslot, Nat.mod_mul_left_mod]

end Chains

end Table

end Cardfile
