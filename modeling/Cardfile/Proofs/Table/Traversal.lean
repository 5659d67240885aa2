import Cardfile.Table.Traversal
import Cardfile.Proofs.Table.Calls
/-!
# Table — what a walk yields

`Ahead` says which nodes lie ahead of a place: the rest of the chain it
is in, then the chains of the buckets it has not looked into. One step
takes the first of them (`Ahead.nodeAfter`), so a walk yields their
entries in this order (`Ahead.rest_eq`), and the place knows their number
all along. From the first place all nodes lie ahead (`ahead_start`), bucket
by bucket, which is the order the ledger gives (`rest_start`).
-/

namespace Cardfile

namespace Table

variable {K V : Type} {t : Table K V} {p : Position}

/-- **The nodes ahead of a place**, in the order in which a walk meets
them. -/
structure Ahead (t : Table K V) (p : Position) (js : List ℕ) : Prop where
  /-- The rest of the present chain, then the chains still to look into. -/
  split : ∃ cur, Leads t.nodes p.successor cur ∧
    js = cur ++ (List.range' p.bucket (t.capacity - p.bucket)).flatMap t.chain
  /-- They are as many as the place says. -/
  remaining_eq : p.remaining = js.length

/-- Looking for a chain begins at the bucket itself and goes on after it. -/
theorem nextChain_of_lt {b : ℕ} (hb : b < t.capacity) :
    t.nextChain b =
      match t.head b with
      | none => t.nextChain (b + 1)
      | some i => some (b + 1, i) := by
  have hlt : b < t.buckets.size := hb
  have hdrop : t.buckets.toList.drop b = t.buckets[b] :: t.buckets.toList.drop (b + 1) := by
    rw [List.drop_eq_getElem_cons (by simpa using hlt)]
    rfl
  have hhead : t.head b = t.buckets[b] := by
    rw [head, Array.getElem?_eq_getElem hlt]
    rfl
  rw [nextChain, hdrop, hhead]
  cases t.buckets[b] <;> rfl

/-- Chains from bucket `b` on: the first that has a node is the one that
is looked into next. -/
theorem exists_nextChain (hchained : t.Chained t.chain) {b j : ℕ} {js : List ℕ}
    (h : (List.range' b (t.capacity - b)).flatMap t.chain = j :: js) :
    ∃ c node cur, t.nextChain b = some (c, j) ∧ t.nodes[j]? = some node ∧
      Leads t.nodes node.next cur ∧
      js = cur ++ (List.range' c (t.capacity - c)).flatMap t.chain := by
  -- by induction on the number of buckets that are left
  obtain ⟨n, hn⟩ : ∃ n, t.capacity - b = n := ⟨_, rfl⟩
  induction n generalizing b with
  | zero =>
    rw [hn] at h
    cases h
  | succ n ih =>
    have hleads := hchained.leads b
    have hrange : List.range' b (t.capacity - b) =
        b :: List.range' (b + 1) (t.capacity - (b + 1)) := by
      rw [hn, List.range'_succ, show t.capacity - (b + 1) = n by omega]
    rw [hrange, List.flatMap_cons] at h
    rw [nextChain_of_lt (by omega)]
    cases hhead : t.head b with
    | none =>
      -- an empty bucket is passed by
      rw [hhead] at hleads
      rw [hleads.eq_nil, List.nil_append] at h
      exact ih h (by omega)
    | some i =>
      rw [hhead] at hleads
      cases hchain : t.chain b with
      | nil =>
        rw [hchain] at hleads
        cases hleads
      | cons i' cur =>
        rw [hchain] at hleads h
        cases hleads with
        | step hnode hrest =>
          rw [List.cons_append, List.cons.injEq] at h
          obtain ⟨rfl, rfl⟩ := h
          exact ⟨b + 1, _, cur, rfl, hnode, hrest, rfl⟩

namespace Ahead

variable {js : List ℕ}

/-- **A step takes the first node ahead**, and the others stay ahead. -/
theorem nodeAfter {j : ℕ} (h : t.Ahead p (j :: js)) (hchained : t.Chained t.chain) :
    ∃ b node, t.nodeAfter p = some (b, j) ∧ t.nodes[j]? = some node ∧
      t.Ahead { bucket := b, successor := node.next, remaining := p.remaining - 1 } js := by
  obtain ⟨⟨cur, hleads, hjs⟩, hlen⟩ := h
  have hpred : p.remaining - 1 = js.length := by
    rw [hlen, List.length_cons, Nat.add_sub_cancel]
  rw [Table.nodeAfter]
  cases cur with
  | cons i cur =>
    -- within a chain
    rw [List.cons_append, List.cons.injEq] at hjs
    obtain ⟨rfl, rfl⟩ := hjs
    obtain ⟨b, successor, remaining⟩ := p
    cases hleads with
    | step hnode hrest => exact ⟨b, _, rfl, hnode, ⟨cur, hrest, rfl⟩, hpred⟩
  | nil =>
    -- at the end of a chain, or before the first one
    obtain ⟨b, successor, remaining⟩ := p
    cases hleads with
    | stop =>
      obtain ⟨c, node, cur, hnext, hnode, hrest, hsplit⟩ := exists_nextChain hchained hjs.symm
      exact ⟨c, node, hnext, hnode, ⟨cur, hrest, hsplit⟩, hpred⟩

theorem step_nil (h : t.Ahead p []) : t.step p = none := by
  have hlen : p.remaining = 0 := h.remaining_eq
  rw [step, if_pos hlen]

/-- The entry of the first node ahead is yielded. -/
theorem step_cons {j : ℕ} (h : t.Ahead p (j :: js)) (hchained : t.Chained t.chain) :
    ∃ e p', t.step p = some (e, p') ∧ t.entryAt? j = some e ∧ t.Ahead p' js := by
  obtain ⟨b, node, hafter, hnode, hahead⟩ := h.nodeAfter hchained
  have hlen : p.remaining ≠ 0 := by
    rw [h.remaining_eq]
    exact Nat.succ_ne_zero _
  refine ⟨(node.key, node.value), _, ?_, entryAt?_eq_some hnode, hahead⟩
  rw [step, if_neg hlen, hafter]
  simp only [Option.bind_eq_bind, Option.bind_some, hnode]

/-- **A walk yields the entries ahead**, and knows their number. -/
theorem rest_eq (h : t.Ahead p js) (hchained : t.Chained t.chain) :
    t.rest p = js.filterMap t.entryAt? ∧ p.remaining = (t.rest p).length := by
  rw [rest, h.remaining_eq]
  induction js generalizing p with
  | nil => exact ⟨rfl, rfl⟩
  | cons j js ih =>
    obtain ⟨e, p', hstep, he, hahead⟩ := h.step_cons hchained
    obtain ⟨hwalk, hlen⟩ := ih hahead
    rw [List.length_cons, walk, hstep, List.filterMap_cons_some he, List.length_cons]
    exact ⟨congrArg (e :: ·) hwalk, congrArg (· + 1) hlen⟩

/-- Walking on leaves what was ahead, less what was yielded. -/
theorem skip (h : t.Ahead p js) (hchained : t.Chained t.chain) (n : ℕ) :
    t.Ahead (t.skip n p) (js.drop n) := by
  induction n generalizing p js with
  | zero => exact h
  | succ n ih =>
    rw [Table.skip]
    cases js with
    | nil =>
      rw [h.step_nil]
      exact h
    | cons j js =>
      obtain ⟨e, p', hstep, -, hahead⟩ := h.step_cons hchained
      rw [hstep]
      exact ih hahead

/-- And what it still yields comes without what it yielded. -/
theorem rest_skip (h : t.Ahead p js) (hchained : t.Chained t.chain) (n : ℕ) :
    t.rest (t.skip n p) = (t.rest p).drop n := by
  induction n generalizing p js with
  | zero => rfl
  | succ n ih =>
    rw [Table.skip]
    cases js with
    | nil =>
      rw [h.step_nil, (h.rest_eq hchained).1]
      rfl
    | cons j js =>
      obtain ⟨e, p', hstep, he, hahead⟩ := h.step_cons hchained
      rw [hstep, (h.rest_eq hchained).1, List.filterMap_cons_some he, List.drop_succ_cons,
        ← (hahead.rest_eq hchained).1]
      exact ih hahead

end Ahead

variable [TableKey K]

/-- **Every node lies ahead of the first place**, bucket by bucket. -/
theorem Sound.ahead_start (h : t.Sound) : t.Ahead t.start t.indices where
  split := by
    refine ⟨[], .stop, ?_⟩
    rw [indices, List.nil_append, List.range_eq_range']
    rfl
  remaining_eq := by
    rw [h.indices_perm.length_eq, List.length_range]
    rfl

variable [DecidableEq K] [DecidableEq V]

/-- **The order of a traversal.** After any run of calls a walk yields
the entries of the history's ledger bucket by bucket, and within a bucket
in the order of the ledger. Every key with a value is met, once and with
its value. Wherever the walk stands, it knows how many entries it still
yields. -/
theorem rest_start {hash : K → UInt64} {requested : ℕ} (hcreate : create hash requested = .ok t)
    {calls : List (Call K V)} (hothers : ∀ other, .putAll other ∈ calls → other.Reachable) :
    ((t.after calls).rest (t.after calls).start =
        (Ledger.ofHistory (t.history calls)).inBuckets hash (t.after calls).capacity) ∧
      (((t.after calls).rest (t.after calls).start).map Prod.fst).Nodup ∧
      (∀ k v, (k, v) ∈ (t.after calls).rest (t.after calls).start ↔
        (t.after calls).get? k = some v) ∧
      ∀ n, (t.after calls).rest ((t.after calls).skip n (t.after calls).start) =
          ((t.after calls).rest (t.after calls).start).drop n ∧
        ((t.after calls).skip n (t.after calls).start).remaining =
          ((t.after calls).rest ((t.after calls).skip n (t.after calls).start)).length := by
  obtain ⟨hholds, hhash⟩ := holds_after hcreate hothers
  have hsound := hholds.sound
  have hrest : (t.after calls).rest (t.after calls).start = (t.after calls).entries :=
    (hsound.ahead_start.rest_eq hsound.chained).1
  rw [hrest]
  refine ⟨?_, hsound.keys_nodup, fun k v => ?_, fun n => ?_⟩
  · rw [hholds.entries_eq, hhash]
  · rw [hholds.get?_eq, Ledger.get?_eq_some hholds.keys_nodup, hholds.entries_perm.mem_iff]
  · have hskip := hsound.ahead_start.skip hsound.chained n
    rw [← hrest]
    exact ⟨hsound.ahead_start.rest_skip hsound.chained n, (hskip.rest_eq hsound.chained).2⟩

/-- A key that is removed and put again comes last in its bucket, also
after the table has grown. -/
theorem rest_start_of_reentry :
    ((empty (fun _ => 0) 1 : Table ℤ ℕ).after
        [.put 1 10, .put 2 20, .put 3 30, .remove 1, .put 2 21, .put 1 11]).rest
      ((empty (fun _ => 0) 1 : Table ℤ ℕ).after
        [.put 1 10, .put 2 20, .put 3 30, .remove 1, .put 2 21, .put 1 11]).start =
      [(2, 21), (3, 30), (1, 11)] := by
  have hcreate : create (fun _ : ℤ => 0) 1 = .ok (empty (fun _ => 0) 1 : Table ℤ ℕ) := rfl
  rw [(rest_start hcreate (by simp)).1]
  rfl

end Table

end Cardfile
