import Cardfile.Table.Ledger
import Mathlib.Data.List.Nodup
import Mathlib.Data.List.Range
/-!
# Table — what a ledger answers

Each change of a ledger by what its look-ups answer afterwards, and the
two facts about walking through it bucket by bucket: nothing is lost on
the way (`inBuckets_perm`), and a part of one bucket is met in the order
of the ledger (`filter_inBuckets`).
-/

namespace Cardfile

namespace Ledger

variable {K V : Type} {l : Ledger K V}

/-! ## Bucket by bucket -/

/-- What passes a test that only members of one part pass is found in
that part. -/
theorem filter_flatMap_range {α : Type} {p : α → Bool} {f : ℕ → List α} {n b : ℕ} (hb : b < n)
    (hp : ∀ c, ∀ a ∈ f c, p a = true → c = b) :
    ((List.range n).flatMap f).filter p = (f b).filter p := by
  have hnil : ∀ c, c ≠ b → (f c).filter p = [] := fun c hc =>
    List.filter_eq_nil_iff.2 fun a ha hpa => hc (hp c a ha hpa)
  induction n with
  | zero => omega
  | succ n ih =>
    rw [List.range_succ, List.flatMap_append, List.filter_append, List.flatMap_singleton]
    rcases Nat.lt_or_ge b n with h | h
    · rw [ih h, hnil n (by omega), List.append_nil]
    · obtain rfl : b = n := by omega
      have hfront : ((List.range b).flatMap f).filter p = [] := by
        rw [List.filter_flatMap, List.flatMap_eq_nil_iff]
        intro c hc
        exact hnil c (Nat.ne_of_lt (List.mem_range.1 hc))
      rw [hfront, List.nil_append]

/-- Parts by a number below `n` make up the whole. -/
theorem flatMap_range_perm {α : Type} (f : α → ℕ) (es : List α) (n : ℕ) :
    ((List.range n).flatMap fun b => es.filter fun e => f e == b).Perm
      (es.filter fun e => f e < n) := by
  induction n with
  | zero => simp
  | succ n ih =>
    rw [List.range_succ, List.flatMap_append, List.flatMap_singleton]
    -- the elements below `n + 1` are those below `n` and those at `n`
    have hlow : (es.filter fun e => f e < n + 1).filter (fun e => decide (f e < n)) =
        es.filter fun e => f e < n := by
      rw [List.filter_filter]
      refine List.filter_congr fun e _ => ?_
      simp only [Bool.and_eq_left_iff_imp, decide_eq_true_eq]
      omega
    have hhigh : (es.filter fun e => f e < n + 1).filter (fun e => !decide (f e < n)) =
        es.filter fun e => f e == n := by
      rw [List.filter_filter]
      refine List.filter_congr fun e _ => ?_
      rw [Bool.eq_iff_iff]
      simp only [Bool.and_eq_true, Bool.not_eq_true', decide_eq_false_iff_not,
        decide_eq_true_eq, beq_iff_eq]
      omega
    have hsplit := List.filter_append_perm (fun e => decide (f e < n))
      (es.filter fun e => f e < n + 1)
    rw [hlow, hhigh] at hsplit
    exact (ih.append_right _).trans hsplit

/-- **Every entry is met once.** -/
theorem inBuckets_perm (hash : K → UInt64) {capacity : ℕ} (hc : 0 < capacity)
    (l : Ledger K V) : (l.inBuckets hash capacity).Perm l.entries := by
  have hall : l.entries.filter (fun e => decide ((hash e.1).toNat % capacity < capacity)) =
      l.entries :=
    List.filter_eq_self.2 fun e _ => decide_eq_true (Nat.mod_lt _ hc)
  have hperm := flatMap_range_perm (fun e : K × V => (hash e.1).toNat % capacity) l.entries capacity
  rw [hall] at hperm
  exact hperm

/-- **Within a bucket the entries are met in the order of the ledger.** -/
theorem filter_inBuckets (hash : K → UInt64) {capacity b : ℕ} (hb : b < capacity)
    {p : K × V → Bool} (hp : ∀ e, p e = true → (hash e.1).toNat % capacity = b) :
    (l.inBuckets hash capacity).filter p = l.entries.filter p := by
  rw [inBuckets, filter_flatMap_range hb, List.filter_filter]
  · refine List.filter_congr fun e _ => ?_
    simp only [Bool.and_eq_left_iff_imp, beq_iff_eq]
    exact hp e
  · intro c e he hpe
    rw [List.mem_filter, beq_iff_eq] at he
    exact he.2.symm.trans (hp e hpe)

/-! ## Look-ups -/

/-- A key that is appended comes last. -/
theorem keys_append (k : K) (v : V) : (l.append k v).keys = l.keys ++ [k] := List.map_append

section Keyed

variable [DecidableEq K]

theorem get?_eq_none {k : K} : l.get? k = none ↔ k ∉ l.keys := by
  simp only [get?, keys, Option.map_eq_none_iff, List.find?_eq_none, decide_eq_true_eq,
    List.mem_map, not_exists, not_and]

/-- Under keys that are not repeated an entry is what its key answers. -/
theorem get?_eq_some (hnd : l.keys.Nodup) {k : K} {v : V} :
    l.get? k = some v ↔ (k, v) ∈ l.entries := by
  obtain ⟨es⟩ := l
  simp only [get?, keys] at hnd ⊢
  induction es with
  | nil => simp
  | cons e es ih =>
    rw [List.map_cons, List.nodup_cons] at hnd
    by_cases hk : e.1 = k
    · subst hk
      have hfresh : (e.1, v) ∉ es := fun hmem => hnd.1 (List.mem_map.2 ⟨_, hmem, rfl⟩)
      simp only [List.find?_cons, decide_true, Option.map_some, Option.some.injEq, List.mem_cons,
        hfresh, or_false]
      constructor
      · rintro rfl
        rfl
      · intro he
        exact (congrArg Prod.snd he).symm
    · have hne : (k, v) ≠ e := fun he => hk (congrArg Prod.fst he).symm
      simp only [List.find?_cons, hk, decide_false, List.mem_cons, hne, false_or]
      exact ih hnd.2

/-- A new key is found, and the others are found as before. -/
theorem get?_append {k : K} (hk : l.get? k = none) (v : V) (k' : K) :
    (l.append k v).get? k' = if k' = k then some v else l.get? k' := by
  rw [get?, append, List.find?_append]
  split_ifs with h
  · subst h
    have hnone : l.entries.find? (fun e => decide (e.1 = k')) = none := by
      simpa [get?] using hk
    simp [hnone]
  · have hne : ¬ k = k' := fun he => h he.symm
    simp [get?, hne]

/-- A key that stands with another value is found with it. -/
theorem get?_replace (k : K) (v : V) (k' : K) :
    (l.replace k v).get? k' = if k' = k then (l.get? k).map fun _ => v else l.get? k' := by
  obtain ⟨es⟩ := l
  simp only [get?, replace]
  induction es with
  | nil => simp
  | cons e es ih =>
    rw [List.map_cons, List.find?_cons, List.find?_cons, List.find?_cons]
    by_cases hk : e.1 = k
    · by_cases hk' : k' = k
      · simp [hk, hk']
      · have hne : ¬ k = k' := fun he => hk' he.symm
        simpa [hk, hk', hne] using ih
    · by_cases hk' : k' = k
      · simpa [hk, hk'] using ih
      · by_cases he : e.1 = k'
        · simp [hk', he]
        · simpa [hk, hk', he] using ih

/-- A key that is dropped is not found, and the others are found as
before. -/
theorem get?_remove (k k' : K) :
    (l.remove k).2.get? k' = if k' = k then none else l.get? k' := by
  rw [get?, remove, List.find?_filter]
  split_ifs with h
  · subst h
    simp
  · rw [get?]
    congr 2
    funext e
    by_cases he : e.1 = k'
    · simp [he, h]
    · simp [he]

/-- Dropping a key that has no value changes nothing. -/
theorem remove_of_get?_eq_none {k : K} (hk : l.get? k = none) : (l.remove k).2 = l := by
  rw [remove, List.filter_eq_self.2]
  intro e he
  have hne : e.1 ≠ k := fun hek => get?_eq_none.1 hk (hek ▸ List.mem_map_of_mem he)
  simpa using hne

end Keyed

end Ledger

end Cardfile
