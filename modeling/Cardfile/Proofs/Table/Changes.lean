import Cardfile.Proofs.Table.Calls
/-!
# Table — structural changes

How many structural changes a call makes, told from the keys that have a
value before it: a key that is new, a key that is dropped, dropping every
entry. A value put to a key that has one is none, and neither is a call
that is refused or finds nothing to drop. The generation counts them
(`generation_call`), whether or not the table grows on the way.
-/

namespace Cardfile

namespace Table

variable {K V : Type} {t : Table K V}

/-! ## A removal through a cursor -/

/-- **What a removal through a cursor comes to.** Either it is refused,
and neither the table nor what the cursor expects is another one, or the
table had the generation that the cursor expected and has the next one
now, which the cursor expects. -/
theorem remove_cases (c : Cursor) (t : Table K V) :
    (∃ fault, (c.remove t).1 = .error fault ∧ (c.remove t).2.2 = t ∧
        (c.remove t).2.1.expected = c.expected) ∨
      ∃ e, c.agrees t = true ∧ (c.remove t).1 = .ok e ∧
        (c.remove t).2.2.generation = t.generation + 1 ∧
        (c.remove t).2.1.expected = (c.remove t).2.2.generation := by
  obtain ⟨fault, c', hremove, hexpected⟩ | ⟨i, e, hagrees, he, hremove⟩ := removal_cases c t
  · rw [hremove]
    exact .inl ⟨fault, rfl, rfl, hexpected⟩
  · rw [hremove]
    exact .inr ⟨e, hagrees, rfl, generation_unlink (exists_entryAt?.1 ⟨e, he⟩), rfl⟩

/-! ## The changes of a call -/

variable [DecidableEq K]

theorem contains_of_find?_eq_some {k : K} {i : ℕ} (h : t.find? k = some i) :
    t.contains k = true := by
  rw [contains, h]
  rfl

theorem contains_of_find?_eq_none {k : K} (h : t.find? k = none) : t.contains k = false := by
  rw [contains, h]
  rfl

variable [TableKey K]

/-- **The structural changes that a call makes.** -/
def changes (t : Table K V) : Call K V → ℕ
  | .put k _ => if TableKey.isBlank k || t.contains k then 0 else 1
  | .remove k => if t.contains k then 1 else 0
  | .clear => 1
  | .putAll other => other.entries.countP fun e => !t.contains e.1
  | .removeAt c =>
    match (c.remove t).1 with
    | .ok _ => 1
    | .error _ => 0
  | .get _ | .contains _ | .containsValue _ | .size | .isEmpty => 0

/-- A key is found if it has a value. -/
theorem Sound.contains_eq (h : t.Sound) (k : K) : t.contains k = (t.get? k).isSome := by
  rw [contains, Bool.eq_iff_iff, ← not_iff_not, Bool.not_eq_true, Bool.not_eq_true,
    Option.isSome_eq_false_iff, Option.isSome_eq_false_iff, Option.isNone_iff_eq_none,
    Option.isNone_iff_eq_none, h.find?_eq_none]

/-- **Putting is a change if the key is new**, and growing adds none. -/
theorem generation_put {k : K} {v : V} {old : Option V} {t' : Table K V}
    (h : t.put k v = .ok (old, t')) :
    t'.generation = t.generation + UInt64.ofNat (t.changes (.put k v)) := by
  cases hk : TableKey.isBlank k with
  | true =>
    rw [put_blank hk] at h
    cases h
  | false =>
    rw [put, if_neg (by simp [hk])] at h
    cases hfind : t.find? k with
    | some i =>
      rw [hfind] at h
      cases h
      simp [changes, contains_of_find?_eq_some hfind]
    | none =>
      rw [hfind] at h
      cases h
      have hone : t.changes (.put k v) = 1 := by
        simp [changes, hk, contains_of_find?_eq_none hfind]
      have htouched : (t.linkTail k v).touched.generation = t.generation + 1 := by
        simp [touched]
      rw [hone]
      -- growing enters every entry again and counts none of them
      split_ifs
      · rw [generation_grown, htouched]
        rfl
      · rw [htouched]
        rfl

/-- Putting a key leaves the other keys as they are. -/
theorem Holds.contains_put {l : Ledger K V} (h : t.Holds l) {k : K} {v : V} {old : Option V}
    {t' : Table K V} (hput : t.put k v = .ok (old, t')) {k' : K} (hk' : k' ≠ k) :
    t'.contains k' = t.contains k' := by
  cases hk : TableKey.isBlank k with
  | true =>
    rw [put_blank hk] at hput
    cases hput
  | false =>
    obtain ⟨t₁, l₁, ht, hl, h₁, -⟩ := h.put hk v
    rw [hput] at ht
    cases ht
    have hget : l₁.get? k' = l.get? k' := by
      rw [Ledger.put, if_neg (by simp [hk])] at hl
      cases hold : l.get? k with
      | some w =>
        rw [hold] at hl
        cases hl
        rw [Ledger.get?_replace, if_neg hk']
      | none =>
        rw [hold] at hl
        cases hl
        rw [Ledger.get?_append hold, if_neg hk']
    rw [h₁.sound.contains_eq, h.sound.contains_eq, h₁.get?_eq, h.get?_eq, hget]

/-- **Putting entries is a change for each key that is new.** As no key
comes twice, those that are new remain so until they are put. -/
theorem Holds.generation_putEntries {l : Ledger K V} {es : List (K × V)} (h : t.Holds l)
    (hes : ∀ e ∈ es, TableKey.isBlank e.1 = false) (hnd : (es.map Prod.fst).Nodup)
    {t' : Table K V} (ht' : t.putEntries es = .ok t') :
    t'.generation = t.generation + UInt64.ofNat (es.countP fun e => !t.contains e.1) := by
  induction es generalizing t l with
  | nil =>
    cases ht'
    simp
  | cons e es ih =>
    rw [List.map_cons, List.nodup_cons] at hnd
    have hblank := hes e List.mem_cons_self
    obtain ⟨t₁, l₁, ht, -, h₁, -⟩ := h.put hblank e.2
    have hrest : t₁.putEntries es = .ok t' := by
      rw [Table.putEntries, ht] at ht'
      exact ht'
    have hlater : es.countP (fun e' => !t₁.contains e'.1) =
        es.countP fun e' => !t.contains e'.1 := by
      refine List.countP_congr fun e' he' => ?_
      have hne : e'.1 ≠ e.1 := fun heq => hnd.1 (heq ▸ List.mem_map_of_mem he')
      rw [h.contains_put ht hne]
    have hfirst : t.changes (.put e.1 e.2) = if !t.contains e.1 then 1 else 0 := by
      cases hc : t.contains e.1 <;> simp [changes, hblank, hc]
    rw [ih h₁ (fun e' he' => hes e' (List.mem_cons_of_mem _ he')) hnd.2 hrest, hlater,
      generation_put ht, hfirst, List.countP_cons, Nat.add_comm (es.countP _), UInt64.ofNat_add,
      UInt64.add_assoc]

/-- **The generation counts the structural changes.** -/
theorem Sound.generation_call [DecidableEq V] (h : t.Sound) {c : Call K V}
    (hc : ∀ other, c = .putAll other → other.Sound) :
    (t.call c).2.generation = t.generation + UInt64.ofNat (t.changes c) := by
  have hsame : t.generation = t.generation + UInt64.ofNat 0 := (UInt64.add_zero _).symm
  cases c with
  | put k v =>
    cases hput : t.put k v with
    | ok r =>
      simp only [Table.call, hput]
      exact generation_put hput
    | error fault =>
      have hblank : TableKey.isBlank k = true := by
        by_contra hk
        obtain ⟨_, _, ht, -⟩ := h.holds.put (Bool.not_eq_true _ ▸ hk) v
        rw [hput] at ht
        cases ht
      simp [Table.call, hput, changes, hblank]
  | remove k =>
    cases hfind : t.find? k with
    | some i =>
      obtain ⟨w, hw⟩ := h.find?_eq_some.1 hfind
      simp only [Table.call, Table.remove, hfind, changes, contains_of_find?_eq_some hfind, if_true]
      exact generation_unlink (exists_entryAt?.1 ⟨_, hw⟩)
    | none =>
      simp [Table.call, Table.remove, hfind, changes, contains_of_find?_eq_none hfind]
  | clear => rfl
  | putAll other =>
    have hother := hc other rfl
    obtain ⟨t', -, ht, -⟩ := h.holds.putAll hother
    simp only [Table.call, ht]
    exact h.holds.generation_putEntries (fun _ he => hother.holds.unblank he) hother.keys_nodup ht
  | removeAt c =>
    obtain ⟨fault, herror, ht, -⟩ | ⟨e, -, hok, hgen, -⟩ := remove_cases c t
    · simpa only [Table.call, herror, changes, ht] using hsame
    · simp only [Table.call, hok, changes]
      exact hgen
  | get | contains | containsValue | size | isEmpty => exact hsame

end Table

end Cardfile
