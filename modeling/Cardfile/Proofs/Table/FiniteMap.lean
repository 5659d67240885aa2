import Cardfile.Proofs.Table.Calls
import Mathlib.Data.Finmap
/-!
# Table — a finite map

What a table answers is what a finite map answers that has the same
history: neither buckets nor chains nor the arena show. `Answers` says
what a map answers to a call and `Serves` says it of a whole history.
A sound table and the map of its look-ups answer alike
(`Represents.answers`) and stay together (`Represents.call`), hence so do
their histories (`serves_history`). As a
map's answers are settled by the calls (`Serves.unique`), so are those of
the tables, whatever their hash functions and capacities.
-/

namespace Cardfile

/-- Keys with their values, and nothing more. -/
abbrev FiniteMap (K V : Type) := Finmap fun _ : K => V

variable {K V : Type} [DecidableEq K] [TableKey K]

namespace FiniteMap

/-- The map after a call that was answered so. The answer matters only
where a cursor removes an entry: it tells which. -/
def after (m : FiniteMap K V) : Table.Call K V → Table.Answer K V → FiniteMap K V
  | .put k v, _ => if TableKey.isBlank k then m else m.insert k v
  | .remove k, _ => m.erase k
  | .clear, _ => ∅
  | .putAll other, _ => other.entries.foldl (fun m e => m.insert e.1 e.2) m
  | .removeAt _, .entry k _ => m.erase k
  | _, _ => m

variable [DecidableEq V]

/-- **What a map answers to a call.** A cursor removes an entry of the
map or is refused; every other answer is settled by the map. -/
def Answers (m : FiniteMap K V) : Table.Call K V → Table.Answer K V → Prop
  | .put k _, a =>
    a = if TableKey.isBlank k
      then .failed { kind := .usage, message := some "table key must not be empty" }
      else .value (m.lookup k)
  | .get k, a => a = .value (m.lookup k)
  | .contains k, a => a = .truth (decide (k ∈ m))
  | .containsValue v, a => ∃ b, a = .truth b ∧ (b = true ↔ ∃ k, m.lookup k = some v)
  | .remove k, a => a = .value (m.lookup k)
  | .size, a => a = .count m.keys.card
  | .isEmpty, a => a = .truth (decide (m = ∅))
  | .clear, a => a = .done
  | .putAll _, a => a = .done
  | .removeAt _, a =>
    (∃ fault : CursorFault, a = .failed fault.report) ∨
      ∃ k v, m.lookup k = some v ∧ a = .entry k v

/-- **A history answered by the map**, which changes along the way. -/
def Serves (m : FiniteMap K V) : List (Table.Call K V × Table.Answer K V) → Prop
  | [] => True
  | (c, a) :: log => m.Answers c a ∧ (m.after c a).Serves log

/-- Only a cursor leaves a choice. -/
theorem Answers.unique {m : FiniteMap K V} {c : Table.Call K V} {a a' : Table.Answer K V}
    (hc : ∀ cursor, c ≠ .removeAt cursor) (h : m.Answers c a) (h' : m.Answers c a') : a = a' := by
  cases c with
  | removeAt cursor => exact absurd rfl (hc cursor)
  | containsValue v =>
    obtain ⟨b, rfl, hb⟩ := h
    obtain ⟨b', rfl, hb'⟩ := h'
    rw [Bool.eq_iff_iff.2 (hb.trans hb'.symm)]
  | _ => exact Eq.trans h (Eq.symm h')

omit [DecidableEq V] in
/-- Which cursor removed an entry makes no difference. -/
theorem after_removeAt (m : FiniteMap K V) (cursor cursor' : Cursor) (a : Table.Answer K V) :
    m.after (.removeAt cursor) a = m.after (.removeAt cursor') a := by
  cases a <;> rfl

/-- **Two steps that leave no choice**: the same call, or removals
through cursors that were answered alike. -/
inductive Alike : Table.Call K V × Table.Answer K V → Table.Call K V × Table.Answer K V → Prop
  /-- The same call. -/
  | same {c : Table.Call K V} {a a' : Table.Answer K V} :
      (∀ cursor, c ≠ .removeAt cursor) → Alike (c, a) (c, a')
  /-- Two cursors that removed the same entry, or were refused alike. -/
  | removed {cursor cursor' : Cursor} {a : Table.Answer K V} :
      Alike (.removeAt cursor, a) (.removeAt cursor', a)

/-- **The calls settle the answers**, given what the cursors removed. -/
theorem Serves.unique {m : FiniteMap K V} {log log' : List (Table.Call K V × Table.Answer K V)}
    (h : m.Serves log) (h' : m.Serves log') (halike : List.Forall₂ Alike log log') :
    log.map Prod.snd = log'.map Prod.snd := by
  induction halike generalizing m with
  | nil => rfl
  | cons hstep _ ih =>
    cases hstep with
    | same hne =>
      obtain rfl := h.1.unique hne h'.1
      exact congrArg (_ :: ·) (ih h.2 h'.2)
    | removed =>
      have h₂ := h'.2
      rw [after_removeAt m _ _ _] at h₂
      exact congrArg (_ :: ·) (ih h.2 h₂)

end FiniteMap

namespace Table

variable {t : Table K V} {m : FiniteMap K V}

/-- The map has the table's look-ups. -/
structure Represents (t : Table K V) (m : FiniteMap K V) : Prop where
  sound : t.Sound
  lookup_eq : ∀ k, m.lookup k = t.get? k

/-! ## Look-ups in a ledger and in a map -/

section Lookup

variable {l l' : Ledger K V}

theorem Holds.represents (h : t.Holds l) (hm : ∀ k, m.lookup k = l.get? k) : t.Represents m where
  sound := h.sound
  lookup_eq k := (hm k).trans (h.get?_eq k).symm

/-- A key that is put is found with its value. -/
theorem lookup_insert_eq_get? (hm : ∀ k, m.lookup k = l.get? k) {k : K} {v : V} {old : Option V}
    (hput : l.put k v = .ok (old, l')) (k' : K) : (m.insert k v).lookup k' = l'.get? k' := by
  have hlookup : (m.insert k v).lookup k' = if k' = k then some v else l.get? k' := by
    split_ifs with h
    · rw [h, Finmap.lookup_insert]
    · rw [Finmap.lookup_insert_of_ne _ h, hm]
  rw [hlookup]
  rw [Ledger.put] at hput
  split_ifs at hput
  cases hget : l.get? k with
  | some w =>
    rw [hget] at hput
    cases hput
    rw [Ledger.get?_replace, hget]
    rfl
  | none =>
    rw [hget] at hput
    cases hput
    rw [Ledger.get?_append hget]

theorem lookup_foldl_insert_eq_get? {es : List (K × V)} (hm : ∀ k, m.lookup k = l.get? k)
    (hput : l.putEntries es = .ok l') (k : K) :
    (es.foldl (fun m e => m.insert e.1 e.2) m).lookup k = l'.get? k := by
  induction es generalizing m l with
  | nil =>
    cases hput
    exact hm k
  | cons e es ih =>
    rw [Ledger.putEntries] at hput
    cases hstep : l.put e.1 e.2 with
    | error fault =>
      rw [hstep] at hput
      cases hput
    | ok r =>
      rw [hstep] at hput
      exact ih (lookup_insert_eq_get? hm hstep) hput

omit [TableKey K] in
theorem lookup_erase_eq_get? (hm : ∀ k, m.lookup k = l.get? k) (k k' : K) :
    (m.erase k).lookup k' = (l.remove k).2.get? k' := by
  rw [Ledger.get?_remove]
  split_ifs with h
  · rw [h, Finmap.lookup_erase]
  · rw [Finmap.lookup_erase_ne h, hm]

/-- **A call changes the look-ups of a ledger and of a map alike.** -/
theorem lookup_after_eq_get? (hm : ∀ k, m.lookup k = l.get? k) {c : Call K V} (a : Answer K V)
    (hput : ∀ other, c = .putAll other → ∃ l', l.putEntries other.entries = .ok l') (k' : K) :
    (m.after c a).lookup k' = (l.after c a).get? k' := by
  cases c with
  | put k v =>
    rw [FiniteMap.after, Ledger.after]
    split_ifs with hk
    · rw [Ledger.put, if_pos hk]
      exact hm k'
    · cases hstep : l.put k v with
      | error fault =>
        rw [Ledger.put, if_neg hk] at hstep
        cases hget : l.get? k <;> rw [hget] at hstep <;> cases hstep
      | ok r => exact lookup_insert_eq_get? hm hstep k'
  | remove k => exact lookup_erase_eq_get? hm k k'
  | clear => exact Finmap.lookup_empty k'
  | putAll other =>
    obtain ⟨l', hl⟩ := hput other rfl
    simp only [FiniteMap.after, Ledger.after, hl]
    exact lookup_foldl_insert_eq_get? hm hl k'
  | removeAt c =>
    cases a with
    | entry k v => exact lookup_erase_eq_get? hm k k'
    | _ => exact hm k'
  | get | contains | containsValue | size | isEmpty => exact hm k'

end Lookup

/-! ## A table and its map -/

namespace Represents

variable (h : t.Represents m)

include h

theorem mem_iff {k : K} : k ∈ m ↔ t.contains k = true := by
  rw [← not_iff_not, ← Finmap.lookup_eq_none, h.lookup_eq, ← h.sound.find?_eq_none, contains,
    Option.not_isSome_iff_eq_none]

/-- The keys of the entries are the keys of the map. -/
theorem keys_eq : m.keys = (t.entries.map Prod.fst).toFinset := by
  ext k
  rw [Finmap.mem_keys, ← not_iff_not, ← Finmap.lookup_eq_none, h.lookup_eq,
    h.sound.holds.get?_eq, Ledger.get?_eq_none, List.mem_toFinset, Ledger.keys]

/-- **The size of a table is the number of its keys.** -/
theorem size_eq : t.size = m.keys.card := by
  rw [h.keys_eq, List.toFinset_card_of_nodup h.sound.keys_nodup, List.length_map,
    h.sound.length_entries]

theorem isEmpty_iff : t.isEmpty = true ↔ m = ∅ := by
  rw [isEmpty, beq_iff_eq, h.size_eq, Finset.card_eq_zero]
  constructor
  · intro hkeys
    refine Finmap.ext_lookup fun k => ?_
    rw [Finmap.lookup_empty, Finmap.lookup_eq_none, ← Finmap.mem_keys, hkeys]
    exact Finset.notMem_empty k
  · rintro rfl
    exact Finmap.keys_empty

variable [DecidableEq V] {c : Call K V} (hc : ∀ other, c = .putAll other → other.Sound)

include hc

/-- **A table and its map answer a call alike.** -/
theorem answers : m.Answers c (t.call c).1 := by
  have hholds := h.sound.holds
  have hget : ∀ k, (⟨t.entries⟩ : Ledger K V).get? k = m.lookup k := fun k =>
    (hholds.get?_eq k).symm.trans (h.lookup_eq k).symm
  cases c with
  | put k v =>
    cases hk : TableKey.isBlank k with
    | true =>
      simp only [Table.call, put_blank hk, FiniteMap.Answers, hk, if_true]
      rfl
    | false =>
      obtain ⟨t', l', ht, -⟩ := hholds.put hk v
      simp only [Table.call, ht, FiniteMap.Answers, hk, hget]
      rfl
  | get k => exact congrArg Answer.value (h.lookup_eq k).symm
  | contains k =>
    refine congrArg Answer.truth ?_
    rw [Bool.eq_iff_iff, decide_eq_true_iff]
    exact h.mem_iff.symm
  | containsValue v =>
    refine ⟨_, rfl, ?_⟩
    simp only [hholds.containsValue, hget]
  | remove k => exact congrArg Answer.value ((hholds.remove k).1.trans (hget k))
  | size => exact congrArg Answer.count h.size_eq
  | isEmpty =>
    refine congrArg Answer.truth ?_
    rw [Bool.eq_iff_iff, decide_eq_true_iff]
    exact h.isEmpty_iff
  | clear => exact rfl
  | putAll other =>
    obtain ⟨t', l', ht, -⟩ := hholds.putAll (hc other rfl)
    simp only [Table.call, ht, FiniteMap.Answers]
  | removeAt c =>
    obtain ⟨fault, herror, -⟩ | ⟨k, v, hok, hentry, -⟩ := hholds.removeAt c
    · simp only [Table.call, herror]
      exact .inl ⟨fault, rfl⟩
    · simp only [Table.call, hok]
      exact .inr ⟨k, v, (hget k).symm.trans hentry, rfl⟩

/-- **And the map after it is the map of the table after it.** -/
theorem call : (t.call c).2.Represents (m.after c (t.call c).1) := by
  have hholds := h.sound.holds
  refine (hholds.call hc).1.represents fun k => lookup_after_eq_get? (fun k => ?_) _ ?_ k
  · rw [h.lookup_eq, hholds.get?_eq]
  · intro other ho
    obtain ⟨t', l', -, hl, -⟩ := hholds.putAll (hc other ho)
    exact ⟨l', hl⟩

omit hc in
/-- So they answer a whole run alike. -/
theorem serves {calls : List (Call K V)}
    (hcalls : ∀ other, .putAll other ∈ calls → other.Sound) : m.Serves (t.history calls) := by
  induction calls generalizing t m with
  | nil => trivial
  | cons c calls ih =>
    have hc : ∀ other, c = .putAll other → other.Sound := by
      rintro other rfl
      exact hcalls other List.mem_cons_self
    exact ⟨h.answers hc, ih (h.call hc) fun other ho => hcalls other (List.mem_cons_of_mem _ ho)⟩

end Represents

variable [DecidableEq V]

omit [DecidableEq V] in
/-- A table that is made stands for the map without keys. -/
theorem represents_create {hash : K → UInt64} {requested : ℕ}
    (hcreate : create hash requested = .ok t) : t.Represents (∅ : FiniteMap K V) :=
  (holds_create hcreate).represents fun k => Finmap.lookup_empty k

/-- **A table answers as a finite map does.** Every answer of a run is
that of the map with the same history. So the answers are settled by the
calls and by what the cursors removed on the way: another table, with
another hash function and another capacity, gives the same ones. -/
theorem serves_history {hash : K → UInt64} {requested : ℕ}
    (hcreate : create hash requested = .ok t) {calls : List (Call K V)}
    (hothers : ∀ other, .putAll other ∈ calls → other.Reachable) :
    (∅ : FiniteMap K V).Serves (t.history calls) ∧
      ∀ {hash' : K → UInt64} {requested' : ℕ} {t' : Table K V} {calls' : List (Call K V)},
        create hash' requested' = .ok t' → (∀ other, .putAll other ∈ calls' → other.Reachable) →
          List.Forall₂ FiniteMap.Alike (t.history calls) (t'.history calls') →
            (t.history calls).map Prod.snd = (t'.history calls').map Prod.snd := by
  have hserves := (represents_create hcreate).serves fun other ho => (hothers other ho).sound
  refine ⟨hserves, fun hcreate' hothers' halike => ?_⟩
  have hserves' := (represents_create hcreate').serves fun other ho => (hothers' other ho).sound
  exact hserves.unique hserves' halike

/-- Two tables with two hash functions, whose arenas come to differ, and
cursors at the same entry of both. -/
theorem serves_history_of_collisions :
    (∅ : FiniteMap ℤ ℕ).Serves
        ((empty (fun _ => 0) 1 : Table ℤ ℕ).history
          [.put 1 10, .put 2 20, .removeAt ⟨2, ⟨0, none, 0⟩, some 0⟩, .size]) ∧
      ((empty (fun _ => 0) 1 : Table ℤ ℕ).history
          [.put 1 10, .put 2 20, .removeAt ⟨2, ⟨0, none, 0⟩, some 0⟩, .size]).map Prod.snd =
        ((empty (fun k => if k = 1 then 1 else 0) 1 : Table ℤ ℕ).history
          [.put 1 10, .put 2 20, .removeAt ⟨2, ⟨0, none, 0⟩, some 1⟩, .size]).map Prod.snd := by
  have hcreate : create (fun _ : ℤ => 0) 1 = .ok (empty (fun _ => 0) 1 : Table ℤ ℕ) := rfl
  have hcreate' : create (fun k : ℤ => if k = 1 then 1 else 0) 1 =
      .ok (empty (fun k => if k = 1 then 1 else 0) 1 : Table ℤ ℕ) := rfl
  refine ⟨(serves_history hcreate (by simp)).1,
    (serves_history hcreate (by simp)).2 hcreate' (by simp) ?_⟩
  exact .cons (.same nofun) (.cons (.same nofun) (.cons .removed (.cons (.same nofun) .nil)))

end Table

end Cardfile
