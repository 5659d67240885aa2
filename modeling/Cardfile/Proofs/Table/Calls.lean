import Cardfile.Table.Cursor
import Cardfile.Proofs.Table.Enter
import Cardfile.Proofs.Table.Unlink
/-!
# Table — calls

Every operation of a table as one step, `Table.call`, and a run of them
as the list of calls with their answers, `Table.history`. A call also
moves the ledger of the table (`Ledger.after`), and the table goes on
holding it (`Holds.call`); by induction it holds the ledger of its whole
history (`holds_after`).

A cursor removes whatever node it stands at, so a removal through a
cursor is a call with any cursor at all. What it removed is told by its
answer.
-/

namespace Cardfile

namespace Table

/-- A call of one of a table's operations. -/
inductive Call (K V : Type) where
  /-- Give the key the value. -/
  | put (k : K) (v : V)
  /-- Look the key up. -/
  | get (k : K)
  /-- Ask whether the key has a value. -/
  | contains (k : K)
  /-- Ask whether an entry has the value. -/
  | containsValue (v : V)
  /-- Drop the key. -/
  | remove (k : K)
  /-- Count the entries. -/
  | size
  /-- Ask whether there are none. -/
  | isEmpty
  /-- Drop every entry. -/
  | clear
  /-- Put every entry of the other table. -/
  | putAll (other : Table K V)
  /-- Drop the entry that the cursor returned last. -/
  | removeAt (c : Cursor)

/-- What a call answers. -/
inductive Answer (K V : Type) where
  /-- Nothing but that it is done. -/
  | done
  /-- The value of a key, if it has one. -/
  | value (v : Option V)
  /-- A truth value. -/
  | truth (b : Bool)
  /-- A number. -/
  | count (n : ℕ)
  /-- An entry. -/
  | entry (k : K) (v : V)
  /-- The call is refused. -/
  | failed (report : Report)

end Table

variable {K V : Type} [DecidableEq K] [TableKey K]

/-! ## The ledger of a history -/

namespace Ledger

/-- The ledger after a call that was answered so. -/
def after (l : Ledger K V) : Table.Call K V → Table.Answer K V → Ledger K V
  | .put k v, _ =>
    match l.put k v with
    | .ok (_, l) => l
    | .error _ => l
  | .remove k, _ => (l.remove k).2
  | .clear, _ => .empty
  | .putAll other, _ =>
    match l.putEntries other.entries with
    | .ok l => l
    | .error _ => l
  | .removeAt _, .entry k _ => (l.remove k).2
  | _, _ => l

/-- The ledger that a history leaves behind. -/
def ofHistory (log : List (Table.Call K V × Table.Answer K V)) : Ledger K V :=
  log.foldl (fun l step => l.after step.1 step.2) .empty

end Ledger

namespace Table

variable {t : Table K V} {l : Ledger K V}

/-! ## Each operation -/

omit [DecidableEq K] [TableKey K] in
theorem hash_create {hash : K → UInt64} {requested : ℕ} (h : create hash requested = .ok t) :
    t.hash = hash := by
  rw [create] at h
  split_ifs at h
  cases h
  rfl

omit [DecidableEq K] in
/-- **A table that is made holds nothing.** -/
theorem holds_create {hash : K → UInt64} {requested : ℕ} (h : create hash requested = .ok t) :
    t.Holds .empty := by
  rw [create] at h
  split_ifs at h
  cases h
  exact holds_empty hash requested

theorem put_blank {k : K} (hk : TableKey.isBlank k = true) (v : V) :
    t.put k v = .error .blankKey := by
  rw [put, if_pos hk]

/-- **Putting answers the value of before**, in the table as in the
ledger. -/
theorem Holds.put (h : t.Holds l) {k : K} (hk : TableKey.isBlank k = false) (v : V) :
    ∃ t' l', t.put k v = .ok (l.get? k, t') ∧ l.put k v = .ok (l.get? k, l') ∧ t'.Holds l' ∧
      t'.hash = t.hash := by
  have hblank : ¬ TableKey.isBlank k = true := by simp [hk]
  rw [Table.put, if_neg hblank, Ledger.put, if_neg hblank]
  cases hfind : t.find? k with
  | some i =>
    -- the key stands, and its value is replaced
    obtain ⟨w, hw⟩ := h.sound.find?_eq_some.1 hfind
    have hget : t.get? k = some w := h.sound.get?_eq_some.2 ⟨i, hw⟩
    have hl : l.get? k = some w := (h.get?_eq k).symm.trans hget
    rw [hget, hl]
    exact ⟨t.replaced i v, l.replace k v, rfl, rfl, h.replaced hw v, rfl⟩
  | none =>
    -- the key is entered, and the table may grow
    have hl : l.get? k = none := (h.get?_eq k).symm.trans (h.sound.find?_eq_none.1 hfind)
    have hentered := (h.linkTail hl hk v).touched
    rw [hl]
    refine ⟨_, l.append k v, rfl, rfl, ?_, ?_⟩
    · split_ifs
      · exact hentered.grown
      · exact hentered
    · have hhash : (t.linkTail k v).touched.hash = t.hash := hash_linkTail k v
      split_ifs
      · exact hash_grown.trans hhash
      · exact hhash

/-- A key that had no value before is entered last. -/
theorem Holds.of_put_none (h : t.Holds l) {k : K} {v : V} {t' : Table K V}
    (hput : t.put k v = .ok (none, t')) : t'.Holds (l.append k v) := by
  cases hk : TableKey.isBlank k with
  | true =>
    rw [put_blank hk] at hput
    cases hput
  | false =>
    obtain ⟨t₁, l₁, ht, hl, h₁, -⟩ := h.put hk v
    rw [hput] at ht
    injection ht with hpair
    injection hpair with hnone htable
    rw [Ledger.put, if_neg (by simp [hk]), ← hnone] at hl
    cases hl
    rw [htable]
    exact h₁

/-- **A key either stands already**, and then its old value is answered, or
it is entered last. -/
theorem Holds.put_cases (h : t.Holds l) {k : K} (hk : TableKey.isBlank k = false) (v : V) :
    (k ∈ l.keys ∧ ∃ w t', t.put k v = .ok (some w, t')) ∨
      k ∉ l.keys ∧ ∃ t', t.put k v = .ok (none, t') ∧ t'.Holds (l.append k v) := by
  obtain ⟨t', -, hput, -⟩ := h.put hk v
  cases hold : l.get? k with
  | some w =>
    rw [hold] at hput
    refine .inl ⟨?_, w, t', hput⟩
    by_contra hnot
    rw [Ledger.get?_eq_none.2 hnot] at hold
    cases hold
  | none =>
    rw [hold] at hput
    exact .inr ⟨Ledger.get?_eq_none.1 hold, t', hput, h.of_put_none hput⟩

/-- Entries with keys that are not blank can be put. -/
theorem Holds.putEntries {es : List (K × V)} (h : t.Holds l)
    (hes : ∀ e ∈ es, TableKey.isBlank e.1 = false) :
    ∃ t' l', t.putEntries es = .ok t' ∧ l.putEntries es = .ok l' ∧ t'.Holds l' ∧
      t'.hash = t.hash := by
  induction es generalizing t l with
  | nil => exact ⟨t, l, rfl, rfl, h, rfl⟩
  | cons e es ih =>
    obtain ⟨t₁, l₁, ht, hl, h₁, hhash⟩ := h.put (hes e List.mem_cons_self) e.2
    obtain ⟨t₂, l₂, ht₂, hl₂, h₂, hhash₂⟩ := ih h₁ fun e' he' => hes e' (List.mem_cons_of_mem _ he')
    refine ⟨t₂, l₂, ?_, ?_, h₂, hhash₂.trans hhash⟩
    · rw [Table.putEntries, ht]
      exact ht₂
    · rw [Ledger.putEntries, hl]
      exact hl₂

/-- **Every entry of a sound table can be put.** -/
theorem Holds.putAll (h : t.Holds l) {other : Table K V} (hother : other.Sound) :
    ∃ t' l', t.putAll other = .ok t' ∧ l.putEntries other.entries = .ok l' ∧ t'.Holds l' ∧
      t'.hash = t.hash :=
  h.putEntries fun _ he => hother.holds.unblank he

/-- **Removing answers the value that is dropped.** -/
theorem Holds.remove (h : t.Holds l) (k : K) :
    (t.remove k).1 = l.get? k ∧ (t.remove k).2.Holds (l.remove k).2 ∧
      (t.remove k).2.hash = t.hash := by
  rw [Table.remove]
  cases hfind : t.find? k with
  | some i =>
    obtain ⟨w, hw⟩ := h.sound.find?_eq_some.1 hfind
    exact ⟨h.get?_eq k, h.unlink hw, hash_unlink i⟩
  | none =>
    have hl : l.get? k = none := (h.get?_eq k).symm.trans (h.sound.find?_eq_none.1 hfind)
    rw [Ledger.remove_of_get?_eq_none hl]
    exact ⟨hl.symm, h, rfl⟩

/-- An entry with the value is found wherever it stands. -/
theorem Holds.containsValue [DecidableEq V] (h : t.Holds l) (v : V) :
    t.containsValue v = true ↔ ∃ k, l.get? k = some v := by
  simp only [Table.containsValue, List.any_eq_true, decide_eq_true_eq,
    Ledger.get?_eq_some h.keys_nodup, h.entries_perm.mem_iff]
  constructor
  · rintro ⟨e, he, rfl⟩
    exact ⟨e.1, he⟩
  · rintro ⟨k, hk⟩
    exact ⟨(k, v), hk, rfl⟩

omit [DecidableEq K] [TableKey K] in
/-- **What a removal through a cursor can be**: it is refused, and neither
the table nor what the cursor expects is another one, or the cursor agrees
with the table and the node that it takes out is in the arena. -/
theorem removal_cases (c : Cursor) (t : Table K V) :
    (∃ fault c', c.remove t = (.error fault, c', t) ∧ c'.expected = c.expected) ∨
      ∃ i e, c.agrees t = true ∧ t.entryAt? i = some e ∧
        c.remove t = (.ok e, c.afterRemoval t i, t.unlink i) := by
  rw [Cursor.remove]
  split_ifs with hagrees
  · cases c.last with
    | none => exact .inl ⟨_, _, rfl, rfl⟩
    | some i =>
      dsimp only
      cases he : t.entryAt? i with
      | none => exact .inl ⟨_, _, rfl, rfl⟩
      | some e => exact .inr ⟨i, e, hagrees, he, rfl⟩
  · exact .inl ⟨_, _, rfl, rfl⟩

/-- **A cursor removes an entry of the table, or it is refused** and
nothing changes. -/
theorem Holds.removeAt (h : t.Holds l) (c : Cursor) :
    (∃ fault, (c.remove t).1 = .error fault ∧ (c.remove t).2.2 = t) ∨
      ∃ k v, (c.remove t).1 = .ok (k, v) ∧ l.get? k = some v ∧
        (c.remove t).2.2.Holds (l.remove k).2 ∧ (c.remove t).2.2.hash = t.hash := by
  obtain ⟨fault, c', hremove, -⟩ | ⟨i, e, -, he, hremove⟩ := removal_cases c t
  · rw [hremove]
    exact .inl ⟨fault, rfl, rfl⟩
  · rw [hremove]
    refine .inr ⟨e.1, e.2, rfl, ?_, h.unlink he, hash_unlink i⟩
    rw [← h.get?_eq]
    exact h.sound.get?_eq_some.2 ⟨i, he⟩

/-! ## A call, and a run of calls -/

variable [DecidableEq V]

/-- The answer to a call, and the table after it. -/
def call (t : Table K V) : Call K V → Answer K V × Table K V
  | .put k v =>
    match t.put k v with
    | .ok (old, t) => (.value old, t)
    | .error fault => (.failed fault.report, t)
  | .get k => (.value (t.get? k), t)
  | .contains k => (.truth (t.contains k), t)
  | .containsValue v => (.truth (t.containsValue v), t)
  | .remove k => (.value (t.remove k).1, (t.remove k).2)
  | .size => (.count t.size, t)
  | .isEmpty => (.truth t.isEmpty, t)
  | .clear => (.done, t.clear)
  | .putAll other =>
    match t.putAll other with
    | .ok t => (.done, t)
    | .error fault => (.failed fault.report, t)
  | .removeAt c =>
    (match (c.remove t).1 with
      | .ok e => .entry e.1 e.2
      | .error fault => .failed fault.report, (c.remove t).2.2)

/-- The calls, each with its answer. -/
def history (t : Table K V) : List (Call K V) → List (Call K V × Answer K V)
  | [] => []
  | c :: calls => (c, (t.call c).1) :: (t.call c).2.history calls

/-- The table after the calls. -/
def after (t : Table K V) (calls : List (Call K V)) : Table K V :=
  calls.foldl (fun t c => (t.call c).2) t

/-- **The tables that can come about**: a table is made, and changes by
calls that put nothing but tables that can come about. -/
inductive Reachable : Table K V → Prop
  /-- A new table. -/
  | create {hash : K → UInt64} {requested : ℕ} {t : Table K V} :
      create hash requested = .ok t → Reachable t
  /-- A table after one more call. -/
  | call {t : Table K V} {c : Call K V} :
      Reachable t → (∀ other, c = .putAll other → Reachable other) → Reachable (t.call c).2

/-- **A call keeps what the table holds in step with the ledger**, and the
hash function. -/
theorem Holds.call (h : t.Holds l) {c : Call K V} (hc : ∀ other, c = .putAll other → other.Sound) :
    (t.call c).2.Holds (l.after c (t.call c).1) ∧ (t.call c).2.hash = t.hash := by
  cases c with
  | put k v =>
    cases hk : TableKey.isBlank k with
    | true =>
      have hl : l.put k v = .error .blankKey := by rw [Ledger.put, if_pos hk]
      simp only [Table.call, put_blank hk, Ledger.after, hl, and_true]
      exact h
    | false =>
      obtain ⟨t', l', ht, hl, h'⟩ := h.put hk v
      simpa only [Table.call, ht, Ledger.after, hl] using h'
  | remove k => exact (h.remove k).2
  | clear => exact ⟨h.sound.holds_clear, rfl⟩
  | putAll other =>
    obtain ⟨t', l', ht, hl, h'⟩ := h.putAll (hc other rfl)
    simpa only [Table.call, ht, Ledger.after, hl] using h'
  | removeAt c =>
    obtain ⟨fault, herror, ht⟩ | ⟨k, v, hok, -, h'⟩ := h.removeAt c
    · simp only [Table.call, herror, ht, and_true]
      exact h
    · simp only [Table.call, hok]
      exact h'
  | get | contains | containsValue | size | isEmpty => exact ⟨h, rfl⟩

/-- **Every table that can come about is sound.** -/
theorem Reachable.sound (h : t.Reachable) : t.Sound := by
  induction h with
  | create hc => exact (holds_create hc).sound
  | call _ _ ih ihother => exact (ih.holds.call ihother).1.sound

/-- A run goes on with the ledger that its calls so far left behind. -/
theorem Holds.foldl_history (h : t.Holds l) {calls : List (Call K V)}
    (hcalls : ∀ other, .putAll other ∈ calls → other.Sound) :
    (t.after calls).Holds
        ((t.history calls).foldl (fun l step => l.after step.1 step.2) l) ∧
      (t.after calls).hash = t.hash := by
  induction calls generalizing t l with
  | nil => exact ⟨h, rfl⟩
  | cons c calls ih =>
    have hc : ∀ other, c = .putAll other → other.Sound := by
      rintro other rfl
      exact hcalls other List.mem_cons_self
    obtain ⟨hnext, hhash⟩ := h.call hc
    have hrest := ih hnext fun other ho => hcalls other (List.mem_cons_of_mem _ ho)
    exact ⟨hrest.1, hrest.2.trans hhash⟩

/-- **After a run a table holds the ledger of its history.** -/
theorem holds_after {hash : K → UInt64} {requested : ℕ} (hc : create hash requested = .ok t)
    {calls : List (Call K V)} (hcalls : ∀ other, .putAll other ∈ calls → other.Reachable) :
    (t.after calls).Holds (.ofHistory (t.history calls)) ∧ (t.after calls).hash = hash := by
  have hrun := (holds_create hc).foldl_history fun other ho => (hcalls other ho).sound
  exact ⟨hrun.1, hrun.2.trans (hash_create hc)⟩

end Table

end Cardfile
