import Cardfile.Proofs.Table.Traversal
/-!
# Table — a cursor under way

A cursor is under way from the moment it is made. Meanwhile the table may
be read, values may be replaced and the cursor may remove what it
returned (`Tour`); nothing else changes the table's structure. Then the
cursor keeps to the traversal of the table it was made for: `Guided` says
what each of its operations answers, and `guided_of_tour` that this holds
wherever a tour has got to.

The invariant is `Touring`. It names the nodes that lie ahead, which have
the keys of the traversal that were not visited yet. A removal moves a
node of the arena, and the nodes ahead move along (`Ahead.unlink`): the
one that is removed is not among them.
-/

namespace Cardfile

namespace Table

variable {K V : Type}

/-! ## Changes on the way -/

/-- A cursor follows the node that its removal moves. -/
theorem afterRemoval_position (c : Cursor) (t : Table K V) (i : ℕ) :
    (c.afterRemoval t i).position =
      { c.position with
        successor := c.position.successor.map (relocated i (t.nodes.size - 1)) } := by
  obtain ⟨expected, ⟨b, successor, remaining⟩, last⟩ := c
  rw [Cursor.afterRemoval, movedInto]
  split_ifs with hi
  · rw [← hi, relocated_self, Option.map_id]
    rfl
  · cases successor with
    | none => rfl
    | some j =>
      simp only [Option.some.injEq, Option.map_some, relocated]
      split_ifs <;> rfl

section Change

variable [TableKey K] {t : Table K V} {p : Position} {js : List ℕ}

/-- Replacing a value leaves the same nodes ahead. -/
theorem Ahead.replaced (h : t.Ahead p js) (hs : t.Sound) (i : ℕ) (v : V) :
    (t.replaced i v).Ahead p js where
  split := by
    obtain ⟨cur, hleads, hjs⟩ := h.split
    refine ⟨cur, leads_replaced hleads i v, ?_⟩
    rw [(hs.chained_replaced i v).chain_eq]
    exact hjs
  remaining_eq := h.remaining_eq

/-- Every node ahead is in the arena. -/
theorem Ahead.lt_size (h : t.Ahead p js) (hs : t.Sound) {j : ℕ} (hj : j ∈ js) :
    j < t.nodes.size := by
  obtain ⟨cur, hleads, rfl⟩ := h.split
  rcases List.mem_append.1 hj with hj | hj
  · obtain ⟨node, hnode⟩ := hleads.exists_node hj
    exact (Array.getElem?_eq_some_iff.1 hnode).1
  · obtain ⟨b, -, hb⟩ := List.mem_flatMap.1 hj
    exact hs.chained.lt_size hb

/-- **The nodes ahead after a removal** are those of before, each at its
new place, as the one that is removed is not among them. -/
theorem Ahead.unlink {c : Cursor} (h : t.Ahead c.position js) (hs : t.Sound) {i : ℕ}
    (hi : i < t.nodes.size) (hjs : i ∉ js) :
    (t.unlink i).Ahead (c.afterRemoval t i).position
      (js.map (relocated i (t.nodes.size - 1))) := by
  have hnode := Array.getElem?_eq_getElem hi
  obtain ⟨cur, hleads, rfl⟩ := h.split
  rw [List.mem_append, not_or] at hjs
  rw [afterRemoval_position]
  refine ⟨⟨cur.map (relocated i (t.nodes.size - 1)), ?_, ?_⟩, ?_⟩
  · have hcur : cur.filter (· ≠ i) = cur := by
      refine List.filter_eq_self.2 fun j hj => ?_
      have hne : j ≠ i := fun he => hjs.1 (he ▸ hj)
      simpa using hne
    have hstart : c.position.successor ≠ some i := by
      intro he
      rw [he] at hleads
      exact hjs.1 hleads.start_mem
    have hmoved := hs.leads_unlink hnode hleads
    rwa [hcur, bypass_of_ne hstart] at hmoved
  · rw [List.map_append, List.map_flatMap, capacity_unlink]
    congr 1
    refine List.flatMap_congr fun b hb => ?_
    rw [hs.chain_unlink hnode]
    congr 1
    refine (List.filter_eq_self.2 fun j hj => ?_).symm
    have hne : j ≠ i := by
      rintro rfl
      exact hjs.2 (List.mem_flatMap.2 ⟨b, hb, hj⟩)
    simpa using hne
  · rw [List.length_map]
    exact h.remaining_eq

end Change

/-! ## A tour -/

/-- What happens while a cursor is under way, with what it answers. -/
inductive Event (K V : Type) where
  /-- The cursor is asked for the next entry. -/
  | next (answer : Except CursorFault (Option (K × V)))
  /-- The cursor is asked whether entries are still to come. -/
  | hasNext (answer : Except CursorFault Bool)
  /-- The cursor is told to remove the entry that it returned last. -/
  | remove (answer : Except CursorFault (K × V))
  /-- The table is called otherwise. -/
  | call (c : Call K V) (answer : Answer K V)

namespace Event

/-- The entry that the cursor returns. -/
def visit? : Event K V → Option (K × V)
  | .next (.ok e) => e
  | _ => none

/-- The key that the cursor may remove, after the event. -/
def pending (last : Option K) : Event K V → Option K
  | .next (.ok (some e)) => some e.1
  | .remove (.ok _) => none
  | _ => last

/-- What is told to the user if the event is refused. -/
def refusal? : Event K V → Option Report
  | .next (.error fault) | .hasNext (.error fault) | .remove (.error fault) => some fault.report
  | .call _ (.failed report) => some report
  | _ => none

/-- The event was not refused because the table had changed, nor because
of a fault in the program. -/
def Unbroken (e : Event K V) : Prop :=
  ∀ r, e.refusal? = some r → r.kind ≠ .concurrentModification ∧ r.kind ≠ .internal

theorem unbroken_of_eq_none {e : Event K V} (h : e.refusal? = none) : e.Unbroken := by
  intro r hr
  rw [h] at hr
  cases hr

/-- The ledger after the event: the cursor removes, or a call changes
it. -/
def keep [DecidableEq K] [TableKey K] (l : Ledger K V) : Event K V → Ledger K V
  | .remove (.ok e) => (l.remove e.1).2
  | .call c a => l.after c a
  | _ => l

end Event

/-- The entries that the cursor returned. -/
def visited (log : List (Event K V)) : List (K × V) := log.filterMap Event.visit?

/-- The key returned last, until it is removed. -/
def pending (log : List (Event K V)) : Option K := log.foldl Event.pending none

/-- What is left of the ledger: less the entries that the cursor removed,
and with the values that were put meanwhile. -/
def kept [DecidableEq K] [TableKey K] (l : Ledger K V) (log : List (Event K V)) : Ledger K V :=
  log.foldl Event.keep l

/-- The keys in traversal order. -/
def route (t : Table K V) : List K := t.entries.map Prod.fst

theorem visited_append (log : List (Event K V)) (e : Event K V) :
    visited (log ++ [e]) = visited log ++ e.visit?.toList := by
  rw [visited, List.filterMap_append, visited]
  cases h : e.visit? <;> simp [h]

theorem pending_append (log : List (Event K V)) (e : Event K V) :
    pending (log ++ [e]) = e.pending (pending log) := List.foldl_concat ..

theorem unbroken_append {log : List (Event K V)} {e : Event K V} (h : ∀ x ∈ log, x.Unbroken)
    (he : e.Unbroken) : ∀ x ∈ log ++ [e], x.Unbroken :=
  List.forall_mem_append.2 ⟨h, List.forall_mem_singleton.2 he⟩

variable [DecidableEq K] [TableKey K]

theorem kept_append (l : Ledger K V) (log : List (Event K V)) (e : Event K V) :
    kept l (log ++ [e]) = e.keep (kept l log) := List.foldl_concat ..

/-- **The calls that leave the structure as it is**: reads, values put to
keys that have one, blank keys, which are refused, and removals of keys
without a value. -/
def Quiet (t : Table K V) : Call K V → Prop
  | .get _ | .contains _ | .containsValue _ | .size | .isEmpty => True
  | .put k _ => TableKey.isBlank k = true ∨ t.contains k = true
  | .remove k => t.contains k = false
  | .clear | .putAll _ | .removeAt _ => False

variable [DecidableEq V] in
/-- **A tour of the table.** It begins with a new cursor; then the cursor
is used, or the table is called without a change of its structure, in any
order. -/
inductive Tour (t₀ : Table K V) : List (Event K V) → Table K V → Cursor → Prop
  /-- The cursor is made. -/
  | start : Tour t₀ [] t₀ (.ofTable t₀)
  /-- The cursor moves on. -/
  | next {log : List (Event K V)} {t : Table K V} {c : Cursor} :
      Tour t₀ log t c → Tour t₀ (log ++ [.next (c.next t).1]) t (c.next t).2
  /-- The cursor looks ahead. -/
  | hasNext {log : List (Event K V)} {t : Table K V} {c : Cursor} :
      Tour t₀ log t c → Tour t₀ (log ++ [.hasNext (c.hasNext t)]) t c
  /-- The cursor removes what it returned. -/
  | remove {log : List (Event K V)} {t : Table K V} {c : Cursor} :
      Tour t₀ log t c →
        Tour t₀ (log ++ [.remove (c.remove t).1]) (c.remove t).2.2 (c.remove t).2.1
  /-- The table is called. -/
  | call {log : List (Event K V)} {t : Table K V} {c : Cursor} {x : Call K V} :
      Tour t₀ log t c → t.Quiet x → Tour t₀ (log ++ [.call x (t.call x).1]) (t.call x).2 c

/-- **What a cursor answers** that got to `c` on a tour of `t₀`, with the
table now being `t`. -/
structure Guided (t₀ : Table K V) (log : List (Event K V)) (t : Table K V) (c : Cursor) :
    Prop where
  /-- No answer so far was that the table had changed, or a fault of the
  program. -/
  unbroken : ∀ e ∈ log, e.Unbroken
  /-- It returned the first keys of the traversal, in its order. -/
  visited_eq : (visited log).map Prod.fst = t₀.route.take (visited log).length
  /-- It sees more to come when keys of the traversal are left. -/
  hasNext_eq : c.hasNext t = .ok (decide ((visited log).length < t₀.route.length))
  /-- It returns the next key of the traversal, with its value of now. -/
  next_eq : ∀ {k : K}, t₀.route[(visited log).length]? = some k →
    ∃ v, t.get? k = some v ∧ (c.next t).1 = .ok (some (k, v))
  /-- It returns nothing when no key is left. -/
  next_end : t₀.route[(visited log).length]? = none → (c.next t).1 = .ok none
  /-- It removes the entry returned last, which has its value of now, and
  no other entry. -/
  remove_eq : ∀ {k : K}, pending log = some k →
    ∃ v, t.get? k = some v ∧ (c.remove t).1 = .ok (k, v) ∧
      (c.remove t).2.2.entries = t.entries.filter fun e => e.1 ≠ k
  /-- It refuses to remove anything else. -/
  remove_refused : pending log = none →
    ∃ fault : CursorFault, c.remove t = (.error fault, c, t) ∧ fault.report.kind = .illegalState
  /-- The entries that were not removed are where they were, with the
  values that were put since. -/
  entries_eq : t.entries = (kept ⟨t₀.entries⟩ log).entries

/-! ## The invariant -/

/-- **The nodes ahead of a cursor under way** have the keys that it did
not visit yet, and the node returned last is behind it. -/
structure Touring (t₀ : Table K V) (log : List (Event K V)) (t : Table K V) (c : Cursor)
    (js : List ℕ) : Prop where
  sound : t.Sound
  agrees : c.agrees t = true
  unbroken : ∀ e ∈ log, e.Unbroken
  visited_eq : (visited log).map Prod.fst = t₀.route.take (visited log).length
  ahead : t.Ahead c.position js
  nodup : js.Nodup
  keys_eq : (js.filterMap t.entryAt?).map Prod.fst = t₀.route.drop (visited log).length
  last_eq : ∀ {k : K}, pending log = some k →
    ∃ i v, c.last = some i ∧ t.entryAt? i = some (k, v) ∧ i ∉ js
  last_eq_none : pending log = none → c.last = none
  entries_eq : t.entries = (kept ⟨t₀.entries⟩ log).entries

namespace Touring

variable {t₀ t : Table K V} {log : List (Event K V)} {c : Cursor} {js : List ℕ}

theorem start (h₀ : t₀.Sound) : t₀.Touring [] t₀ (.ofTable t₀) t₀.indices where
  sound := h₀
  agrees := beq_self_eq_true _
  unbroken := List.forall_mem_nil _
  visited_eq := rfl
  ahead := h₀.ahead_start
  nodup := h₀.indices_nodup
  keys_eq := rfl
  last_eq := by
    intro k hk
    cases hk
  last_eq_none _ := rfl
  entries_eq := rfl

/-- An event that moves nothing is only noted. -/
theorem noted (h : t₀.Touring log t c js) {e : Event K V} (he : e.Unbroken)
    (hv : e.visit? = none) (hp : ∀ last, e.pending last = last)
    (hk : e.keep (kept ⟨t₀.entries⟩ log) = kept ⟨t₀.entries⟩ log) :
    t₀.Touring (log ++ [e]) t c js := by
  have hvisited : visited (log ++ [e]) = visited log := by
    rw [visited_append, hv]
    exact List.append_nil _
  have hpending : pending (log ++ [e]) = pending log := by
    rw [pending_append, hp]
  have hkept : kept ⟨t₀.entries⟩ (log ++ [e]) = kept ⟨t₀.entries⟩ log := by
    rw [kept_append, hk]
  refine ⟨h.sound, h.agrees, unbroken_append h.unbroken he, ?_, h.ahead, h.nodup, ?_, ?_, ?_, ?_⟩
  · rw [hvisited]
    exact h.visited_eq
  · rw [hvisited]
    exact h.keys_eq
  · rw [hpending]
    exact h.last_eq
  · rw [hpending]
    exact h.last_eq_none
  · rw [hkept]
    exact h.entries_eq

/-- With nothing ahead the cursor stays where it is. -/
theorem next_nil (h : t₀.Touring log t c []) : c.next t = (.ok none, c) := by
  have hlen : c.position.remaining = 0 := h.ahead.remaining_eq
  rw [Cursor.next, if_pos h.agrees, if_pos hlen]

/-- Otherwise it takes the first node ahead. -/
theorem next_cons {j : ℕ} (h : t₀.Touring log t c (j :: js)) :
    ∃ e c', c.next t = (.ok (some e), c') ∧ t.entryAt? j = some e ∧
      c'.expected = c.expected ∧ c'.last = some j ∧ t.Ahead c'.position js := by
  obtain ⟨b, node, hafter, hnode, hahead⟩ := h.ahead.nodeAfter h.sound.chained
  have hlen : c.position.remaining ≠ 0 := by
    rw [h.ahead.remaining_eq]
    exact Nat.succ_ne_zero _
  let moved : Cursor := {
    c with
    position := { bucket := b, successor := node.next, remaining := c.position.remaining - 1 }
    last := some j }
  refine ⟨(node.key, node.value), moved, ?_, entryAt?_eq_some hnode, rfl, rfl, hahead⟩
  simp only [Cursor.next, if_pos h.agrees, if_neg hlen, hafter, hnode, moved]

/-- **Moving on.** -/
theorem next (h : t₀.Touring log t c js) :
    ∃ js', t₀.Touring (log ++ [.next (c.next t).1]) t (c.next t).2 js' := by
  cases js with
  | nil =>
    rw [h.next_nil]
    exact ⟨[], h.noted (Event.unbroken_of_eq_none rfl) rfl (fun _ => rfl) rfl⟩
  | cons j js =>
    obtain ⟨e, c', hnext, he, hexpected, hlast, hahead⟩ := h.next_cons
    rw [hnext]
    have hvisited : visited (log ++ [.next (.ok (some e))]) = visited log ++ [e] :=
      visited_append log _
    have hkeys := h.keys_eq
    rw [List.filterMap_cons_some he, List.map_cons] at hkeys
    have hlt : (visited log).length < t₀.route.length := by
      by_contra hge
      rw [List.drop_eq_nil_of_le (Nat.not_lt.1 hge)] at hkeys
      cases hkeys
    rw [List.drop_eq_getElem_cons hlt, List.cons.injEq] at hkeys
    have hnodup := List.nodup_cons.1 h.nodup
    refine ⟨js, h.sound, ?_, unbroken_append h.unbroken (Event.unbroken_of_eq_none rfl), ?_,
      hahead, hnodup.2, ?_, ?_, ?_, ?_⟩
    · rw [Cursor.agrees, hexpected]
      exact h.agrees
    · -- the key that is returned is the next one of the traversal
      rw [hvisited, List.map_append, h.visited_eq, List.length_append, List.map_singleton,
        hkeys.1, List.length_singleton, List.take_succ_eq_append_getElem hlt]
    · rw [hvisited, List.length_append]
      exact hkeys.2
    · intro k hk
      rw [pending_append] at hk
      cases hk
      exact ⟨j, e.2, hlast, he, hnodup.1⟩
    · intro hk
      rw [pending_append] at hk
      cases hk
    · rw [kept_append]
      exact h.entries_eq

/-- What is returned last can be removed. -/
theorem remove_some (h : t₀.Touring log t c js) {k : K} (hk : pending log = some k) :
    ∃ i v, t.entryAt? i = some (k, v) ∧ i ∉ js ∧
      c.remove t = (.ok (k, v), c.afterRemoval t i, t.unlink i) := by
  obtain ⟨i, v, hlast, hi, hjs⟩ := h.last_eq hk
  refine ⟨i, v, hi, hjs, ?_⟩
  simp only [Cursor.remove, if_pos h.agrees, hlast, hi]

theorem remove_none (h : t₀.Touring log t c js) (hk : pending log = none) :
    c.remove t = (.error .nothingReturned, c, t) := by
  simp only [Cursor.remove, if_pos h.agrees, h.last_eq_none hk]

/-- **Removing what was returned.** The nodes ahead move along with the
arena. -/
theorem remove (h : t₀.Touring log t c js) :
    ∃ js', t₀.Touring (log ++ [.remove (c.remove t).1]) (c.remove t).2.2 (c.remove t).2.1 js' := by
  cases hk : pending log with
  | none =>
    rw [h.remove_none hk]
    refine ⟨js, h.noted ?_ rfl (fun _ => rfl) rfl⟩
    rintro r ⟨⟩
    exact ⟨Kind.noConfusion, Kind.noConfusion⟩
  | some k =>
    obtain ⟨i, v, hi, hjs, hremove⟩ := h.remove_some hk
    rw [hremove]
    have hlt := exists_entryAt?.1 ⟨_, hi⟩
    have hvisited : visited (log ++ [.remove (.ok (k, v))]) = visited log :=
      (visited_append log _).trans (List.append_nil _)
    have hne : ∀ {j}, j ∈ js → j ≠ i := fun hj he => hjs (he ▸ hj)
    refine ⟨js.map (relocated i (t.nodes.size - 1)), h.sound.unlink hlt, ?_,
      unbroken_append h.unbroken (Event.unbroken_of_eq_none rfl), ?_,
      h.ahead.unlink h.sound hlt hjs, ?_, ?_, ?_, ?_, ?_⟩
    · exact beq_self_eq_true _
    · rw [hvisited]
      exact h.visited_eq
    · refine List.Nodup.map_on ?_ h.nodup
      intro x hx y hy
      exact relocated_inj (hne hx) (hne hy)
    · -- the entries ahead are those of before
      rw [hvisited, ← h.keys_eq, List.filterMap_map]
      congr 1
      refine List.filterMap_congr fun j hj => ?_
      exact h.sound.entryAt?_unlink hlt (hne hj) (h.ahead.lt_size h.sound hj)
    · intro k' hk'
      rw [pending_append] at hk'
      cases hk'
    · intro _
      rfl
    · rw [kept_append, h.sound.entries_unlink hi, h.entries_eq]
      rfl

/-- **Replacing a value.** No node moves, and no key changes. -/
theorem replaced (h : t₀.Touring log t c js) {i : ℕ} {k : K} {w : V}
    (hi : t.entryAt? i = some (k, w)) (v : V) (old : Option V) :
    t₀.Touring (log ++ [.call (.put k v) (.value old)]) (t.replaced i v) c js := by
  have hvisited : visited (log ++ [.call (.put k v) (.value old)]) = visited log :=
    (visited_append log _).trans (List.append_nil _)
  have hpending : pending (log ++ [.call (.put k v) (.value old)]) = pending log :=
    pending_append log _
  have hkey : ∀ j, ((t.replaced i v).entryAt? j).map Prod.fst = (t.entryAt? j).map Prod.fst := by
    intro j
    rw [entryAt?_replaced]
    split_ifs
    · rw [Option.map_map]
      rfl
    · rfl
  refine ⟨h.sound.replaced i v, h.agrees,
    unbroken_append h.unbroken (Event.unbroken_of_eq_none rfl), ?_,
    h.ahead.replaced h.sound i v, h.nodup, ?_, ?_, ?_, ?_⟩
  · rw [hvisited]
    exact h.visited_eq
  · rw [hvisited, ← h.keys_eq, List.map_filterMap, List.map_filterMap]
    exact List.filterMap_congr fun j _ => hkey j
  · rw [hpending]
    intro k' hk'
    obtain ⟨j, u, hlast, hj, hjs⟩ := h.last_eq hk'
    have hj' := hkey j
    rw [hj] at hj'
    obtain ⟨⟨_, u'⟩, he, rfl⟩ := Option.map_eq_some_iff.1 hj'
    exact ⟨j, u', hlast, he, hjs⟩
  · rw [hpending]
    exact h.last_eq_none
  · have hkept : kept ⟨t₀.entries⟩ log = ⟨t.entries⟩ := by
      rw [h.entries_eq]
    have hget : (⟨t.entries⟩ : Ledger K V).get? k = some w :=
      (h.sound.holds.get?_eq k).symm.trans (h.sound.get?_eq_some.2 ⟨i, hi⟩)
    have hblank : ¬ TableKey.isBlank k = true := by
      have := h.sound.unblank hi
      simp [this]
    rw [kept_append, hkept, h.sound.entries_replaced hi]
    simp only [Event.keep, Ledger.after, Ledger.put, if_neg hblank, hget, Ledger.replace]

/-- **Calling the table otherwise.** -/
theorem call [DecidableEq V] (h : t₀.Touring log t c js) {x : Call K V} (hx : t.Quiet x) :
    t₀.Touring (log ++ [.call x (t.call x).1]) (t.call x).2 c js := by
  have hholds := h.sound.holds
  have hkept : kept ⟨t₀.entries⟩ log = ⟨t.entries⟩ := by
    rw [h.entries_eq]
  cases x with
  | get | contains | containsValue | size | isEmpty =>
    exact h.noted (Event.unbroken_of_eq_none rfl) rfl (fun _ => rfl) rfl
  | clear | putAll | removeAt => exact hx.elim
  | remove k =>
    have hfind : t.find? k = none := by
      simpa [Quiet, contains] using hx
    have hsame : t.call (.remove k) = (.value none, t) := by
      simp only [Table.call, Table.remove, hfind]
    rw [hsame]
    refine h.noted (Event.unbroken_of_eq_none rfl) rfl (fun _ => rfl) ?_
    rw [hkept]
    exact Ledger.remove_of_get?_eq_none
      ((hholds.get?_eq k).symm.trans (h.sound.find?_eq_none.1 hfind))
  | put k v =>
    cases hk : TableKey.isBlank k with
    | true =>
      have hsame : t.call (.put k v) = (.failed TableFault.blankKey.report, t) := by
        simp only [Table.call, put_blank hk]
      rw [hsame]
      refine h.noted ?_ rfl (fun _ => rfl) ?_
      · rintro r ⟨⟩
        exact ⟨Kind.noConfusion, Kind.noConfusion⟩
      · simp [Event.keep, Ledger.after, Ledger.put, hk]
    | false =>
      -- the value is replaced where its key stands
      have hcontains : t.contains k = true := hx.resolve_left (by simp [hk])
      obtain ⟨i, hfind⟩ := Option.isSome_iff_exists.1 hcontains
      obtain ⟨w, hi⟩ := h.sound.find?_eq_some.1 hfind
      have hput : t.call (.put k v) = (.value (t.get? k), t.replaced i v) := by
        simp only [Table.call, put, hk, Bool.false_eq_true, if_false, hfind, Table.replaced]
      rw [hput]
      exact h.replaced hi v _

/-! ## What the cursor answers -/

/-- Looking ahead is answered. -/
theorem hasNext_eq (h : t₀.Touring log t c js) :
    c.hasNext t = .ok (decide (0 < c.position.remaining)) := by
  rw [Cursor.hasNext, if_pos h.agrees]

/-- The keys of the nodes ahead are the rest of the route. -/
theorem route_getElem? (h : t₀.Touring log t c js) :
    t₀.route[(visited log).length]? = ((js.filterMap t.entryAt?).map Prod.fst).head? := by
  rw [h.keys_eq, List.head?_drop]

theorem length_lt_iff (h : t₀.Touring log t c js) :
    (visited log).length < t₀.route.length ↔ 0 < c.position.remaining := by
  have hlen := congrArg List.length h.keys_eq
  rw [List.length_map, List.length_drop, (List.filterMap_length_eq_length).2] at hlen
  · rw [h.ahead.remaining_eq, hlen]
    omega
  · intro j hj
    obtain ⟨e, he⟩ := exists_entryAt?.2 (h.ahead.lt_size h.sound hj)
    rw [he]
    rfl

theorem guided (h : t₀.Touring log t c js) : t₀.Guided log t c where
  unbroken := h.unbroken
  visited_eq := h.visited_eq
  hasNext_eq := by
    rw [h.hasNext_eq]
    simp only [h.length_lt_iff]
  next_eq := by
    intro k hk
    rw [h.route_getElem?] at hk
    cases js with
    | nil => cases hk
    | cons j js =>
      obtain ⟨e, c', hnext, he, -⟩ := h.next_cons
      rw [List.filterMap_cons_some he] at hk
      cases hk
      refine ⟨e.2, h.sound.get?_eq_some.2 ⟨j, he⟩, ?_⟩
      rw [hnext]
  next_end := by
    intro hend
    rw [h.route_getElem?] at hend
    cases js with
    | nil => rw [h.next_nil]
    | cons j js =>
      obtain ⟨e, c', hnext, he, -⟩ := h.next_cons
      rw [List.filterMap_cons_some he] at hend
      cases hend
  remove_eq := by
    intro k hk
    obtain ⟨i, v, hi, -, hremove⟩ := h.remove_some hk
    refine ⟨v, h.sound.get?_eq_some.2 ⟨i, hi⟩, ?_, ?_⟩
    · rw [hremove]
    · rw [hremove]
      exact h.sound.entries_unlink hi
  remove_refused hk := ⟨.nothingReturned, h.remove_none hk, rfl⟩
  entries_eq := h.entries_eq

end Touring

/-- **A cursor under way keeps to the traversal.** Wherever a tour has got
to, the cursor answers as `Guided` says. -/
theorem guided_of_tour [DecidableEq V] {t₀ t : Table K V} {log : List (Event K V)} {c : Cursor}
    (h₀ : t₀.Reachable) (h : t₀.Tour log t c) : t₀.Guided log t c := by
  have htouring : ∃ js, t₀.Touring log t c js := by
    induction h with
    | start => exact ⟨_, .start h₀.sound⟩
    | next _ ih =>
      obtain ⟨js, hjs⟩ := ih
      exact hjs.next
    | hasNext _ ih =>
      obtain ⟨js, hjs⟩ := ih
      rw [hjs.hasNext_eq]
      exact ⟨js, hjs.noted (Event.unbroken_of_eq_none rfl) rfl (fun _ => rfl) rfl⟩
    | remove _ ih =>
      obtain ⟨js, hjs⟩ := ih
      exact hjs.remove
    | call _ hx ih =>
      obtain ⟨js, hjs⟩ := ih
      exact ⟨js, hjs.call hx⟩
  obtain ⟨js, hjs⟩ := htouring
  exact hjs.guided

/-- Three entries of one bucket, of which the second is removed on the way:
the last one moves into its place and is still to come. -/
theorem guided_of_tour_removal :
    ∃ (log : List (Event ℤ ℕ)) (t : Table ℤ ℕ) (c : Cursor),
      ((empty (fun _ => 0) 4).after [.put 1 10, .put 2 20, .put 3 30]).Tour log t c ∧
        ((empty (fun _ => 0) 4).after [.put 1 10, .put 2 20, .put 3 30]).Guided log t c ∧
        visited log = [(1, 10), (2, 20)] ∧ t.entries = [(1, 10), (3, 30)] ∧
        (c.next t).1 = .ok (some (3, 30)) := by
  have hcreate : create (fun _ : ℤ => 0) 4 = .ok (empty (fun _ => 0) 4 : Table ℤ ℕ) := rfl
  have hreachable := (((Reachable.create hcreate).call (c := .put 1 10) nofun).call
    (c := .put 2 20) nofun).call (c := .put 3 30) nofun
  have hstart : ((empty (fun _ => 0) 4 : Table ℤ ℕ).after [.put 1 10, .put 2 20, .put 3 30]).Tour
      [] _ _ := .start
  have htour := hstart.next.next.remove
  exact ⟨_, _, _, htour, guided_of_tour hreachable htour, rfl, rfl, rfl⟩

end Table

end Cardfile
