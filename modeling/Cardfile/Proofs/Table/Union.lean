import Cardfile.Proofs.Table.Tour
import Cardfile.Proofs.Table.Values
import Mathlib.Data.Set.Card
/-!
# Table — a table put into another

Putting a table never fails, as no key of a table is blank. What comes of
it is the union of the two in which the table that is put has the last
word (`United`): keys that had values stay where they were in the order of
insertion, and the new ones follow in the order of the other table's
traversal (`Ledger.putEntries_eq_joined`). If there are no new keys, all
that changes is values, and cursors cannot tell (`Sound.putAll_eq_revalued`).
-/

namespace Cardfile

variable {K V : Type} [DecidableEq K]

/-! ## Ledgers -/

namespace Ledger

variable {l : Ledger K V} {es : List (K × V)}

/-- The ledger with the entries put: its keys stand where they stood, with
the values that the entries have for them, and new keys come last. -/
def joined (l : Ledger K V) (es : List (K × V)) : Ledger K V :=
  ⟨l.entries.map (withValue (Table.valueIn es)) ++ es.filter fun e => (l.get? e.1).isNone⟩

/-- **A key has the value of the entries, or else the one of before.** -/
theorem get?_joined (k : K) :
    (l.joined es).get? k = ((⟨es⟩ : Ledger K V).get? k).or (l.get? k) := by
  have hkeep : (fun e : K × V => decide (e.1 = k)) ∘ withValue (Table.valueIn es) =
      fun e => decide (e.1 = k) := rfl
  rw [get?, joined, List.find?_append, List.find?_map, hkeep, List.find?_filter]
  cases hfind : l.entries.find? fun e => decide (e.1 = k) with
  | some e =>
    have hk : e.1 = k := by simpa using List.find?_some hfind
    have hget : l.get? k = some e.2 := by rw [get?, hfind, Option.map_some]
    rw [hget]
    simp only [Option.map_some, Option.some_or, withValue, Table.valueIn, hk]
    cases (⟨es⟩ : Ledger K V).get? k <;> rfl
  | none =>
    have hget : l.get? k = none := by rw [get?, hfind, Option.map_none]
    have hnew : (fun e : K × V => decide ((l.get? e.1).isNone = true ∧ decide (e.1 = k) = true)) =
        fun e => decide (e.1 = k) := by
      funext e
      by_cases he : e.1 = k <;> simp [he, hget]
    rw [hget, Option.or_none, hnew]
    rfl

/-- The new keys come last. -/
theorem keys_joined :
    (l.joined es).keys = l.keys ++ (es.map Prod.fst).filter fun k => (l.get? k).isNone := by
  rw [keys, joined, List.map_append, List.map_map, List.filter_map]
  rfl

variable [TableKey K]

/-- **Putting entries one after the other** joins them to the ledger. As
no key comes twice, those that are new remain so until they are put. -/
theorem putEntries_eq_joined (hes : ∀ e ∈ es, TableKey.isBlank e.1 = false)
    (hnd : (es.map Prod.fst).Nodup) : l.putEntries es = .ok (l.joined es) := by
  induction es generalizing l with
  | nil =>
    have hsame : l.entries.map (withValue (Table.valueIn [])) = l.entries :=
      List.map_id _
    rw [putEntries, joined, hsame, List.filter_nil, List.append_nil]
  | cons e es ih =>
    rw [List.map_cons, List.nodup_cons] at hnd
    obtain ⟨hblank, hblanks⟩ := List.forall_mem_cons.1 hes
    have hne : ∀ e' ∈ es, e'.1 ≠ e.1 := fun e' he' heq =>
      hnd.1 (heq ▸ List.mem_map_of_mem he')
    rw [putEntries, put, if_neg (by simp [hblank])]
    cases hget : l.get? e.1 with
    | some old =>
      -- the key stands, and so do the others
      have hentries : (l.replace e.1 e.2).entries.map (withValue (Table.valueIn es)) =
          l.entries.map (withValue (Table.valueIn (e :: es))) := by
        rw [replace, List.map_map]
        refine List.map_congr_left fun e' _ => ?_
        rw [Function.comp, ← Table.withValue_singleton]
        exact congrArg (e'.1, ·) (Table.valueIn_cons hnd.1 _ _)
      have hnew : es.filter (fun e' => ((l.replace e.1 e.2).get? e'.1).isNone) =
          (e :: es).filter fun e' => (l.get? e'.1).isNone := by
        rw [List.filter_cons_of_neg (by simp [hget])]
        refine List.filter_congr fun e' he' => ?_
        rw [get?_replace, if_neg (hne e' he')]
      refine (ih hblanks hnd.2).trans ?_
      rw [joined, hentries, hnew, joined]
    | none =>
      -- the key comes after those that stand, and before the other new ones
      have hentries : (l.append e.1 e.2).entries.map (withValue (Table.valueIn es)) =
          l.entries.map (withValue (Table.valueIn (e :: es))) ++ [e] := by
        rw [append, List.map_append, List.map_singleton]
        refine congrArg₂ (· ++ [·]) (List.map_congr_left fun e' he' => ?_)
          (congrArg (e.1, ·) (Table.valueIn_of_not_mem hnd.1 _))
        have hother : e'.1 ≠ e.1 := fun heq =>
          get?_eq_none.1 hget (heq ▸ List.mem_map_of_mem he')
        have hfirst : withValue (Table.valueIn [e]) e' = e' := by
          rw [Table.withValue_singleton, if_neg hother]
        calc withValue (Table.valueIn es) e'
            = withValue (Table.valueIn es) (withValue (Table.valueIn [e]) e') := by rw [hfirst]
          _ = withValue (Table.valueIn (e :: es)) e' :=
              congrArg (e'.1, ·) (Table.valueIn_cons hnd.1 _ _)
      have hnew : es.filter (fun e' => ((l.append e.1 e.2).get? e'.1).isNone) =
          es.filter fun e' => (l.get? e'.1).isNone := by
        refine List.filter_congr fun e' he' => ?_
        rw [get?_append hget, if_neg (hne e' he')]
      refine (ih hblanks hnd.2).trans ?_
      rw [joined, hentries, hnew, joined, List.filter_cons_of_pos (by simp [hget]),
        List.append_assoc, List.singleton_append]

end Ledger

/-! ## Tables -/

namespace Table

variable {t other : Table K V}

/-- The keys that have a value. -/
def keys (t : Table K V) : Set K := {k | t.contains k = true}

/-- The value that the other table has for the key, or else the one of
before. -/
def valueFrom (other : Table K V) (k : K) (v : V) : V := (other.get? k).getD v

/-- As many keys as a list without repetition has members. -/
theorem ncard_of_nodup {ks : List K} (hnd : ks.Nodup) {s : Set K} (hs : ∀ k, k ∈ s ↔ k ∈ ks) :
    s.ncard = ks.length := by
  have heq : s = ↑ks.toFinset := by
    ext k
    rw [hs, Finset.mem_coe, List.mem_toFinset]
  rw [heq, Set.ncard_coe_finset, List.toFinset_card_of_nodup hnd]

variable [TableKey K]

theorem Sound.mem_keys_iff (h : t.Sound) {k : K} : k ∈ t.keys ↔ (t.get? k).isSome = true := by
  rw [← h.contains_eq]
  rfl

/-- The keys are those of the traversal. -/
theorem Sound.mem_route_iff (h : t.Sound) {k : K} : k ∈ t.route ↔ k ∈ t.keys := by
  rw [← not_iff_not, h.mem_keys_iff, h.holds.get?_eq, Bool.not_eq_true,
    Option.isSome_eq_false_iff, Option.isNone_iff_eq_none, Ledger.get?_eq_none]
  rfl

theorem Sound.size_eq_ncard (h : t.Sound) : t.size = t.keys.ncard := by
  rw [ncard_of_nodup h.keys_nodup fun _ => h.mem_route_iff.symm, List.length_map,
    h.length_entries]

/-- **Nothing but values is other than before**, and every cursor goes on
as it would have, with the other values. -/
structure SameButValues (t t' : Table K V) (f : K → V → V) : Prop where
  /-- A walk meets the same keys in the same order. -/
  route_eq : t'.route = t.route
  /-- The capacity is the same. -/
  capacity_eq : t'.capacity = t.capacity
  /-- No structural change was made. -/
  generation_eq : t'.generation = t.generation
  /-- A cursor sees as many entries to come. -/
  hasNext_eq : ∀ c : Cursor, c.hasNext t' = c.hasNext t
  /-- It returns the entry that it would have returned. -/
  next_eq : ∀ c : Cursor,
    c.next t' = ((c.next t).1.map (Option.map (withValue f)), (c.next t).2)
  /-- It removes the entry that it would have removed, and again nothing
  but values is other than it would have been. -/
  remove_eq : ∀ c : Cursor,
    c.remove t' = ((c.remove t).1.map (withValue f), (c.remove t).2.1, (c.remove t).2.2.revalued f)

omit [DecidableEq K] [TableKey K] in
theorem sameButValues_revalued (t : Table K V) (f : K → V → V) :
    t.SameButValues (t.revalued f) f where
  route_eq := by
    rw [route, entries_revalued, List.map_map]
    rfl
  capacity_eq := rfl
  generation_eq := rfl
  hasNext_eq := Cursor.hasNext_revalued
  next_eq := Cursor.next_revalued
  remove_eq := Cursor.remove_revalued

/-- **What comes of a table into which another one is put**: `t'` of `t`,
and of the ledger `l` of the history before it the ledger `l'`. -/
structure United (t other t' : Table K V) (l l' : Ledger K V) : Prop where
  /-- A key has the value that the other table has for it, or else the one
  of before. -/
  get?_eq : ∀ k, t'.get? k = (other.get? k).or (t.get? k)
  /-- There are as many entries as keys in both. -/
  size_eq : t'.size = (t.keys ∪ other.keys).ncard
  /-- The keys of before stand where they stood, and the new ones come
  last, in the order of the other table's traversal. -/
  keys_eq : l'.keys = l.keys ++ other.route.filter fun k => !t.contains k
  /-- The traversal goes by that order, bucket by bucket. -/
  entries_eq : t'.entries = l'.inBuckets t.hash t'.capacity
  /-- Each new key is a structural change, and there are no others. -/
  generation_eq : t'.generation = t.generation + UInt64.ofNat (other.keys \ t.keys).ncard
  /-- Without new keys nothing changes but values. -/
  sameButValues : other.keys ⊆ t.keys → t.SameButValues t' (valueFrom other)

theorem Sound.valueIn_entries (h : other.Sound) : valueIn other.entries = valueFrom other := by
  funext k v
  rw [valueIn, valueFrom, h.holds.get?_eq]

/-- **Putting a table without new keys** changes values only. -/
theorem Sound.putAll_eq_revalued (h : t.Sound) (hother : other.Sound)
    (hkeys : other.keys ⊆ t.keys) : t.putAll other = .ok (t.revalued (valueFrom other)) := by
  rw [← hother.valueIn_entries]
  exact h.putEntries_eq_revalued hother.keys_nodup fun e he =>
    hkeys (hother.mem_route_iff.1 (List.mem_map_of_mem he))

/-- A table put into itself changes nothing. -/
theorem Sound.putAll_self (h : t.Sound) : t.putAll t = .ok t := by
  rw [h.putAll_eq_revalued h subset_rfl, revalued_eq_self]
  intro i e he
  have hget : t.get? e.1 = some e.2 := h.get?_eq_some.2 ⟨i, he⟩
  rw [valueFrom, hget, Option.getD_some]

/-- **Putting a table comes to the union**, in the table as in any ledger
of it. -/
theorem Holds.united {l : Ledger K V} (h : t.Holds l) (hother : other.Sound) :
    ∃ t', t.putAll other = .ok t' ∧ t.United other t' l (l.joined other.entries) := by
  have hblanks : ∀ e ∈ other.entries, TableKey.isBlank e.1 = false := fun _ he =>
    hother.holds.unblank he
  obtain ⟨t', l', ht, hl, h', hhash⟩ := h.putAll hother
  rw [Ledger.putEntries_eq_joined hblanks hother.keys_nodup] at hl
  cases hl
  have hget : ∀ k, t'.get? k = (other.get? k).or (t.get? k) := by
    intro k
    rw [h'.get?_eq, Ledger.get?_joined, hother.holds.get?_eq, h.get?_eq]
  have hcontains : ∀ k, (l.get? k).isNone = !t.contains k := by
    intro k
    rw [h.sound.contains_eq, h.get?_eq, Option.not_isSome]
  have hkeys : t'.keys = t.keys ∪ other.keys := by
    ext k
    rw [Set.mem_union, h'.sound.mem_keys_iff, h.sound.mem_keys_iff, hother.mem_keys_iff, hget,
      Option.isSome_or, Bool.or_eq_true, or_comm]
  have hnew : (other.keys \ t.keys).ncard = other.entries.countP fun e => !t.contains e.1 := by
    have hnd : (other.route.filter fun k => !t.contains k).Nodup := hother.keys_nodup.filter _
    rw [ncard_of_nodup hnd, ← List.countP_eq_length_filter, route, List.countP_map]
    · rfl
    · intro k
      rw [Set.mem_sdiff, List.mem_filter, hother.mem_route_iff, Bool.not_eq_true',
        ← Bool.not_eq_true]
      rfl
  refine ⟨t', ht, hget, ?_, ?_, ?_, ?_, ?_⟩
  · rw [h'.sound.size_eq_ncard, hkeys]
  · rw [Ledger.keys_joined]
    simp only [hcontains]
    rfl
  · rw [h'.entries_eq, hhash]
  · rw [hnew]
    exact h.generation_putEntries hblanks hother.keys_nodup ht
  · intro hsub
    rw [h.sound.putAll_eq_revalued hother hsub] at ht
    cases ht
    exact t.sameButValues_revalued _

variable [DecidableEq V]

theorem history_append (t : Table K V) (calls calls' : List (Call K V)) :
    t.history (calls ++ calls') = t.history calls ++ (t.after calls).history calls' := by
  induction calls generalizing t with
  | nil => rfl
  | cons c calls ih => exact congrArg ((c, (t.call c).1) :: ·) (ih (t.call c).2)

/-- **The ledger of a history that ends with a table being put.** -/
theorem ofHistory_putAll (t₀ : Table K V) (calls : List (Call K V)) (hother : other.Sound) :
    Ledger.ofHistory (t₀.history (calls ++ [.putAll other])) =
      (Ledger.ofHistory (t₀.history calls)).joined other.entries := by
  have hafter : ∀ (l : Ledger K V) (a : Answer K V),
      l.after (.putAll other) a = l.joined other.entries := by
    intro l a
    rw [Ledger.after, Ledger.putEntries_eq_joined (fun _ he => hother.holds.unblank he)
      hother.keys_nodup]
  rw [history_append, Ledger.ofHistory, List.foldl_append, history, history, List.foldl_cons,
    List.foldl_nil, hafter]
  rfl

/-- **A table put into another** never fails, after any run of calls, and
makes the union of the two. A table put into itself changes nothing. -/
theorem united_of_putAll {hash : K → UInt64} {requested : ℕ} {t₀ : Table K V}
    (hcreate : create hash requested = .ok t₀) {calls : List (Call K V)}
    (hothers : ∀ x, .putAll x ∈ calls → x.Reachable) (hother : other.Reachable) :
    (∃ t', (t₀.after calls).putAll other = .ok t' ∧
        (t₀.after calls).United other t' (.ofHistory (t₀.history calls))
          (.ofHistory (t₀.history (calls ++ [.putAll other])))) ∧
      (t₀.after calls).putAll (t₀.after calls) = .ok (t₀.after calls) := by
  have hholds := (holds_after hcreate hothers).1
  rw [ofHistory_putAll t₀ calls hother.sound]
  exact ⟨hholds.united hother.sound, hholds.sound.putAll_self⟩

/-- Calls that put two keys in one chain. -/
def crowdedCalls : List (Call ℤ ℕ) := [.put 1 10, .put 2 20]

/-- A table with a key of these and two others, walked through in another
order than they were put. -/
def otherTable : Table ℤ ℕ :=
  (empty (fun k => if k = 2 then 0 else 1) 2).after [.put 3 30, .put 2 21, .put 4 40]

/-- Two of three keys are new, and the table grows when the first of them
is put. -/
theorem united_of_putAll_growing :
    otherTable.Reachable ∧ otherTable.route = [2, 3, 4] ∧
      (Ledger.ofHistory
        ((empty (fun _ => 0) 1).history (crowdedCalls ++ [.putAll otherTable]))).keys =
          [1, 2, 3, 4] ∧
      ∃ t', ((empty (fun _ => 0) 1).after crowdedCalls).putAll otherTable = .ok t' ∧
        t'.get? 1 = some 10 ∧ t'.get? 2 = some 21 := by
  have hcreate : create (fun _ : ℤ => 0) 1 = .ok (empty (fun _ => 0) 1 : Table ℤ ℕ) := rfl
  have hother : create (fun k : ℤ => if k = 2 then 0 else 1) 2 =
      .ok (empty (fun k => if k = 2 then 0 else 1) 2 : Table ℤ ℕ) := rfl
  have hreachable : otherTable.Reachable :=
    (((Reachable.create hother).call (c := .put 3 30) nofun).call (c := .put 2 21) nofun).call
      (c := .put 4 40) nofun
  have hothers : ∀ x, .putAll x ∈ crowdedCalls → x.Reachable := by simp [crowdedCalls]
  obtain ⟨⟨t', ht, h⟩, -⟩ := united_of_putAll hcreate hothers hreachable
  refine ⟨hreachable, by decide, ?_, t', ht, ?_, ?_⟩
  · rw [h.keys_eq]
    decide
  · rw [h.get?_eq]
    decide
  · rw [h.get?_eq]
    decide

end Table

end Cardfile
