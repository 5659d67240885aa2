import Cardfile.Proofs.Outcome
import Cardfile.Proofs.Table.Changes
import Mathlib
/-!
# Table — the capacity of a history

The capacity is the first power of two that covers what was requested,
doubled as seldom as leaves a quarter of it free at the largest size so
far (`DoubledFor`). Nothing else of the history matters: a table that
shrinks keeps its capacity.

A call other than a put leaves size and capacity, or less of the size; a
put of a new key adds one to the size and doubles the capacity if three
quarters are then taken (`Sound.sizes_call`). One doubling is enough, for
the size was below three quarters before. The run lemma is
`DoubledFor.after`; it speaks of single puts, which a table that is put
comes down to (`after_steps`).
-/

namespace Cardfile

namespace Table

variable {K V : Type} {t : Table K V}

/-! ## Powers of two -/

/-- **A table is made with the least power of two** that covers what was
requested. -/
theorem isLeast_leastPower (n : ℕ) :
    IsLeast {c | (∃ i, c = 2 ^ i) ∧ n ≤ c} (leastPower n) := by
  rw [leastPower]
  split_ifs with hn
  · exact ⟨⟨⟨0, rfl⟩, hn⟩, fun c ⟨⟨i, hi⟩, _⟩ => hi ▸ Nat.one_le_two_pow⟩
  · have hne : n - 1 ≠ 0 := by omega
    refine ⟨⟨⟨_, rfl⟩, ?_⟩, ?_⟩
    · have hlt : n - 1 < 2 ^ ((n - 1).log2 + 1) := Nat.lt_log2_self
      show n ≤ 2 ^ ((n - 1).log2 + 1)
      omega
    · rintro c ⟨⟨i, rfl⟩, hi⟩
      have hlog : (n - 1).log2 < i := (Nat.log2_lt hne).2 (by omega)
      exact Nat.pow_le_pow_right two_pos hlog

/-- A table can be made for one entry up to `2 ^ 63` of them. -/
theorem exists_create_iff {hash : K → UInt64} {requested : ℕ} :
    (∃ t : Table K V, create hash requested = .ok t) ↔ requested ≠ 0 ∧ requested ≤ 2 ^ 63 := by
  obtain ⟨⟨⟨i, hi⟩, hle⟩, hleast⟩ := isLeast_leastPower requested
  have hfits : leastPower requested < wordRange ↔ requested ≤ 2 ^ 63 := by
    constructor
    · intro hlt
      have hpow : 2 ^ i < 2 ^ 64 := hi ▸ hlt
      have hi63 : i ≤ 63 := Nat.le_of_lt_succ ((Nat.pow_lt_pow_iff_right (by decide)).1 hpow)
      exact hle.trans (hi ▸ Nat.pow_le_pow_right two_pos hi63)
    · intro h
      exact (hleast ⟨⟨63, rfl⟩, h⟩).trans_lt (by decide)
  rw [create]
  split_ifs with hzero hlt
  · simp [hzero]
  · exact iff_of_true ⟨_, rfl⟩ ⟨hzero, hfits.1 hlt⟩
  · exact iff_of_false (by simp) fun h => hlt (hfits.2 h.2)

/-- **The capacity is the initial one, doubled as seldom as leaves room**
for so many entries: they take less than three quarters of it. -/
def DoubledFor (initial size capacity : ℕ) : Prop :=
  ∃ j, IsLeast {j | 4 * size < 3 * (initial * 2 ^ j)} j ∧ capacity = initial * 2 ^ j

namespace DoubledFor

variable {initial size size' capacity : ℕ}

theorem zero (h : 0 < initial) : DoubledFor initial 0 initial :=
  ⟨0, ⟨show 4 * 0 < 3 * (initial * 2 ^ 0) by omega, fun _ _ => Nat.zero_le _⟩, by simp⟩

theorem room (h : DoubledFor initial size capacity) : 4 * size < 3 * capacity := by
  obtain ⟨j, hj, rfl⟩ := h
  exact hj.1

/-- More entries ask for at least as many doublings. -/
theorem stay (h : DoubledFor initial size capacity) (hle : size ≤ size')
    (hroom : 4 * size' < 3 * capacity) : DoubledFor initial size' capacity := by
  obtain ⟨j, hj, rfl⟩ := h
  refine ⟨j, ⟨hroom, fun i hi => hj.2 ?_⟩, rfl⟩
  exact (Nat.mul_le_mul_left 4 hle).trans_lt hi

/-- Twice the capacity has room for one entry more, also if it was one or
two. -/
theorem room_doubled (h : 4 * size < 3 * capacity) : 4 * (size + 1) < 3 * (2 * capacity) := by
  rcases Nat.lt_or_ge 1 capacity with hc | hc
  · omega
  · obtain rfl : capacity = 1 := by omega
    omega

/-- Once the room is used up one doubling more is needed. -/
theorem double (h : DoubledFor initial size capacity) (hfull : 3 * capacity ≤ 4 * size')
    (hroom : 4 * size' < 3 * (2 * capacity)) : DoubledFor initial size' (2 * capacity) := by
  obtain ⟨j, hj, rfl⟩ := h
  have hnext : initial * 2 ^ (j + 1) = 2 * (initial * 2 ^ j) := by
    rw [pow_succ, ← mul_assoc, mul_comm]
  refine ⟨j + 1, ⟨?_, fun i hi => ?_⟩, hnext.symm⟩
  · show 4 * size' < 3 * (initial * 2 ^ (j + 1))
    rw [hnext]
    exact hroom
  · have hi : 4 * size' < 3 * (initial * 2 ^ i) := hi
    by_contra hij
    have hpow : initial * 2 ^ i ≤ initial * 2 ^ j :=
      Nat.mul_le_mul_left _ (Nat.pow_le_pow_right two_pos (by omega))
    omega

end DoubledFor

/-! ## One call -/

theorem size_unlink {i : ℕ} (hi : i < t.nodes.size) : (t.unlink i).size = t.size - 1 :=
  size_nodes_unlink hi

theorem isCrowded_iff : t.isCrowded = true ↔ 3 * t.capacity ≤ 4 * t.size := decide_eq_true_iff

variable [DecidableEq K] [TableKey K]

/-- **The call enters a key that is new.** -/
def Enters (t : Table K V) : Call K V → Prop
  | .put k _ => TableKey.isBlank k = false ∧ t.contains k = false
  | .putAll other => ∃ e ∈ other.entries, t.contains e.1 = false
  | .get _ | .contains _ | .containsValue _ | .remove _ | .size | .isEmpty | .clear
  | .removeAt _ => False

variable [DecidableEq V]

/-- **What a put does to size and capacity.** -/
theorem Sound.sizes_put (h : t.Sound) (k : K) (v : V) :
    (¬ t.Enters (.put k v) ∧ (t.call (.put k v)).2.size = t.size ∧
        (t.call (.put k v)).2.capacity = t.capacity) ∨
      (t.Enters (.put k v) ∧ (t.call (.put k v)).2.size = t.size + 1 ∧
        (t.call (.put k v)).2.capacity =
          if 3 * t.capacity ≤ 4 * (t.size + 1) then 2 * t.capacity else t.capacity) := by
  cases hk : TableKey.isBlank k with
  | true =>
    refine .inl ⟨fun hent => ?_, ?_, ?_⟩
    · have hblank := hent.1
      rw [hk] at hblank
      cases hblank
    all_goals rw [call, put_blank hk]
  | false =>
    rw [call, put, if_neg (by simp [hk])]
    cases hfind : t.find? k with
    | some i =>
      refine .inl ⟨fun hent => ?_, ?_, rfl⟩
      · have hnot := hent.2
        rw [contains_of_find?_eq_some hfind] at hnot
        cases hnot
      · exact Array.size_modify
    | none =>
      have hget : (⟨t.entries⟩ : Ledger K V).get? k = none :=
        (h.holds.get?_eq k).symm.trans (h.find?_eq_none.1 hfind)
      have hentered := (h.holds.linkTail hget hk v).touched
      have hsize : (t.linkTail k v).touched.size = t.size + 1 := by
        rw [hentered.size_eq, h.holds.size_eq]
        simp [Ledger.size, Ledger.append]
      have hcapacity : (t.linkTail k v).touched.capacity = t.capacity := capacity_linkTail k v
      refine .inr ⟨⟨hk, contains_of_find?_eq_none hfind⟩, ?_⟩
      dsimp only
      have hcrowded : (t.linkTail k v).touched.isCrowded = true ↔
          3 * t.capacity ≤ 4 * (t.size + 1) := by
        rw [isCrowded_iff, hcapacity, hsize]
      by_cases hfull : 3 * t.capacity ≤ 4 * (t.size + 1)
      · rw [if_pos (hcrowded.2 hfull), if_pos hfull, capacity_grown, hcapacity]
        exact ⟨by rw [hentered.grown.size_eq, ← hentered.size_eq, hsize], rfl⟩
      · rw [if_neg (hcrowded.not.2 hfull), if_neg hfull]
        exact ⟨hsize, hcapacity⟩

/-- **What a call does to size and capacity**, if it does not put a whole
table. -/
theorem Sound.sizes_call (h : t.Sound) {c : Call K V} (hc : ∀ other, c ≠ .putAll other) :
    (¬ t.Enters c ∧ (t.call c).2.size ≤ t.size ∧ (t.call c).2.capacity = t.capacity) ∨
      (t.Enters c ∧ (t.call c).2.size = t.size + 1 ∧
        (t.call c).2.capacity =
          if 3 * t.capacity ≤ 4 * (t.size + 1) then 2 * t.capacity else t.capacity) := by
  cases c with
  | put k v =>
    obtain ⟨hent, hsize, hcapacity⟩ | hent := h.sizes_put k v
    · exact .inl ⟨hent, hsize.le, hcapacity⟩
    · exact .inr hent
  | putAll other => exact absurd rfl (hc other)
  | remove k =>
    refine .inl ⟨not_false, ?_⟩
    rw [call, Table.remove]
    cases hfind : t.find? k with
    | none => exact ⟨le_rfl, rfl⟩
    | some i =>
      obtain ⟨w, hw⟩ := h.find?_eq_some.1 hfind
      exact ⟨(size_unlink (exists_entryAt?.1 ⟨_, hw⟩)).trans_le (Nat.sub_le _ _), capacity_unlink i⟩
  | clear => exact .inl ⟨not_false, Nat.zero_le _, Array.size_replicate⟩
  | removeAt c =>
    refine .inl ⟨not_false, ?_⟩
    obtain ⟨fault, c', hremove, -⟩ | ⟨i, e, -, he, hremove⟩ := removal_cases c t
    · rw [call, hremove]
      exact ⟨le_rfl, rfl⟩
    · rw [call, hremove]
      exact ⟨(size_unlink (exists_entryAt?.1 ⟨e, he⟩)).trans_le (Nat.sub_le _ _),
        capacity_unlink i⟩
  | get | contains | containsValue | size | isEmpty => exact .inl ⟨not_false, le_rfl, rfl⟩

/-! ## A run of calls -/

/-- The single steps of a call: a table is put entry by entry. -/
def Call.steps : Call K V → List (Call K V)
  | .putAll other => other.entries.map fun e => .put e.1 e.2
  | c => [c]

/-- The largest size that the table has on its way through the calls. -/
def peak (t : Table K V) : List (Call K V) → ℕ
  | [] => t.size
  | c :: calls => max t.size ((t.call c).2.peak calls)

theorem size_le_peak (t : Table K V) (calls : List (Call K V)) : t.size ≤ t.peak calls := by
  cases calls with
  | nil => exact le_rfl
  | cons c calls => exact le_max_left _ _

theorem size_after_le_peak (t : Table K V) (calls : List (Call K V)) :
    (t.after calls).size ≤ t.peak calls := by
  induction calls generalizing t with
  | nil => exact le_rfl
  | cons c calls ih => exact (ih (t.call c).2).trans (le_max_right _ _)

theorem after_append (t : Table K V) (calls calls' : List (Call K V)) :
    t.after (calls ++ calls') = (t.after calls).after calls' := List.foldl_append

/-- Entries that can be put are put one by one. -/
theorem after_map_put {es : List (K × V)} {t' : Table K V} (h : t.putEntries es = .ok t') :
    t.after (es.map fun e => .put e.1 e.2) = t' := by
  induction es generalizing t with
  | nil =>
    cases h
    rfl
  | cons e es ih =>
    obtain ⟨r, hput, hrest⟩ := bind_eq_ok.1 h
    have hcall : (t.call (.put e.1 e.2)).2 = r.2 := by rw [call, hput]
    rw [List.map_cons, after, List.foldl_cons, hcall]
    exact ih hrest

/-- **A run comes to what its single steps come to.** -/
theorem Sound.after_steps (h : t.Sound) {calls : List (Call K V)}
    (hcalls : ∀ other, .putAll other ∈ calls → other.Sound) :
    t.after (calls.flatMap Call.steps) = t.after calls := by
  induction calls generalizing t with
  | nil => rfl
  | cons c calls ih =>
    have hc : ∀ other, c = .putAll other → other.Sound := by
      rintro other rfl
      exact hcalls other List.mem_cons_self
    have hone : t.after c.steps = (t.call c).2 := by
      cases c with
      | putAll other =>
        obtain ⟨t', -, hput, -⟩ := h.holds.putAll (hc other rfl)
        rw [call, hput]
        exact after_map_put hput
      | _ => rfl
    rw [List.flatMap_cons, after_append, hone]
    exact ih (h.holds.call hc).1.sound fun other ho => hcalls other (List.mem_cons_of_mem _ ho)

omit [DecidableEq K] [TableKey K] [DecidableEq V] in
theorem putAll_not_mem_steps (calls : List (Call K V)) (other : Table K V) :
    .putAll other ∉ calls.flatMap Call.steps := by
  intro hmem
  obtain ⟨c, -, hc⟩ := List.mem_flatMap.1 hmem
  cases c <;> simp [Call.steps] at hc

/-- **The capacity goes on as it began**, whatever the calls are. -/
theorem DoubledFor.after {initial size : ℕ} (hd : DoubledFor initial size t.capacity)
    (h : t.Sound) (hsize : t.size ≤ size) {calls : List (Call K V)}
    (hcalls : ∀ other, .putAll other ∉ calls) :
    DoubledFor initial (max size (t.peak calls)) (t.after calls).capacity := by
  induction calls generalizing t size with
  | nil => rwa [peak, max_eq_left hsize]
  | cons c calls ih =>
    have hc : ∀ other, c ≠ .putAll other := fun other ho => hcalls other (ho ▸ List.mem_cons_self)
    have hnext : (t.call c).2.Sound := (h.holds.call fun other ho => absurd ho (hc other)).1.sound
    have hrest : ∀ other, .putAll other ∉ calls := fun other ho =>
      hcalls other (List.mem_cons_of_mem _ ho)
    have hroom := hd.room
    have hpos := h.capacity_pos
    have hpeak : max size (t.peak (c :: calls)) =
        max (max size (t.call c).2.size) ((t.call c).2.peak calls) := by
      have := size_le_peak (t.call c).2 calls
      rw [peak]
      omega
    rw [hpeak]
    refine ih ?_ hnext (le_max_right _ _) hrest
    obtain ⟨-, hle, hcapacity⟩ | ⟨-, hgrows, hcapacity⟩ := h.sizes_call hc
    · rw [hcapacity, max_eq_left (hle.trans hsize)]
      exact hd
    · rw [hcapacity]
      split_ifs with hfull
      · -- the new entry is the first that uses up the room
        have hmax : max size (t.call c).2.size = t.size + 1 := by omega
        have hlt : 4 * t.size < 3 * t.capacity := by omega
        rw [hmax]
        exact hd.double hfull (DoubledFor.room_doubled hlt)
      · exact hd.stay (le_max_left _ _) (by omega)

/-! ## What a call keeps -/

/-- Entries whose keys all have values leave the capacity as it is. -/
theorem Holds.capacity_putEntries {l : Ledger K V} {es : List (K × V)} (h : t.Holds l)
    (hes : ∀ e ∈ es, TableKey.isBlank e.1 = false) (hnd : (es.map Prod.fst).Nodup)
    (hold : ∀ e ∈ es, t.contains e.1 = true) {t' : Table K V} (ht' : t.putEntries es = .ok t') :
    t'.capacity = t.capacity := by
  induction es generalizing t l with
  | nil =>
    cases ht'
    rfl
  | cons e es ih =>
    rw [List.map_cons, List.nodup_cons] at hnd
    obtain ⟨hblank, hblanks⟩ := List.forall_mem_cons.1 hes
    obtain ⟨hhead, htail⟩ := List.forall_mem_cons.1 hold
    obtain ⟨t₁, l₁, hput, -, h₁, -⟩ := h.put hblank e.2
    have hrest : t₁.putEntries es = .ok t' := by
      rw [Table.putEntries, hput] at ht'
      exact ht'
    have hcall : (t.call (.put e.1 e.2)).2 = t₁ := by rw [Table.call, hput]
    have hstay : t₁.capacity = t.capacity := by
      obtain ⟨-, -, hcapacity⟩ | ⟨hent, -⟩ := h.sound.sizes_put e.1 e.2
      · rw [← hcall]
        exact hcapacity
      · have hnot := hent.2
        rw [hhead] at hnot
        cases hnot
    have hlater : ∀ e' ∈ es, t₁.contains e'.1 = true := by
      intro e' he'
      have hne : e'.1 ≠ e.1 := fun heq => hnd.1 (heq ▸ List.mem_map_of_mem he')
      rw [h.contains_put hput hne]
      exact htail e' he'
    rw [ih h₁ hblanks hnd.2 hlater hrest, hstay]

/-- **A call that enters nothing keeps the capacity.** -/
theorem Sound.capacity_call (h : t.Sound) {c : Call K V}
    (hc : ∀ other, c = .putAll other → other.Sound) (hent : ¬ t.Enters c) :
    (t.call c).2.capacity = t.capacity := by
  by_cases hall : ∃ other, c = .putAll other
  · obtain ⟨other, rfl⟩ := hall
    have hother := hc other rfl
    obtain ⟨t', -, hput, -⟩ := h.holds.putAll hother
    rw [call, hput]
    refine h.holds.capacity_putEntries (fun _ he => hother.holds.unblank he) hother.keys_nodup
      (fun e he => ?_) hput
    rw [Enters, not_exists] at hent
    exact Bool.of_not_eq_false fun hnot => hent e ⟨he, hnot⟩
  · rw [not_exists] at hall
    exact ((h.sizes_call hall).resolve_right fun hent' => hent hent'.1).2.2

/-- **How much room a table has** that was made for `requested` entries
and had at most `peak` of them so far. -/
structure Sized (requested peak : ℕ) (t : Table K V) : Prop where
  /-- The capacity is the least power of two that covers what was
  requested, doubled as seldom as leaves room for the largest size. -/
  capacity_eq : ∃ initial, IsLeast {c | (∃ i, c = 2 ^ i) ∧ requested ≤ c} initial ∧
    DoubledFor initial peak t.capacity
  /-- Less than three quarters are taken. -/
  room : 4 * t.size < 3 * t.capacity
  /-- A put doubles the capacity once if three quarters are taken after
  it, and leaves it if not. -/
  capacity_put : ∀ k v, (t.call (.put k v)).2.capacity =
    if 3 * t.capacity ≤ 4 * (t.call (.put k v)).2.size then 2 * t.capacity else t.capacity
  /-- That many were never taken before, since the table has this
  capacity. -/
  first : 4 * peak < 3 * t.capacity
  /-- Removing, dropping every entry, replacing values, reading and being
  refused leave it too. -/
  capacity_call : ∀ {c : Call K V}, (∀ other, c = .putAll other → other.Reachable) →
    ¬ t.Enters c → (t.call c).2.capacity = t.capacity

/-- **The capacity is settled by what was requested and the largest size
so far**, after any run of calls. -/
theorem sized_after {hash : K → UInt64} {requested : ℕ} (hcreate : create hash requested = .ok t)
    {calls : List (Call K V)} (hothers : ∀ other, .putAll other ∈ calls → other.Reachable) :
    (t.after calls).Sized requested (t.peak (calls.flatMap Call.steps)) := by
  have hothers' : ∀ other, .putAll other ∈ calls → other.Sound := fun other ho =>
    (hothers other ho).sound
  have hstart := (holds_create hcreate).sound
  have hsound := (holds_after hcreate hothers).1.sound
  have hcapacity : t.capacity = leastPower requested ∧ t.size = 0 := by
    rw [create] at hcreate
    split_ifs at hcreate
    cases hcreate
    exact ⟨Array.size_replicate, rfl⟩
  have hzero : DoubledFor (leastPower requested) 0 t.capacity := by
    rw [hcapacity.1]
    exact .zero (hcapacity.1 ▸ hstart.capacity_pos)
  have hrun := hzero.after hstart hcapacity.2.le (putAll_not_mem_steps calls)
  have hpeak := size_after_le_peak t (calls.flatMap Call.steps)
  rw [hstart.after_steps hothers'] at hrun hpeak
  rw [Nat.zero_max] at hrun
  have hroom := hrun.room
  refine ⟨⟨_, isLeast_leastPower requested, hrun⟩, by omega, fun k v => ?_, hroom, ?_⟩
  · obtain ⟨-, hsize, hsame⟩ | ⟨-, hsize, hgrows⟩ := hsound.sizes_put k v
    · rw [hsize, if_neg (by omega), hsame]
    · rw [hsize, hgrows]
  · intro c hc hent
    exact hsound.capacity_call (fun other ho => (hc other ho).sound) hent

/-- Four entries are put one after the other, all are dropped, and two
others are put. -/
def putsAndDrops : List (Call ℤ ℕ) :=
  [.put 1 10, .put 2 20, .put 3 30, .put 2 21, .put 4 40, .remove 1, .clear, .put 5 50, .put 6 60]

/-- With room for three requested there are four buckets. The third entry
doubles them, and eight they remain. -/
theorem sized_after_of_drops :
    ((empty (fun _ => 0) 4).after putsAndDrops).Sized 3 4 ∧
      ((empty (fun _ => 0) 4).after putsAndDrops).size = 2 ∧
      ((empty (fun _ => 0) 4).after putsAndDrops).capacity = 8 := by
  have hcreate : create (fun _ : ℤ => 0) 3 = .ok (empty (fun _ => 0) 4 : Table ℤ ℕ) := rfl
  have hpeak : (empty (fun _ => 0) 4).peak (putsAndDrops.flatMap Call.steps) = 4 := by decide
  have hothers : ∀ other, .putAll other ∈ putsAndDrops → other.Reachable := by
    simp [putsAndDrops]
  have hsized := sized_after hcreate hothers
  rw [hpeak] at hsized
  exact ⟨hsized, by decide, by decide⟩

end Table

end Cardfile
