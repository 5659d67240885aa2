import Cardfile.Proofs.Table.Changes
import Cardfile.Proofs.Table.Tour
/-!
# Table — cursors on a changing table

A session is a table with any number of cursors on it. Acts follow one
another in any order: a call of the table, a new cursor, or the use of
one of the cursors. The log of a run notes how many structural changes
each act made. `FailFast` says when a cursor is told that the table
changed, and `failFast_newCursor` that this holds of every cursor, from
the moment it is made, as long as fewer than `2^64` changes were made.

The invariant is `Behind`: the table is some number of changes ahead of
the generation that the cursor expects. That number only grows
(`Behind.step`), except that a cursor which is level with the table
remains so when it removes an entry itself. So the number is positive
exactly if something else made a change, and since it fits a word the two
generations differ exactly then.
-/

namespace Cardfile

namespace Table

variable {K V : Type}

/-! ## Sessions -/

/-- What a cursor can be asked. -/
inductive Use where
  /-- Whether entries are still to come. -/
  | hasNext
  /-- The next entry. -/
  | next
  /-- To remove the entry returned last. -/
  | remove
  deriving DecidableEq, Repr

namespace Use

/-- The use with its answer. -/
def event (u : Use) (c : Cursor) (t : Table K V) : Event K V :=
  match u with
  | .hasNext => .hasNext (c.hasNext t)
  | .next => .next (c.next t).1
  | .remove => .remove (c.remove t).1

/-- The cursor and the table after the use. -/
def after (u : Use) (c : Cursor) (t : Table K V) : Cursor × Table K V :=
  match u with
  | .hasNext => (c, t)
  | .next => ((c.next t).2, t)
  | .remove => (c.remove t).2

/-- The structural changes that the use makes. -/
def changes [DecidableEq K] [TableKey K] (u : Use) (c : Cursor) (t : Table K V) : ℕ :=
  match u with
  | .hasNext | .next => 0
  | .remove => t.changes (.removeAt c)

end Use

/-- One act on a table with cursors. -/
inductive Act (K V : Type) where
  /-- The table is called. -/
  | call (x : Call K V)
  /-- A new cursor is made. It takes the next free number. -/
  | newCursor
  /-- The cursor with the number is used. -/
  | use (i : ℕ) (u : Use)

/-- The cursor that the act goes through. -/
def Act.through? : Act K V → Option ℕ
  | .use i _ => some i
  | .call _ | .newCursor => none

/-- A table with cursors on it, which are numbered from zero. -/
structure Session (K V : Type) where
  /-- The table. -/
  table : Table K V
  /-- The cursors. -/
  cursors : List Cursor

namespace Session

variable [DecidableEq K] [TableKey K] [DecidableEq V]

/-- The session after the act. -/
def step (s : Session K V) : Act K V → Session K V
  | .call x => { s with table := (s.table.call x).2 }
  | .newCursor => { s with cursors := s.cursors ++ [.ofTable s.table] }
  | .use i u =>
    match s.cursors[i]? with
    | none => s
    | some c =>
      { table := (u.after c s.table).2, cursors := s.cursors.set i (u.after c s.table).1 }

/-- The session after the acts. -/
def after (s : Session K V) (acts : List (Act K V)) : Session K V := acts.foldl step s

omit [DecidableEq V] in
/-- The structural changes that the act makes. -/
def changes (s : Session K V) : Act K V → ℕ
  | .call x => s.table.changes x
  | .newCursor => 0
  | .use i u => (s.cursors[i]?).elim 0 fun c => u.changes c s.table

/-- The acts, each with the structural changes that it makes. -/
def log (s : Session K V) : List (Act K V) → List (Act K V × ℕ)
  | [] => []
  | a :: acts => (a, s.changes a) :: (s.step a).log acts

/-- The structural changes that the acts make. -/
def total (s : Session K V) : List (Act K V) → ℕ
  | [] => 0
  | a :: acts => s.changes a + (s.step a).total acts

/-- **Some act makes a structural change, other than through the
cursor.** -/
def Overtakes (s : Session K V) (i : ℕ) (acts : List (Act K V)) : Prop :=
  ∃ e ∈ s.log acts, 0 < e.2 ∧ e.1.through? ≠ some i

omit [DecidableEq K] [TableKey K] [DecidableEq V] in
/-- The cursor reports, when it is used so, that the table changed other
than through it. -/
def Reports (s : Session K V) (i : ℕ) (u : Use) : Prop :=
  ∃ c r, s.cursors[i]? = some c ∧ (u.event c s.table).refusal? = some r ∧
    r.kind = .concurrentModification

/-- **When a cursor reports a change**, after the acts that followed on
the session `s`. -/
structure FailFast (s : Session K V) (i : ℕ) (acts : List (Act K V)) : Prop where
  /-- It reports one, however it is used, exactly if one was made other
  than through it. -/
  reports_iff : ∀ u, (s.after acts).Reports i u ↔ s.Overtakes i acts
  /-- A use that reports one changes nothing. -/
  step_eq : ∀ u, (s.after acts).Reports i u → (s.after acts).step (.use i u) = s.after acts
  /-- Once it reported one it reports one whenever it is used. -/
  stays : ∀ {earlier}, earlier <+: acts → ∀ u u', (s.after earlier).Reports i u →
    (s.after acts).Reports i u'

/-! ## Runs -/

theorem log_append (s : Session K V) (as bs : List (Act K V)) :
    s.log (as ++ bs) = s.log as ++ (s.after as).log bs := by
  induction as generalizing s with
  | nil => rfl
  | cons a as ih => exact congrArg _ (ih (s.step a))

/-- A longer run makes at least the changes of the shorter one. -/
theorem total_mono (s : Session K V) {as bs : List (Act K V)} (h : as <+: bs) :
    s.total as ≤ s.total bs := by
  obtain ⟨rest, rfl⟩ := h
  induction as generalizing s with
  | nil => exact Nat.zero_le _
  | cons a as ih => exact Nat.add_le_add_left (ih (s.step a)) _

theorem overtakes_cons {s : Session K V} {i : ℕ} {a : Act K V} {acts : List (Act K V)} :
    s.Overtakes i (a :: acts) ↔
      (0 < s.changes a ∧ a.through? ≠ some i) ∨ (s.step a).Overtakes i acts := by
  simp [Overtakes, log]

/-- What overtook the cursor once did so for good. -/
theorem Overtakes.mono {s : Session K V} {i : ℕ} {as bs : List (Act K V)}
    (h : s.Overtakes i as) (hle : as <+: bs) : s.Overtakes i bs := by
  obtain ⟨rest, rfl⟩ := hle
  obtain ⟨e, he, hchange⟩ := h
  rw [Overtakes, log_append]
  exact ⟨e, List.mem_append_left _ he, hchange⟩

end Session

/-! ## One use -/

namespace Use

/-- **A cursor reports a change if it does not agree with the table**,
and for no other reason. -/
theorem refusal_iff (u : Use) (c : Cursor) (t : Table K V) :
    (∃ r, (u.event c t).refusal? = some r ∧ r.kind = .concurrentModification) ↔
      c.agrees t = false := by
  cases hagrees : c.agrees t with
  | false => cases u <;> simp [event, Cursor.hasNext, Cursor.next, Cursor.remove, hagrees,
      Event.refusal?, CursorFault.report]
  | true =>
    simp only [Bool.true_eq_false, iff_false, not_exists, not_and]
    intro r hr
    cases u with
    | hasNext => simp [event, Cursor.hasNext, hagrees, Event.refusal?] at hr
    | next =>
      simp only [event, Cursor.next, hagrees, if_true] at hr
      split_ifs at hr
      · cases hr
      · split at hr
        · cases hr
          exact Kind.noConfusion
        · split at hr
          · cases hr
            exact Kind.noConfusion
          · cases hr
    | remove =>
      simp only [event, Cursor.remove, hagrees, if_true] at hr
      split at hr
      · cases hr
        exact Kind.noConfusion
      · split at hr
        · cases hr
          exact Kind.noConfusion
        · cases hr

/-- A use that reports a change leaves cursor and table as they are. -/
theorem after_of_not_agrees (u : Use) {c : Cursor} {t : Table K V} (h : c.agrees t = false) :
    u.after c t = (c, t) := by
  cases u <;> simp [after, Cursor.next, Cursor.remove, h]

/-- Moving on leaves the cursor with the generation that it expects. -/
theorem expected_next (c : Cursor) (t : Table K V) : (c.next t).2.expected = c.expected := by
  unfold Cursor.next
  split_ifs
  · rfl
  · split
    · rfl
    · split <;> rfl
  · rfl

variable [DecidableEq K] [TableKey K]

/-- **What one use comes to.** Either it changes nothing, or it makes the
one change of a removal, to a table that the cursor agrees with before and
afterwards. -/
theorem after_cases (u : Use) (c : Cursor) (t : Table K V) :
    (u.changes c t = 0 ∧ (u.after c t).2 = t ∧ (u.after c t).1.expected = c.expected) ∨
      (u.changes c t = 1 ∧ c.agrees t = true ∧
        (u.after c t).2.generation = t.generation + 1 ∧
        (u.after c t).1.expected = (u.after c t).2.generation) := by
  cases u with
  | hasNext => exact .inl ⟨rfl, rfl, rfl⟩
  | next => exact .inl ⟨rfl, rfl, expected_next c t⟩
  | remove =>
    obtain ⟨fault, herror, htable, hexpected⟩ | ⟨e, hagrees, hok, hgen, hexpected⟩ :=
      remove_cases c t
    · refine .inl ⟨?_, htable, hexpected⟩
      simp only [changes, Table.changes, herror]
    · refine .inr ⟨?_, hagrees, hgen, hexpected⟩
      simp only [changes, Table.changes, hok]

theorem sound_after (u : Use) (c : Cursor) {t : Table K V} (h : t.Sound) :
    (u.after c t).2.Sound := by
  cases u with
  | hasNext | next => exact h
  | remove =>
    obtain ⟨fault, -, htable⟩ | ⟨k, v, -, -, hholds, -⟩ := h.holds.removeAt c
    · rw [after, htable]
      exact h
    · exact hholds.sound

end Use

/-! ## The invariant -/

namespace Session

/-- **The table is `g` structural changes ahead of the cursor.** -/
structure Behind [TableKey K] (s : Session K V) (i g : ℕ) : Prop where
  sound : s.table.Sound
  cursor : ∃ c, s.cursors[i]? = some c ∧ s.table.generation = c.expected + UInt64.ofNat g

/-- Less than a round of the words away, a word is another one. -/
theorem add_ofNat_eq_self {w : UInt64} {g : ℕ} (hg : g < 2 ^ 64) :
    w + UInt64.ofNat g = w ↔ g = 0 := by
  rw [← UInt64.toNat_inj, UInt64.toNat_add, UInt64.toNat_ofNat_of_lt' hg]
  have := w.toNat_lt
  omega

namespace Behind

section Reading

variable [TableKey K] {s : Session K V} {i g : ℕ}

/-- **A cursor reports a change if the table is ahead of it.** -/
theorem reports_iff (h : s.Behind i g) (hg : g < 2 ^ 64) (u : Use) :
    s.Reports i u ↔ 0 < g := by
  obtain ⟨c, hc, hgen⟩ := h.cursor
  have hagrees : c.agrees s.table = false ↔ 0 < g := by
    rw [Cursor.agrees, beq_eq_false_iff_ne, hgen, ne_eq, add_ofNat_eq_self hg, Nat.pos_iff_ne_zero]
  rw [← hagrees, ← u.refusal_iff]
  constructor
  · rintro ⟨c', r, hc', hr⟩
    rw [hc] at hc'
    cases hc'
    exact ⟨r, hr⟩
  · rintro ⟨r, hr⟩
    exact ⟨c, r, hc, hr⟩

end Reading

variable [DecidableEq K] [TableKey K] [DecidableEq V] {s : Session K V} {i g : ℕ}

/-- A new cursor is level with the table. -/
theorem newCursor (h : s.table.Sound) : (s.step .newCursor).Behind s.cursors.length 0 where
  sound := h
  cursor := ⟨.ofTable s.table, List.getElem?_concat_length, (UInt64.add_zero _).symm⟩

/-- Another cursor is left behind by the changes of a use. -/
theorem use_other (h : s.Behind i g) {j : ℕ} (hj : j ≠ i) (u : Use) :
    (s.step (.use j u)).Behind i (g + s.changes (.use j u)) := by
  obtain ⟨c, hc, hgen⟩ := h.cursor
  cases hd : s.cursors[j]? with
  | none =>
    simp only [Session.step, changes, hd, Option.elim_none]
    exact h
  | some d =>
    simp only [Session.step, changes, hd, Option.elim_some]
    refine ⟨u.sound_after d h.sound, c, ?_, ?_⟩
    · rw [List.getElem?_set_ne hj, hc]
    · obtain ⟨hchanges, htable, -⟩ | ⟨hchanges, -, hnext, -⟩ := u.after_cases d s.table
      · rw [hchanges, htable]
        exact hgen
      · rw [hchanges, hnext, hgen, UInt64.ofNat_add, UInt64.add_assoc]
        rfl

/-- **A cursor does not fall behind through itself**: what it removes it
removes when it is level, and it is level afterwards. -/
theorem use_self (h : s.Behind i g) (hg : g < 2 ^ 64) (u : Use) :
    (s.step (.use i u)).Behind i g := by
  obtain ⟨c, hc, hgen⟩ := h.cursor
  have hlt : i < s.cursors.length := (List.getElem?_eq_some_iff.1 hc).1
  simp only [Session.step, hc]
  refine ⟨u.sound_after c h.sound, (u.after c s.table).1, List.getElem?_set_self hlt, ?_⟩
  obtain ⟨-, htable, hexpected⟩ | ⟨-, hagrees, -, hexpected⟩ := u.after_cases c s.table
  · rw [htable, hexpected]
    exact hgen
  · -- only a cursor that agrees with the table removes
    have hlevel : g = 0 := by
      rw [Cursor.agrees, beq_iff_eq, hgen] at hagrees
      exact (add_ofNat_eq_self hg).1 hagrees
    rw [hexpected, hlevel]
    exact (UInt64.add_zero _).symm

/-- **One act.** The cursor falls behind by the changes of the act, unless
the act goes through the cursor itself. -/
theorem step (h : s.Behind i g) (hg : g < 2 ^ 64) {a : Act K V}
    (ha : ∀ other, a = .call (.putAll other) → other.Sound) :
    (s.step a).Behind i (g + if a.through? = some i then 0 else s.changes a) := by
  obtain ⟨c, hc, hgen⟩ := h.cursor
  cases a with
  | call x =>
    have hx : ∀ other, x = .putAll other → other.Sound := by
      rintro other rfl
      exact ha other rfl
    refine ⟨(h.sound.holds.call hx).1.sound, c, hc, ?_⟩
    rw [if_neg nofun, UInt64.ofNat_add, ← UInt64.add_assoc, ← hgen]
    exact h.sound.generation_call hx
  | newCursor =>
    refine ⟨h.sound, c, ?_, hgen⟩
    rw [Session.step, List.getElem?_append_left (List.getElem?_eq_some_iff.1 hc).1, hc]
  | use j u =>
    by_cases hj : j = i
    · subst hj
      rw [Act.through?, if_pos rfl]
      exact h.use_self hg u
    · rw [if_neg (by simpa [Act.through?] using hj)]
      exact h.use_other hj u

/-- **A run.** In the end the cursor is behind exactly if it was so before
or some act overtook it. -/
theorem after (h : s.Behind i g) {acts : List (Act K V)} (hfew : g + s.total acts < 2 ^ 64)
    (hacts : ∀ other, .call (.putAll other) ∈ acts → other.Sound) :
    ∃ g', (s.after acts).Behind i g' ∧ g' ≤ g + s.total acts ∧
      (0 < g' ↔ 0 < g ∨ s.Overtakes i acts) := by
  induction acts generalizing s g with
  | nil => exact ⟨g, h, Nat.le_add_right _ _, by simp [Overtakes, log]⟩
  | cons a acts ih =>
    rw [total] at hfew ⊢
    have ha : ∀ other, a = .call (.putAll other) → other.Sound := by
      rintro other rfl
      exact hacts other List.mem_cons_self
    have hone := h.step (by omega) ha
    have hle : (if a.through? = some i then 0 else s.changes a) ≤ s.changes a := by
      split_ifs <;> omega
    obtain ⟨g', hbehind, hg', hpos⟩ :=
      ih hone (by omega) fun other ho => hacts other (List.mem_cons_of_mem _ ho)
    refine ⟨g', hbehind, by omega, ?_⟩
    rw [hpos, overtakes_cons, ← or_assoc]
    refine or_congr_left ?_
    split_ifs with hthrough
    · simp [hthrough]
    · rw [Nat.add_pos_iff_pos_or_pos]
      simp [hthrough]

end Behind

/-! ## Failing fast -/

variable [DecidableEq K] [TableKey K] [DecidableEq V]

/-- A use that reports a change leaves the session as it is. -/
theorem step_eq_of_reports {s : Session K V} {i : ℕ} {u : Use} (h : s.Reports i u) :
    s.step (.use i u) = s := by
  obtain ⟨c, r, hc, hr⟩ := h
  have hsame := u.after_of_not_agrees ((u.refusal_iff c s.table).1 ⟨r, hr⟩)
  obtain ⟨hlt, rfl⟩ := List.getElem?_eq_some_iff.1 hc
  simp only [step, hc, hsame, List.set_getElem_self]

/-- **Cursors fail fast, and only then.** On a table that can come about,
with any cursors on it already, a new cursor is made. However the table
is called and the cursors are used from then on, the new one reports a
change exactly if one was made other than through it. -/
theorem failFast_newCursor {s : Session K V} (hs : s.table.Reachable) {acts : List (Act K V)}
    (hacts : ∀ other, .call (.putAll other) ∈ acts → other.Reachable)
    (hfew : (s.step .newCursor).total acts < 2 ^ 64) :
    (s.step .newCursor).FailFast s.cursors.length acts := by
  -- a part of the run makes no more changes than the whole, so this holds after each
  have hrun : ∀ {as}, as <+: acts → ∀ u,
      ((s.step .newCursor).after as).Reports s.cursors.length u ↔
        (s.step .newCursor).Overtakes s.cursors.length as := by
    intro as has u
    have htotal := (s.step .newCursor).total_mono has
    have hfew' : 0 + (s.step .newCursor).total as < 2 ^ 64 := by omega
    obtain ⟨g, hbehind, hg, hpos⟩ := (Behind.newCursor hs.sound).after hfew'
      fun other ho => (hacts other (has.subset ho)).sound
    rw [hbehind.reports_iff (by omega), hpos]
    simp
  refine ⟨hrun List.prefix_rfl, fun u => step_eq_of_reports, ?_⟩
  intro earlier hearlier u u' hreports
  exact (hrun List.prefix_rfl u').2 (((hrun hearlier u).1 hreports).mono hearlier)

/-- Two entries in one chain. -/
def twoEntries : Table ℤ ℕ := (empty (fun _ => 0) 4).after [.put 1 10, .put 2 20]

/-- A cursor on them. -/
def oneCursor : Session ℤ ℕ := ⟨twoEntries, [.ofTable twoEntries]⟩

/-- Cursor 1 removes an entry, a value is replaced, and in the end a new
key is put. -/
def removalThenNewKey : List (Act ℤ ℕ) :=
  [.use 1 .next, .use 1 .remove, .call (.put 2 25), .use 1 .next, .call (.put 3 30)]

/-- Of two cursors the second removes an entry, which overtakes the first
and not the second. A value that is replaced overtakes neither, and a new
key both. -/
theorem failFast_newCursor_of_removal :
    oneCursor.table.Reachable ∧ (oneCursor.step .newCursor).total removalThenNewKey = 2 ∧
      (oneCursor.step .newCursor).FailFast 1 removalThenNewKey ∧
      (oneCursor.step .newCursor).Overtakes 0 removalThenNewKey.dropLast ∧
      ¬ (oneCursor.step .newCursor).Overtakes 1 removalThenNewKey.dropLast ∧
      (oneCursor.step .newCursor).Overtakes 1 removalThenNewKey := by
  have hcreate : create (fun _ : ℤ => 0) 4 = .ok (empty (fun _ => 0) 4 : Table ℤ ℕ) := rfl
  have hreachable : oneCursor.table.Reachable :=
    ((Reachable.create hcreate).call (c := .put 1 10) nofun).call (c := .put 2 20) nofun
  have htotal : (oneCursor.step .newCursor).total removalThenNewKey = 2 := by decide
  have hacts : ∀ other, .call (.putAll other) ∈ removalThenNewKey → other.Reachable := by
    simp [removalThenNewKey]
  have hfail := failFast_newCursor hreachable hacts (htotal.trans_lt (by omega))
  refine ⟨hreachable, htotal, hfail, ?_, ?_, ?_⟩ <;> unfold Overtakes <;> decide

end Session

end Table

end Cardfile
