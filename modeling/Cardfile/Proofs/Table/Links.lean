import Cardfile.Table.Basic
import Mathlib.Data.List.Nodup
import Mathlib.Tactic.SplitIfs
/-!
# Table — links

`Leads` says which nodes are met from a link on. Following links with
enough fuel computes that list (`follow_eq`), so a chain can be reasoned
about without the fuel. The rest of the file says how the list moves when
links do: a link set at the end of a chain (`concat`), a link led past
the node it points at (`bypass`), and nodes that move to other places
(`rename`).
-/

namespace Cardfile

variable {K V : Type}

namespace Node

/-- The node with its link changed. -/
def relinked (f : Option ℕ → Option ℕ) (node : Node K V) : Node K V :=
  { node with next := f node.next }

end Node

namespace Table

variable {nodes nodes' : Array (Node K V)} {start : Option ℕ} {is : List ℕ}

/-- **What a link leads to.** The links from `start` on lead through these
nodes, in this order, and end. -/
inductive Leads (nodes : Array (Node K V)) : Option ℕ → List ℕ → Prop
  /-- No link leads nowhere. -/
  | stop : Leads nodes none []
  /-- A link leads to its node, and on to what that node's link leads to. -/
  | step {i : ℕ} {node : Node K V} {is : List ℕ} :
      nodes[i]? = some node → Leads nodes node.next is → Leads nodes (some i) (i :: is)

/-- A link that led to `target` leads to `next` instead. -/
def bypass (target : ℕ) (next link : Option ℕ) : Option ℕ :=
  if link = some target then next else link

@[simp] theorem bypass_self (target : ℕ) (next : Option ℕ) :
    bypass target next (some target) = next := if_pos rfl

theorem bypass_of_ne {target : ℕ} {next link : Option ℕ} (h : link ≠ some target) :
    bypass target next link = link := if_neg h

namespace Leads

/-- **Fuel for every node is enough.** -/
theorem follow_eq (h : Leads nodes start is) {fuel : ℕ} (hf : is.length ≤ fuel) :
    follow nodes fuel start = is := by
  induction h generalizing fuel with
  | stop => cases fuel <;> rfl
  | step hnode _ ih =>
    cases fuel with
    | zero => simp at hf
    | succ fuel =>
      rw [List.length_cons] at hf
      simp only [follow, hnode]
      rw [ih (by omega)]

/-- No link leads through no node. -/
theorem eq_nil (h : Leads nodes none is) : is = [] := by
  cases h
  rfl

/-- Every node that is met is in the arena. -/
theorem exists_node (h : Leads nodes start is) {i : ℕ} (hi : i ∈ is) :
    ∃ node, nodes[i]? = some node := by
  induction h with
  | stop => cases hi
  | step hnode _ ih =>
    rcases List.mem_cons.1 hi with rfl | hi
    · exact ⟨_, hnode⟩
    · exact ih hi

/-- The node that a link points at is met. -/
theorem start_mem {i : ℕ} (h : Leads nodes (some i) is) : i ∈ is := by
  cases h
  exact List.mem_cons_self

/-- What follows a node that is met is met too. -/
theorem next_mem (h : Leads nodes start is) {i j : ℕ} {node : Node K V} (hi : i ∈ is)
    (hnode : nodes[i]? = some node) (hnext : node.next = some j) : j ∈ is := by
  induction h with
  | stop => cases hi
  | step hnode' hrest ih =>
    rcases List.mem_cons.1 hi with rfl | hi
    · rw [hnode'] at hnode
      cases hnode
      rw [hnext] at hrest
      exact List.mem_cons_of_mem _ hrest.start_mem
    · exact List.mem_cons_of_mem _ (ih hi)

/-- No node of a chain points back at its first one. -/
theorem next_ne_start {i j : ℕ} {node : Node K V} (h : Leads nodes (some i) is)
    (hnd : is.Nodup) (hj : j ∈ is) (hnode : nodes[j]? = some node) : node.next ≠ some i := by
  intro hnext
  cases h with
  | step hnode' hrest =>
    have hfresh := (List.nodup_cons.1 hnd).1
    rcases List.mem_cons.1 hj with rfl | hj
    · rw [hnode'] at hnode
      cases hnode
      rw [hnext] at hrest
      exact hfresh hrest.start_mem
    · exact hfresh (hrest.next_mem hj hnode hnext)

/-- **At most one node of a chain points at a node.** -/
theorem next_inj (h : Leads nodes start is) (hnd : is.Nodup) {i j x : ℕ} {m n : Node K V}
    (hi : i ∈ is) (hj : j ∈ is) (hm : nodes[i]? = some m) (hn : nodes[j]? = some n)
    (hmx : m.next = some x) (hnx : n.next = some x) : i = j := by
  induction h with
  | stop => cases hi
  | step hnode hrest ih =>
    have hnd' := (List.nodup_cons.1 hnd).2
    rcases List.mem_cons.1 hi with rfl | hi'
    · rw [hnode] at hm
      cases hm
      rw [hmx] at hrest
      -- the first node points at the start of the rest, which nothing in the rest does
      rcases List.mem_cons.1 hj with rfl | hj'
      · rfl
      · exact absurd hnx (hrest.next_ne_start hnd' hj' hn)
    · rcases List.mem_cons.1 hj with rfl | hj'
      · rw [hnode] at hn
        cases hn
        rw [hnx] at hrest
        exact absurd hmx (hrest.next_ne_start hnd' hi' hm)
      · exact ih hnd' hi' hj'

/-- **Every node of a chain but the first is pointed at.** -/
theorem exists_next (h : Leads nodes start is) {x : ℕ} (hx : x ∈ is) (hs : start ≠ some x) :
    ∃ i ∈ is, ∃ node, nodes[i]? = some node ∧ node.next = some x := by
  induction h with
  | stop => cases hx
  | @step i node is hnode hrest ih =>
    have hxi : x ≠ i := fun he => hs (he ▸ rfl)
    have hx : x ∈ is := (List.mem_cons.1 hx).resolve_left hxi
    by_cases hnext : node.next = some x
    · exact ⟨i, List.mem_cons_self, node, hnode, hnext⟩
    · obtain ⟨j, hj, hjx⟩ := ih hx hnext
      exact ⟨j, List.mem_cons_of_mem _ hj, hjx⟩

/-- From a node on, its link leads through what comes after it. -/
theorem suffix {front back : List ℕ} {i : ℕ} (h : Leads nodes start (front ++ i :: back)) :
    ∃ node, nodes[i]? = some node ∧ Leads nodes node.next back := by
  induction front generalizing start with
  | nil =>
    cases h with
    | step hnode hrest => exact ⟨_, hnode, hrest⟩
  | cons j front ih =>
    cases h with
    | step _ hrest => exact ih hrest

/-! ## When links change -/

/-- Only the links of the nodes that are met matter. -/
theorem congr (h : Leads nodes start is)
    (hnodes : ∀ i ∈ is, ∀ node, nodes[i]? = some node →
      ∃ node', nodes'[i]? = some node' ∧ node'.next = node.next) :
    Leads nodes' start is := by
  induction h with
  | stop => exact .stop
  | @step i node is hnode _ ih =>
    obtain ⟨node', hnode', hnext⟩ := hnodes i List.mem_cons_self node hnode
    refine .step hnode' ?_
    rw [hnext]
    exact ih fun j hj => hnodes j (List.mem_cons_of_mem _ hj)

/-- **A link set at the end of a chain** leads to one node more. -/
theorem concat {tail i : ℕ} {new : Node K V} (h : Leads nodes start (is ++ [tail]))
    (hnd : (is ++ [tail]).Nodup) (hnew : nodes'[i]? = some new) (hend : new.next = none)
    (htail : ∃ node, nodes'[tail]? = some node ∧ node.next = some i)
    (hkeep : ∀ j ∈ is, ∀ node, nodes[j]? = some node →
      ∃ node', nodes'[j]? = some node' ∧ node'.next = node.next) :
    Leads nodes' start (is ++ [tail] ++ [i]) := by
  induction is generalizing start with
  | nil =>
    obtain ⟨node, hnode, hnext⟩ := htail
    cases h with
    | step _ _ =>
      refine .step hnode ?_
      rw [hnext]
      refine .step hnew ?_
      rw [hend]
      exact .stop
  | cons j is ih =>
    cases h with
    | step hnode hrest =>
      obtain ⟨node', hnode', hnext⟩ := hkeep j List.mem_cons_self _ hnode
      refine .step hnode' ?_
      rw [hnext]
      exact ih hrest (List.nodup_cons.1 hnd).2 fun k hk => hkeep k (List.mem_cons_of_mem _ hk)

/-- **Links led past a node** lead to the others, in the same order. -/
theorem bypassed {i : ℕ} {gone : Node K V} (h : Leads nodes start is)
    (hgone : nodes[i]? = some gone) (hself : gone.next ≠ some i)
    (hnodes : ∀ j ∈ is, nodes'[j]? = nodes[j]?.map (Node.relinked (bypass i gone.next))) :
    Leads nodes' (bypass i gone.next start) (is.filter (· ≠ i)) := by
  induction h with
  | stop => exact .stop
  | @step j node is hnode _ ih =>
    have hrest := ih fun k hk => hnodes k (List.mem_cons_of_mem _ hk)
    by_cases hji : j = i
    · subst hji
      rw [hnode] at hgone
      cases hgone
      rw [bypass_of_ne hself] at hrest
      simpa using hrest
    · have hstart : some j ≠ some i := fun he => hji (Option.some.inj he)
      rw [bypass_of_ne hstart, List.filter_cons_of_pos (by simpa using hji)]
      have hnode' := hnodes j List.mem_cons_self
      rw [hnode] at hnode'
      exact .step hnode' hrest

/-- **Nodes that move** are met at their new places. -/
theorem rename (ρ : ℕ → ℕ) (h : Leads nodes start is)
    (hnodes : ∀ j ∈ is, nodes'[ρ j]? = nodes[j]?.map (Node.relinked (Option.map ρ))) :
    Leads nodes' (start.map ρ) (is.map ρ) := by
  induction h with
  | stop => exact .stop
  | @step j node is hnode _ ih =>
    have hnode' := hnodes j List.mem_cons_self
    rw [hnode] at hnode'
    exact .step hnode' (ih fun k hk => hnodes k (List.mem_cons_of_mem _ hk))

end Leads

end Table

end Cardfile
