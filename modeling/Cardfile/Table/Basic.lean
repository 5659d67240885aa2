import Cardfile.Report
/-!
# Table — a chained hash table

Entries live in a dense arena of nodes. Each bucket points at the first
node of its chain, each node at the next one of the same chain, and a key
belongs to the bucket that its hash leaves modulo the capacity. The
capacity is a power of two and doubles once the table is three quarters
full.

The order of the entries is part of what a table promises: bucket by
bucket, and within a bucket in the order of insertion. Growing re-enters
the entries in that order, and removing an entry moves the last node of
the arena into the gap without touching the order of any chain.

The `generation` counts the structural changes, those that enter a new
key or drop entries. Replacing a value is not one of them.
-/

namespace Cardfile

/-- Keys that may be blank. A blank key cannot be entered in a table. -/
class TableKey (K : Type) where
  /-- Whether the key is blank. -/
  isBlank : K → Bool

instance : TableKey String where
  isBlank s := s.isEmpty

instance : TableKey Int where
  isBlank _ := false

/-- Why a table cannot be made or a key cannot be entered. -/
inductive TableFault where
  /-- A table needs room for an entry. -/
  | noCapacity
  /-- The least sufficient power of two does not fit a word. -/
  | capacityTooLarge (requested : Nat)
  /-- The key is blank. -/
  | blankKey
  deriving DecidableEq, Repr

/-- The fault as it is told to the user. -/
def TableFault.report : TableFault → Report
  | .noCapacity =>
    { kind := .usage, message := some "table capacity must be greater than zero" }
  | .capacityTooLarge n =>
    { kind := .usage, message := some ("table capacity " ++ toString n ++ " is too large") }
  | .blankKey => { kind := .usage, message := some "table key must not be empty" }

/-- A node of the arena: an entry, and the next node of its chain. -/
structure Node (K V : Type) where
  /-- The key of the entry. -/
  key : K
  /-- The value of the entry. -/
  value : V
  /-- The next node of the same chain. -/
  next : Option Nat

/-- A chained hash table. -/
structure Table (K V : Type) where
  /-- The hash function of the keys. -/
  hash : K → UInt64
  /-- The first node of each chain. -/
  buckets : Array (Option Nat)
  /-- The arena. -/
  nodes : Array (Node K V)
  /-- The number of structural changes so far, modulo `2^64`. -/
  generation : UInt64

namespace Table

variable {K V : Type}

/-! ## Size -/

/-- The number of entries. -/
def size (t : Table K V) : Nat := t.nodes.size

/-- Whether there are no entries. -/
def isEmpty (t : Table K V) : Bool := t.size == 0

/-- The number of buckets. -/
def capacity (t : Table K V) : Nat := t.buckets.size

/-- The least power of two that is at least `n`. -/
def leastPower (n : Nat) : Nat := if n ≤ 1 then 1 else Nat.pow 2 ((n - 1).log2 + 1)

/-- The number of values of a word. -/
def wordRange : Nat := 18446744073709551616

/-- A table without entries. -/
def empty (hash : K → UInt64) (capacity : Nat) : Table K V where
  hash := hash
  buckets := Array.replicate capacity none
  nodes := #[]
  generation := 0

/-- A table without entries, with the least power of two as its capacity
that covers the one requested. -/
def create (hash : K → UInt64) (requested : Nat) : Except TableFault (Table K V) :=
  if requested = 0 then .error .noCapacity
  else if leastPower requested < wordRange then .ok (empty hash (leastPower requested))
  else .error (.capacityTooLarge requested)

/-! ## Chains -/

/-- The bucket that a key belongs to. -/
def slot (t : Table K V) (k : K) : Nat := (t.hash k).toNat % t.capacity

/-- The nodes met by following links, at most `fuel` of them. A chain
visits no node twice, so the size of the arena is fuel enough. -/
def follow (nodes : Array (Node K V)) : Nat → Option Nat → List Nat
  | 0, _ => []
  | _ + 1, none => []
  | fuel + 1, some i =>
    match nodes[i]? with
    | none => []
    | some node => i :: follow nodes fuel node.next

/-- The first node of a bucket's chain. -/
def head (t : Table K V) (slot : Nat) : Option Nat := t.buckets[slot]?.join

/-- The nodes of a bucket's chain, in order. -/
def chain (t : Table K V) (slot : Nat) : List Nat :=
  follow t.nodes t.nodes.size (t.head slot)

/-- The nodes of all chains, bucket by bucket. -/
def indices (t : Table K V) : List Nat := (List.range t.capacity).flatMap t.chain

/-- The entry at a node. -/
def entryAt? (t : Table K V) (i : Nat) : Option (K × V) :=
  t.nodes[i]?.map fun node => (node.key, node.value)

/-- The entries in traversal order. -/
def entries (t : Table K V) : List (K × V) := t.indices.filterMap t.entryAt?

/-- The table after a structural change. -/
def touched (t : Table K V) : Table K V := { t with generation := t.generation + 1 }

/-- Enters an entry at the end of its bucket's chain. -/
def linkTail (t : Table K V) (k : K) (v : V) : Table K V :=
  let i := t.nodes.size
  let nodes := t.nodes.push { key := k, value := v, next := none }
  match (t.chain (t.slot k)).getLast? with
  | none => { t with nodes, buckets := t.buckets.setIfInBounds (t.slot k) (some i) }
  | some tail => { t with nodes := nodes.modify tail fun node => { node with next := some i } }

/-- Twice as many buckets, with the entries entered again in order. -/
def grown (t : Table K V) : Table K V :=
  t.entries.foldl (fun t e => t.linkTail e.1 e.2)
    { t with buckets := Array.replicate (2 * t.capacity) none, nodes := #[] }

/-- Whether the table is three quarters full. -/
def isCrowded (t : Table K V) : Bool := 3 * t.capacity ≤ 4 * t.size

/-- Points the link of a chain that leads to `target` somewhere else. -/
def relink (t : Table K V) (slot target : Nat) (next : Option Nat) : Table K V :=
  if t.head slot = some target then
    { t with buckets := t.buckets.setIfInBounds slot next }
  else
    match (t.chain slot).find? fun i => t.nodes[i]?.any fun node => node.next == some target with
    | some i => { t with nodes := t.nodes.modify i fun node => { node with next } }
    | none => t

/-- Takes the node out of its chain and fills its place in the arena with
the last node. -/
def unlink (t : Table K V) (i : Nat) : Table K V :=
  let last := t.nodes.size - 1
  match t.nodes[i]?, t.nodes[last]? with
  | some node, some final =>
    let t := t.relink (t.slot node.key) i node.next
    let t := if i = last then t else t.relink (t.slot final.key) last (some i)
    { t with nodes := (t.nodes.swapIfInBounds i last).pop }.touched
  | _, _ => t

/-- The node that `unlink` moves into the gap at `i`. -/
def movedInto (t : Table K V) (i : Nat) : Option Nat :=
  if i = t.nodes.size - 1 then none else some (t.nodes.size - 1)

/-! ## The operations -/

/-- Drops every entry and keeps the capacity. -/
def clear (t : Table K V) : Table K V :=
  { t with buckets := Array.replicate t.capacity none, nodes := #[] }.touched

/-- Whether an entry has the value. -/
def containsValue [DecidableEq V] (t : Table K V) (v : V) : Bool :=
  t.entries.any fun e => e.2 = v

section Keyed

variable [DecidableEq K]

/-- The node that holds the key. -/
def find? (t : Table K V) (k : K) : Option Nat :=
  (t.chain (t.slot k)).find? fun i => t.nodes[i]?.any fun node => node.key = k

/-- The value of the key. -/
def get? (t : Table K V) (k : K) : Option V :=
  (t.find? k).bind fun i => t.nodes[i]?.map Node.value

/-- Whether the key has a value. -/
def contains (t : Table K V) (k : K) : Bool := (t.find? k).isSome

/-- Drops the key, and answers the value it had. -/
def remove (t : Table K V) (k : K) : Option V × Table K V :=
  match t.find? k with
  | none => (none, t)
  | some i => (t.get? k, t.unlink i)

variable [TableKey K]

/-- Gives the key the value, and answers the value it had before. -/
def put (t : Table K V) (k : K) (v : V) : Except TableFault (Option V × Table K V) :=
  if TableKey.isBlank k then .error .blankKey
  else
    match t.find? k with
    | some i =>
      .ok (t.get? k, { t with nodes := t.nodes.modify i fun node => { node with value := v } })
    | none =>
      let t := (t.linkTail k v).touched
      .ok (none, if t.isCrowded then t.grown else t)

/-- Puts the entries one after the other. -/
def putEntries (t : Table K V) : List (K × V) → Except TableFault (Table K V)
  | [] => .ok t
  | e :: rest => do
    let (_, t) ← t.put e.1 e.2
    t.putEntries rest

/-- Puts every entry of another table, in that table's order. -/
def putAll (t other : Table K V) : Except TableFault (Table K V) := t.putEntries other.entries

end Keyed

/-- The entries between brackets, each as `key=value`. -/
def text (key : K → String) (value : V → String) (t : Table K V) : String :=
  "[" ++ ", ".intercalate (t.entries.map fun e => key e.1 ++ "=" ++ value e.2) ++ "]"

end Table

end Cardfile
