import Cardfile.Table.Basic
/-!
# Table — ledgers

What a table holds, apart from the way it holds it. A ledger lists the
entries in the order in which their keys were entered: a new key comes
last, a key with another value stays where it is, and a key that is
removed and entered again comes last. `inBuckets` is the order in which a
table of some capacity is walked through.
-/

namespace Cardfile

/-- Entries in the order in which their keys were entered. -/
structure Ledger (K V : Type) where
  /-- The entries, the oldest key first. -/
  entries : List (K × V)
  deriving DecidableEq, Repr

namespace Ledger

variable {K V : Type}

/-- A ledger without entries. -/
def empty : Ledger K V := ⟨[]⟩

/-- The number of entries. -/
def size (l : Ledger K V) : Nat := l.entries.length

/-- The keys, the oldest first. -/
def keys (l : Ledger K V) : List K := l.entries.map Prod.fst

/-- The entries bucket by bucket, as the hash function leaves their keys
modulo the capacity. -/
def inBuckets (hash : K → UInt64) (capacity : Nat) (l : Ledger K V) : List (K × V) :=
  (List.range capacity).flatMap fun b =>
    l.entries.filter fun e => (hash e.1).toNat % capacity == b

section Keyed

variable [DecidableEq K]

/-- The value of the key. -/
def get? (l : Ledger K V) (k : K) : Option V :=
  (l.entries.find? fun e => e.1 = k).map Prod.snd

/-- Drops the key, and answers the value it had. -/
def remove (l : Ledger K V) (k : K) : Option V × Ledger K V :=
  (l.get? k, ⟨l.entries.filter fun e => e.1 ≠ k⟩)

/-- Gives the key the value where it stands. -/
def replace (l : Ledger K V) (k : K) (v : V) : Ledger K V :=
  ⟨l.entries.map fun e => if e.1 = k then (k, v) else e⟩

/-- Enters the key last. -/
def append (l : Ledger K V) (k : K) (v : V) : Ledger K V := ⟨l.entries ++ [(k, v)]⟩

variable [TableKey K]

/-- Gives the key the value, and answers the value it had before. -/
def put (l : Ledger K V) (k : K) (v : V) : Except TableFault (Option V × Ledger K V) :=
  if TableKey.isBlank k then .error .blankKey
  else
    match l.get? k with
    | some old => .ok (some old, l.replace k v)
    | none => .ok (none, l.append k v)

/-- Puts the entries one after the other. -/
def putEntries (l : Ledger K V) : List (K × V) → Except TableFault (Ledger K V)
  | [] => .ok l
  | e :: rest => do
    let (_, l) ← l.put e.1 e.2
    l.putEntries rest

end Keyed

end Ledger

end Cardfile
