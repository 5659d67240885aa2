import Cardfile.Table.Basic
/-!
# Table — walking through the entries

A walk keeps the next bucket to look into, the next node of the chain it
is in, and the number of entries still to come. It yields the entries
bucket by bucket and is over once none are left. `Table.Position` is the
part of it that a cursor keeps too.
-/

namespace Cardfile

namespace Table

variable {K V : Type}

/-- The first head in a list of buckets that begins at bucket `b`, with
the bucket after it. -/
def firstHead (b : Nat) : List (Option Nat) → Option (Nat × Nat)
  | [] => none
  | some i :: _ => some (b + 1, i)
  | none :: rest => firstHead (b + 1) rest

/-- The first chain at or after bucket `b`: the bucket after it, and its
first node. -/
def nextChain (t : Table K V) (b : Nat) : Option (Nat × Nat) :=
  firstHead b (t.buckets.toList.drop b)

/-- A place between two entries of a traversal. -/
structure Position where
  /-- The next bucket to look into. -/
  bucket : Nat
  /-- The next node of the present chain. -/
  successor : Option Nat
  /-- The number of entries still to come. -/
  remaining : Nat
  deriving DecidableEq, Repr

/-- The place before the first entry. -/
def start (t : Table K V) : Position where
  bucket := 0
  successor := none
  remaining := t.size

/-- The node that follows a place, with the bucket to look into after
it. -/
def nodeAfter (t : Table K V) (p : Position) : Option (Nat × Nat) :=
  match p.successor with
  | some i => some (p.bucket, i)
  | none => t.nextChain p.bucket

/-- The next entry of a walk, and the place after it. -/
def step (t : Table K V) (p : Position) : Option ((K × V) × Position) :=
  if p.remaining = 0 then none
  else do
    let (bucket, i) ← t.nodeAfter p
    let node ← t.nodes[i]?
    some ((node.key, node.value),
      { bucket, successor := node.next, remaining := p.remaining - 1 })

/-- The place after at most `n` more entries. -/
def skip (t : Table K V) : Nat → Position → Position
  | 0, p => p
  | n + 1, p =>
    match t.step p with
    | none => p
    | some (_, p) => t.skip n p

/-- The entries that a walk still yields, at most `fuel` of them. -/
def walk (t : Table K V) : Nat → Position → List (K × V)
  | 0, _ => []
  | fuel + 1, p =>
    match t.step p with
    | none => []
    | some (e, p) => e :: t.walk fuel p

/-- The entries that a walk still yields. -/
def rest (t : Table K V) (p : Position) : List (K × V) := t.walk p.remaining p

end Table

end Cardfile
