import Cardfile.Table.Traversal
/-!
# Table — cursors

A cursor walks through a table that may change meanwhile. It keeps the
generation it expects, and every step is refused once the table has
another one: the table changed other than through this cursor. The entry
returned last may be removed through the cursor, which then expects the
generation that this removal leaves behind.

A cursor holds numbers only and can be driven with any table. A place
that the table does not have is reported and nothing is changed.
-/

namespace Cardfile

/-- A place in a traversal that outlives changes of the table. -/
structure Cursor where
  /-- The generation that the table must have. -/
  expected : UInt64
  /-- The place in the traversal. -/
  position : Table.Position
  /-- The node returned last, until it is removed. -/
  last : Option Nat
  deriving DecidableEq, Repr

/-- Why a cursor refuses a step. -/
inductive CursorFault where
  /-- The table was changed other than through this cursor. -/
  | modified
  /-- There is no entry to remove. -/
  | nothingReturned
  /-- No bucket is left although entries should remain. -/
  | pastLastBucket
  /-- The table has no such node. -/
  | foreignTable
  deriving DecidableEq, Repr

/-- The fault as it is told to the user. -/
def CursorFault.report : CursorFault → Report
  | .modified =>
    { kind := .concurrentModification,
      message := some "table was structurally modified during traversal" }
  | .nothingReturned =>
    { kind := .illegalState, message := some "remove requires a preceding next",
      hint := some "Each entry returned by the cursor can be removed at most once." }
  | .pastLastBucket => { kind := .internal, message := some "cursor ran past the last bucket" }
  | .foreignTable =>
    { kind := .internal, message := some "cursor position is not in this table",
      hint := some "Drive a cursor only with the table that created it." }

namespace Cursor

variable {K V : Type}

/-- A cursor before the first entry of the table. -/
def ofTable (t : Table K V) : Cursor where
  expected := t.generation
  position := t.start
  last := none

/-- Whether the table is the one the cursor expects. -/
def agrees (c : Cursor) (t : Table K V) : Bool := t.generation == c.expected

/-- Whether entries are still to come. -/
def hasNext (c : Cursor) (t : Table K V) : Except CursorFault Bool :=
  if c.agrees t then .ok (0 < c.position.remaining) else .error .modified

/-- The cursor that has looked into the buckets before `bucket`. -/
def atBucket (c : Cursor) (bucket : Nat) : Cursor :=
  { c with position := { c.position with bucket } }

/-- The next entry, or nothing at the end of the traversal. -/
def next (c : Cursor) (t : Table K V) : Except CursorFault (Option (K × V)) × Cursor :=
  if c.agrees t then
    if c.position.remaining = 0 then (.ok none, c)
    else
      match t.nodeAfter c.position with
      | none => (.error .pastLastBucket, c.atBucket (max c.position.bucket t.capacity))
      | some (bucket, i) =>
        match t.nodes[i]? with
        | none => (.error .foreignTable, c.atBucket bucket)
        | some node =>
          (.ok (some (node.key, node.value)),
            { c with
              position :=
                { bucket, successor := node.next, remaining := c.position.remaining - 1 }
              last := some i })
  else (.error .modified, c)

/-- The cursor after node `i` was removed from the table: it expects the
table's new generation and follows the node that was moved. -/
def afterRemoval (c : Cursor) (t : Table K V) (i : Nat) : Cursor where
  expected := (t.unlink i).generation
  position :=
    match t.movedInto i with
    | some moved =>
      if c.position.successor = some moved then { c.position with successor := some i }
      else c.position
    | none => c.position
  last := none

/-- Removes the entry returned last, and answers it. -/
def remove (c : Cursor) (t : Table K V) :
    Except CursorFault (K × V) × Cursor × Table K V :=
  if c.agrees t then
    match c.last with
    | none => (.error .nothingReturned, c, t)
    | some i =>
      match t.entryAt? i with
      | none => (.error .foreignTable, { c with last := none }, t)
      | some e => (.ok e, c.afterRemoval t i, t.unlink i)
  else (.error .modified, c, t)

end Cursor

end Cardfile
