import BufferSync.HostArray.Cursor

/-!
# Calls on an array

The operations of a host array as data, with their answers as data: a run of an array is a list of
calls.  Synced arrays understand the same calls.
-/

namespace BufferSync

/-- What can be asked of an array with elements in `α`. -/
inductive ArrayCall (α : Type) where
  /-- Read one element. -/
  | get (i : Nat)
  /-- Replace one element. -/
  | set (i : Nat) (v : α)
  /-- Add an element at the end. -/
  | append (v : α)
  /-- Add elements at the end. -/
  | appendAll (vs : List α)
  /-- Put an element in front of a position. -/
  | insert (i : Nat) (v : α)
  /-- Take an element out. -/
  | removeAt (i : Nat)
  /-- Keep the first elements. -/
  | truncate (length : Nat)
  /-- Set the number of elements. -/
  | resize (length : Nat) (v : α)
  /-- Drop all elements. -/
  | clear
  /-- Set the capacity. -/
  | setCapacity (capacity : Nat)
  /-- Make room. -/
  | reserve (capacity : Nat)
  /-- List all elements. -/
  | elements
  /-- Walk some steps from the start. -/
  | walk (steps : Nat)
deriving DecidableEq, Repr

/-- What a call answers. -/
inductive Reply (α : Type) where
  /-- It was done. -/
  | done
  /-- An element. -/
  | element (v : α)
  /-- A position. -/
  | position (i : Nat)
  /-- A range of positions. -/
  | positions (b : Bounds)
  /-- Elements. -/
  | elements (vs : List α)
  /-- A walk. -/
  | walk (w : HostArray.Walk α)
deriving DecidableEq, Repr

/-- Runs a call on a host array. -/
def HostArray.perform {α : Type} {c : Codec α} : ArrayCall α → Op (HostArray c) (Reply α)
  | .get i => do
    let v ← get i
    pure (.element v)
  | .set i v => do
    set i v
    pure .done
  | .append v => do
    let i ← append v
    pure (.position i)
  | .appendAll vs => do
    let b ← appendAll vs
    pure (.positions b)
  | .insert i v => do
    insert i v
    pure .done
  | .removeAt i => do
    let v ← removeAt i
    pure (.element v)
  | .truncate length => do
    truncate length
    pure .done
  | .resize length v => do
    resize length v
    pure .done
  | .clear => do
    clear
    pure .done
  | .setCapacity capacity => do
    setCapacity capacity
    pure .done
  | .reserve capacity => do
    reserve capacity
    pure .done
  | .elements => do
    let vs ← elements
    pure (.elements vs)
  | .walk steps => do
    let w ← walk steps
    pure (.walk w)

end BufferSync
