import BufferSync.HostArray.Call
import BufferSync.SyncedArray.Sync

/-!
# Calls on a synced array

The operations of a synced array as data: those that it shares with a host array, and those that
reach the device.
-/

namespace BufferSync.SyncedArray

/-- What can be asked of a synced array. -/
inductive Call (α : Type) where
  /-- An operation on the elements. -/
  | array (call : ArrayCall α)
  /-- Bring the marked elements to the device. -/
  | flush
  /-- Flush and make the allocation active. -/
  | bind
  /-- Make no allocation of this usage active. -/
  | unbind
  /-- Give the allocations back. -/
  | dispose
deriving DecidableEq, Repr

variable {α : Type} {c : Codec α} {D : Type} [Device D]

/-- Runs an operation on the elements. -/
def performArray : ArrayCall α → Op (SyncedArray c × D) (Reply α)
  | .get i => do
    let v ← get i
    pure (.element v)
  | .set i v => do
    set i v
    pure .done
  | .append v => do
    let i ← append v
    pure (.position i)
  | .appendAll vs => do
    let b ← appendAll vs
    pure (.positions b)
  | .insert i v => do
    insert i v
    pure .done
  | .removeAt i => do
    let v ← removeAt i
    pure (.element v)
  | .truncate length => do
    truncate length
    pure .done
  | .resize length v => do
    resize length v
    pure .done
  | .clear => do
    clear
    pure .done
  | .setCapacity capacity => do
    setCapacity capacity
    pure .done
  | .reserve capacity => do
    reserve capacity
    pure .done
  | .elements => do
    let vs ← elements
    pure (.elements vs)
  | .walk steps => do
    let w ← walk steps
    pure (.walk w)

/-- Runs a call. -/
def perform : Call α → Op (SyncedArray c × D) (Reply α)
  | .array call => performArray call
  | .flush => do
    flush
    pure .done
  | .bind => do
    SyncedArray.bind
    pure .done
  | .unbind => do
    unbind
    pure .done
  | .dispose => do
    dispose
    pure .done

end BufferSync.SyncedArray
