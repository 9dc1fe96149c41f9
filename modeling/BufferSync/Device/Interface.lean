import BufferSync.Device.Handle
import BufferSync.Region

/-!
# Devices

What a synced array needs of a device: allocations can be made, filled with bytes, bound and given
back.  The device is the state on which these requests work.  A request that the device refuses ends
with a device error.  `Device.Request` and `Device.perform` give the requests as data.
-/

namespace BufferSync

/-- A state that answers the requests of synced arrays. -/
class Device (D : Type) where
  /-- Makes an allocation of `size` bytes. -/
  allocate (size : Nat) (usage : Usage) : Op D Handle
  /-- Copies bytes into an allocation from position `offset` on. -/
  upload (h : Handle) (offset : Nat) (bytes : Bytes) : Op D Unit
  /-- Makes an allocation the active one. -/
  bind (h : Handle) : Op D Unit
  /-- Makes no allocation of this usage active. -/
  unbind (usage : Usage) : Op D Unit
  /-- Gives an allocation back. -/
  release (h : Handle) : Op D Unit

namespace Device

/-- A request to a device. -/
inductive Request where
  /-- Make an allocation. -/
  | allocate (size : Nat) (usage : Usage)
  /-- Copy bytes into an allocation. -/
  | upload (h : Handle) (offset : Nat) (bytes : Bytes)
  /-- Make an allocation the active one. -/
  | bind (h : Handle)
  /-- Make no allocation of this usage active. -/
  | unbind (usage : Usage)
  /-- Give an allocation back. -/
  | release (h : Handle)
deriving DecidableEq, Repr

/-- What a request answers. -/
inductive Answer where
  /-- It was done. -/
  | done
  /-- The handle of a new allocation. -/
  | handle (h : Handle)
deriving DecidableEq, Repr

/-- Runs a request. -/
def perform {D : Type} [Device D] : Request → Op D Answer
  | .allocate size usage => do
    let h ← allocate size usage
    pure (.handle h)
  | .upload h offset bytes => do
    upload h offset bytes
    pure .done
  | .bind h => do
    Device.bind h
    pure .done
  | .unbind usage => do
    unbind usage
    pure .done
  | .release h => do
    release h
    pure .done

end Device

end BufferSync
