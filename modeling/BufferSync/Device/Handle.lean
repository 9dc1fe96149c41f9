/-!
# Handles and usages

A device names its allocations by handles.  A handle is a slot number together with a version: slots
are used again after a release, but with a higher version, so a released handle never comes back.
Slots are numbered from one; the highest slot number is set aside for the null handle, which names
no allocation.  The usage of an allocation says where it can be bound.

*Assumed.*  Slot numbers and versions are unbounded here.  That a released handle never comes back
rests on versions that do not wrap around, and that the null handle names nothing on fewer than
2 ^ 32 - 2 live slots.
-/

namespace BufferSync

/-- The name of an allocation. -/
structure Handle where
  /-- Number of the slot. -/
  slot : Nat
  /-- Which use of the slot is meant. -/
  version : Nat
deriving DecidableEq, Repr

namespace Handle

/-- The handle of a use of a slot.  Uses have odd versions; an even one stands for the next. -/
def ofUse (slot version : UInt32) : Handle :=
  { slot := slot.toNat, version := (version ||| 1).toNat }

/-- Slot number of handles that name nothing. -/
def nullSlot : Nat := Nat.pow 2 32 - 1

/-- The handle that names nothing. -/
def null : Handle :=
  { slot := nullSlot, version := 1 }

/-- Slot and version, or the word for a handle that names nothing. -/
def text (h : Handle) : String :=
  if h.slot = nullSlot then "null" else s!"{h.slot}v{h.version}"

/-- The handle as a term. -/
def term (h : Handle) : String :=
  "AllocationHandle(" ++ h.text ++ ")"

end Handle

/-- What an allocation is bound as. -/
inductive Usage where
  /-- Vertices. -/
  | vertex
  /-- Vertex indices. -/
  | index
  /-- Constants of a shader. -/
  | uniform
  /-- Data of a shader. -/
  | storage
deriving DecidableEq, Repr

/-- The name of a usage. -/
def Usage.name : Usage → String
  | .vertex => "Vertex"
  | .index => "Index"
  | .uniform => "Uniform"
  | .storage => "Storage"

end BufferSync
