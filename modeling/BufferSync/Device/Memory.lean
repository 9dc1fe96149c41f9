import BufferSync.Device.HandleTable
import BufferSync.Device.Interface

/-!
# The device in memory

A device without hardware: it keeps the bytes of its allocations, remembers which one is bound and
records every request that it granted, in order.  It can be armed to refuse the next allocation, the
next upload or the next release.  A refused request is reported and not recorded, and apart from the
fault that it used up it leaves no trace.
-/

namespace BufferSync

/-- A block of device memory. -/
structure Allocation where
  /-- Its contents. -/
  bytes : Bytes
  /-- What it is bound as. -/
  usage : Usage
deriving DecidableEq, Repr

/-- Something that a device did: a request that it granted. -/
inductive Device.Event where
  /-- An allocation of `size` bytes was made. -/
  | allocated (h : Handle) (size : Nat)
  /-- A number of bytes, `length`, were copied to position `offset`. -/
  | uploaded (h : Handle) (offset length : Nat)
  /-- An allocation was made the active one. -/
  | bound (h : Handle)
  /-- A usage was unbound. -/
  | unbound (usage : Usage)
  /-- An allocation was given back. -/
  | released (h : Handle)
deriving DecidableEq, Repr

/-- The event as a term. -/
def Device.Event.term : Device.Event → String
  | .allocated h size => "Allocate \x7b handle: " ++ h.term ++ s!", size: {size} \x7d"
  | .uploaded h offset length =>
      "Upload \x7b handle: " ++ h.term ++ s!", offset: {offset}, len: {length} \x7d"
  | .bound h => "Bind \x7b handle: " ++ h.term ++ " \x7d"
  | .unbound usage => "Unbind \x7b usage: " ++ usage.name ++ " \x7d"
  | .released h => "Release \x7b handle: " ++ h.term ++ " \x7d"

/-- The requests that are refused when they come next. -/
structure Faults where
  /-- Refuse the next allocation. -/
  allocate : Bool := false
  /-- Refuse the next upload. -/
  upload : Bool := false
  /-- Refuse the next release. -/
  release : Bool := false
deriving DecidableEq, Repr

/-- A device that lives in memory. -/
structure MemoryDevice where
  /-- The live allocations. -/
  table : HandleTable Allocation := {}
  /-- What it did, last event first. -/
  history : List Device.Event := []
  /-- The active allocation. -/
  bound : Option Handle := none
  /-- The faults it is armed with. -/
  faults : Faults := {}
deriving DecidableEq, Repr

namespace MemoryDevice

/-- Component under which the device reports. -/
def source : String := "mirror::HeadlessDevice"

/-! ## Inspection -/

/-- What the device did, first event first. -/
def events (d : MemoryDevice) : List Device.Event :=
  d.history.reverse

/-- The bytes of a live allocation. -/
def contents? (d : MemoryDevice) (h : Handle) : Option Bytes :=
  (d.table.find? h).map Allocation.bytes

/-- The size of a live allocation. -/
def size? (d : MemoryDevice) (h : Handle) : Option Nat :=
  (d.contents? h).map List.length

/-- The usage of a live allocation. -/
def usage? (d : MemoryDevice) (h : Handle) : Option Usage :=
  (d.table.find? h).map Allocation.usage

/-- Number of live allocations. -/
def liveAllocations (d : MemoryDevice) : Nat :=
  d.table.size

/-- The recorded uploads: handle, position and number of bytes. -/
def uploads (d : MemoryDevice) : List (Handle × Nat × Nat) :=
  d.events.filterMap fun
    | .uploaded h offset length => some (h, offset, length)
    | _ => none

/-- Number of bytes in all recorded uploads. -/
def uploadedBytes (d : MemoryDevice) : Nat :=
  d.uploads.foldl (fun total u => total + u.2.2) 0

/-- The device with one more recorded event. -/
def record (d : MemoryDevice) (event : Device.Event) : MemoryDevice :=
  { d with history := event :: d.history }

/-- The device without its records. -/
def forgetEvents (d : MemoryDevice) : MemoryDevice :=
  { d with history := [] }

@[simp] theorem events_record (d : MemoryDevice) (event : Device.Event) :
    (d.record event).events = d.events ++ [event] := by
  simp [events, record]

/-! ## Requests -/

/-- Reports why a request is refused and refuses it. -/
def refuse {α : Type} (reason : String) : Op MemoryDevice α :=
  Op.raise source (.device reason)

/-- Makes an allocation of `size` zero bytes. -/
def allocate (size : Nat) (usage : Usage) : Op MemoryDevice Handle := do
  let d ← Op.state
  if d.faults.allocate then
    Op.update fun d => { d with faults.allocate := false }
    refuse s!"Injected failure allocating {size} bytes"
  else
    Op.roomFor size
    let h := d.table.nextHandle
    Op.update fun d =>
      { d with table := d.table.insert { bytes := Region.zeros size, usage } }.record
        (.allocated h size)
    Op.note .trace source ("Allocated " ++ h.term ++ s!": {size} bytes (" ++ usage.name ++ ")")
    pure h

/-- Copies bytes into a live allocation; refused if they reach past its end. -/
def upload (h : Handle) (offset : Nat) (bytes : Bytes) : Op MemoryDevice Unit := do
  let d ← Op.state
  if d.faults.upload then
    Op.update fun d => { d with faults.upload := false }
    refuse (s!"Injected failure uploading {bytes.length} bytes to " ++ h.term)
  else
    match d.table.find? h with
    | none => refuse ("Upload to unknown or released allocation " ++ h.term)
    | some a =>
      if wordLimit ≤ offset + bytes.length then
        refuse s!"Upload of {bytes.length} bytes at offset {offset} overflows the address range"
      else if a.bytes.length < offset + bytes.length then
        refuse (s!"Upload of {bytes.length} bytes at offset {offset} exceeds allocation " ++
          h.term ++ s!" of {a.bytes.length} bytes")
      else
        let written := { a with bytes := Region.overwrite a.bytes offset bytes }
        Op.update fun d =>
          { d with table := d.table.replace h written }.record (.uploaded h offset bytes.length)

/-- Makes a live allocation the active one. -/
def bind (h : Handle) : Op MemoryDevice Unit := do
  let d ← Op.state
  if d.table.contains h then
    Op.update fun d => { d with bound := some h }.record (.bound h)
  else
    refuse ("Bind of unknown or released allocation " ++ h.term)

/-- Makes no allocation active, if the active one has the given usage. -/
def unbind (usage : Usage) : Op MemoryDevice Unit :=
  Op.update fun d =>
    let bound := if d.bound.bind d.usage? = some usage then none else d.bound
    { d with bound }.record (.unbound usage)

/-- Gives a live allocation back. -/
def release (h : Handle) : Op MemoryDevice Unit := do
  let d ← Op.state
  if d.faults.release then
    Op.update fun d => { d with faults.release := false }
    refuse ("Injected failure releasing " ++ h.term)
  else if d.table.contains h then
    Op.update fun d =>
      let bound := if d.bound = some h then none else d.bound
      { d with table := d.table.erase h, bound }.record (.released h)
    Op.note .trace source ("Released " ++ h.term)
  else
    refuse ("Release of unknown or already released allocation " ++ h.term)

end MemoryDevice

instance : Device MemoryDevice where
  allocate := MemoryDevice.allocate
  upload := MemoryDevice.upload
  bind := MemoryDevice.bind
  unbind := MemoryDevice.unbind
  release := MemoryDevice.release

end BufferSync
