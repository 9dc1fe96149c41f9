import BufferSync.Device.Interface
import BufferSync.Dirty.Marks
import BufferSync.HostArray.Cursor

/-!
# Synced arrays

A synced array is a host array together with one device allocation that is to hold the same
elements.  Changes go to the host array only and are marked; `flush` and `bind`, in the next module,
bring the marked elements to the device.

*Growth.*  The device allocation lags behind: it has room for `deviceCapacity` elements.  As soon as
the host array has outgrown it, all elements are marked, because a new allocation starts without
contents.

*Disposal.*  A disposed array has no handle any more and refuses every operation; what it holds on
the host can still be looked at.

Operations work on the array and its device together, as a pair.
-/

namespace BufferSync

/-- How to make a synced array. -/
structure ArrayConfig where
  /-- Name of the array in reports and errors. -/
  label : String := "buffer"
  /-- Usage of its allocations. -/
  usage : Usage := .vertex
  /-- Number of elements to make room for at the start. -/
  capacity : Nat := 0
deriving DecidableEq, Repr

/-- A host array with a device allocation for the same elements. -/
structure SyncedArray {α : Type} (c : Codec α) where
  /-- The elements on the host. -/
  host : HostArray c
  /-- The elements that the device has not seen. -/
  marks : Marks
  /-- The device allocation; none after disposal. -/
  handle : Option Handle
  /-- A replaced allocation that the device did not take back yet. -/
  pending : Option Handle
  /-- Number of elements that the device allocation has room for. -/
  deviceCapacity : Nat
  /-- Name in reports and errors. -/
  label : String
  /-- Usage of the allocations. -/
  usage : Usage
deriving DecidableEq, Repr

namespace SyncedArray

variable {α : Type} {c : Codec α} {D : Type} {β : Type}

/-- Component under which synced arrays report. -/
def source : String := "mirror::DeviceBuffer"

/-- Whether the array was disposed. -/
def isDisposed (a : SyncedArray c) : Bool :=
  a.handle.isNone

/-- Whether the host array has outgrown the device allocation. -/
def outgrown (a : SyncedArray c) : Bool :=
  decide (a.deviceCapacity < a.host.capacity)

/-! ## Parts of the state -/

/-- The array, without its device. -/
def self : Op (SyncedArray c × D) (SyncedArray c) := do
  let (a, _) ← Op.state
  pure a

/-- Changes the array and leaves the device alone. -/
def change (f : SyncedArray c → SyncedArray c) : Op (SyncedArray c × D) Unit :=
  Op.update fun (a, d) => (f a, d)

/-- Runs an operation on the host array. -/
def onHost (x : Op (HostArray c) β) : Op (SyncedArray c × D) β :=
  Op.focus (fun s => s.1.host) (fun h s => ({ s.1 with host := h }, s.2)) x

/-- Runs an operation on the device. -/
def onDevice (x : Op D β) : Op (SyncedArray c × D) β :=
  Op.onSnd x

/-- The handle of the allocation; refused after disposal. -/
def liveHandle : Op (SyncedArray c × D) Handle := do
  let a ← self
  match a.handle with
  | some h => pure h
  | none => Op.raise source (.useAfterDispose a.label)

/-! ## Marking -/

/-- The array with all populated elements marked. -/
def markAll (a : SyncedArray c) : SyncedArray c :=
  { a with marks := a.marks.mark? (Span.firstOnes? a.host.count) }

/-- The array with all populated elements marked if it has outgrown the device allocation. -/
def markOutgrown (a : SyncedArray c) : SyncedArray c :=
  if a.outgrown then a.markAll else a

/-- The array with the elements from `start` up to `stop` marked, or all of them if it has outgrown
the device allocation. -/
def markWritten (start stop : Nat) (a : SyncedArray c) : SyncedArray c :=
  match Span.ofBounds? start stop with
  | none => a
  | some s => if a.outgrown then a.markAll else { a with marks := a.marks.mark s }

/-- The array without marks from position `length` on. -/
def truncateMarks (length : Nat) (a : SyncedArray c) : SyncedArray c :=
  { a with marks := a.marks.truncate length }

/-! ## Elements -/

/-- The element at position `i`. -/
def get (i : Nat) : Op (SyncedArray c × D) α := do
  let _ ← liveHandle
  onHost (HostArray.get i)

/-- Replaces the element at position `i`. -/
def set (i : Nat) (v : α) : Op (SyncedArray c × D) Unit := do
  let _ ← liveHandle
  onHost (HostArray.set i v)
  change fun a => { a with marks := a.marks.markIndex i }

/-- Adds an element at the end and gives its position. -/
def append (v : α) : Op (SyncedArray c × D) Nat := do
  let _ ← liveHandle
  let i ← onHost (HostArray.append v)
  let stop ← Op.word (i + 1)
  change (markWritten i stop)
  pure i

/-- Adds elements at the end and gives their positions. -/
def appendAll (vs : List α) : Op (SyncedArray c × D) Bounds := do
  let _ ← liveHandle
  let b ← onHost (HostArray.appendAll vs)
  change (markWritten b.start b.stop)
  pure b

/-- Puts an element in front of position `i`. -/
def insert (i : Nat) (v : α) : Op (SyncedArray c × D) Unit := do
  let _ ← liveHandle
  onHost (HostArray.insert i v)
  change fun a => a.markWritten i a.host.count

/-- Takes the element at position `i` out and gives it. -/
def removeAt (i : Nat) : Op (SyncedArray c × D) α := do
  let _ ← liveHandle
  let v ← onHost (HostArray.removeAt i)
  change fun a => (a.truncateMarks a.host.count).markWritten i a.host.count
  pure v

/-- Keeps the first `length` elements. -/
def truncate (length : Nat) : Op (SyncedArray c × D) Unit := do
  let _ ← liveHandle
  onHost (HostArray.truncate length)
  change (truncateMarks length)

/-- Makes the number of elements `length`: drops elements at the end or adds copies of `v`. -/
def resize (length : Nat) (v : α) : Op (SyncedArray c × D) Unit := do
  let _ ← liveHandle
  let before ← self
  onHost (HostArray.resize length v)
  if before.host.count < length then
    change (markWritten before.host.count length)
  else
    change (truncateMarks length)

/-- Drops all elements. -/
def clear : Op (SyncedArray c × D) Unit := do
  let _ ← liveHandle
  onHost HostArray.clear
  change fun a => { a with marks := .clean }

/-- Makes room for exactly `capacity` elements on the host. -/
def setCapacity (capacity : Nat) : Op (SyncedArray c × D) Unit := do
  let _ ← liveHandle
  onHost (HostArray.setCapacity capacity)
  change markOutgrown

/-- Makes room for at least `capacity` elements on the host. -/
def reserve (capacity : Nat) : Op (SyncedArray c × D) Unit := do
  let _ ← liveHandle
  onHost (HostArray.reserve capacity)
  change markOutgrown

/-- All elements. -/
def elements : Op (SyncedArray c × D) (List α) := do
  let _ ← liveHandle
  onHost HostArray.elements

/-- Walks `n` steps through the elements. -/
def walk (n : Nat) : Op (SyncedArray c × D) (HostArray.Walk α) := do
  let _ ← liveHandle
  onHost (HostArray.walk n)

end SyncedArray

end BufferSync
