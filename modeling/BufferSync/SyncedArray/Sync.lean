import BufferSync.SyncedArray.Basic

/-!
# Bringing elements to the device

*Flush.*  `flush` uploads the bytes of the marked span in one request and forgets the marks.  Before
that it gives back an allocation that was replaced earlier, and if the host array has outgrown the
device allocation it takes a new one and gives the old one back.  A request that the device refuses
ends the flush; the marks are then as before, and an allocation that could not be given back stays
pending, so the next flush takes up where this one stopped.

*Bind.*  `bind` flushes if there is anything to do and makes the allocation the active one.

*Dispose and drop.*  `dispose` gives everything back and can be tried again after a refusal.  `drop`
is the end of the array: it gives back what is left and reports what the device refused.
-/

namespace BufferSync.SyncedArray

variable {α : Type} {c : Codec α} {D : Type} [Device D]

/-- Gives a pending allocation back; it stays pending if the device refuses. -/
def releasePending : Op (SyncedArray c × D) Unit := do
  let a ← self
  match a.pending with
  | none => pure ()
  | some h =>
    change fun a => { a with pending := none }
    (onDevice (Device.release h)).undoing (change fun a => { a with pending := some h })

/-- Takes a new device allocation if the host array has outgrown the old one. -/
def syncAllocation : Op (SyncedArray c × D) Unit := do
  let a ← self
  if a.outgrown then
    let h ← onDevice (Device.allocate a.host.storage.length a.usage)
    change fun a => { a with handle := some h, deviceCapacity := a.host.capacity }
    Op.note .debug source
      s!"Reallocated '{a.label}' on device: {a.deviceCapacity} -> {a.host.capacity} elements"
    change fun b => { b.markAll with pending := a.handle }
    releasePending

/-- Uploads the elements of a span from the host to the allocation `h`. -/
def uploadSpan (h : Handle) (s : Span) : Op (SyncedArray c × D) Unit := do
  let a ← self
  let bytes ← Op.ofOutcome (s.byteBounds c.size)
  let room ← Op.word (a.deviceCapacity * c.size)
  if bytes.stop ≤ room ∧ bytes.stop ≤ a.host.storage.length then
    (onDevice (Device.upload h bytes.start
        (Region.slice a.host.storage bytes.start (bytes.stop - bytes.start)))).undoing
      (change fun a => { a with marks := a.marks.mark s })
    Op.note .trace source
      (s!"Flushed '{a.label}': elements [{s.first}, {s.last}] -> " ++
        s!"bytes [{bytes.start}, {bytes.stop})")
  else
    Op.trap .outsideRegion

/-- Brings the marked elements to the device. -/
def flush : Op (SyncedArray c × D) Unit := do
  let _ ← liveHandle
  releasePending
  syncAllocation
  let h ← liveHandle
  let a ← self
  change fun a => { a with marks := .clean }
  match a.marks.span with
  | none => pure ()
  | some s => uploadSpan h s

/-- Brings the marked elements to the device and makes the allocation the active one. -/
def bind : Op (SyncedArray c × D) Unit := do
  let _ ← liveHandle
  let a ← self
  if a.marks.isDirty || a.outgrown || a.pending.isSome then
    flush
  let h ← liveHandle
  onDevice (Device.bind h)
  let a ← self
  Op.note .trace source (s!"Bound '{a.label}' (" ++ h.term ++ ")")

/-- Makes no allocation of the usage of this array active. -/
def unbind : Op (SyncedArray c × D) Unit := do
  let _ ← liveHandle
  let a ← self
  onDevice (Device.unbind a.usage)
  Op.note .trace source (s!"Unbound " ++ a.usage.name ++ s!" ('{a.label}')")

/-- Gives all allocations back; doing so again does nothing. -/
def dispose : Op (SyncedArray c × D) Unit := do
  releasePending
  let a ← self
  match a.handle with
  | none => pure ()
  | some h =>
    change fun a => { a with handle := none }
    (onDevice (Device.release h)).undoing (change fun a => { a with handle := some h })
    Op.note .debug source s!"Disposed '{a.label}'"

/-- Gives back what is left at the end of the array and reports refusals. -/
def drop : Op (SyncedArray c × D) Unit := do
  let a ← self
  releasePending.handle fun e =>
    Op.note .warn source
      (s!"Buffer '{a.label}' dropped with an unreleased replaced allocation: " ++ e.message)
  match a.handle with
  | none => pure ()
  | some h =>
    change fun a => { a with handle := none }
    (onDevice (Device.release h)).handle fun e =>
      Op.note .warn source
        (s!"Buffer '{a.label}' dropped without dispose(), release failed: " ++ e.message)

/-! ## Making synced arrays -/

/-- An array without elements, on the device that is the state. -/
def create (config : ArrayConfig) : Op D (SyncedArray c) := do
  let host ← HostArray.withCapacity config.capacity
  let h ← Device.allocate host.storage.length config.usage
  Op.note .debug source
    (s!"Created '{config.label}' (" ++ config.usage.name ++
      s!"): {config.capacity} elements x {c.size} bytes")
  pure
    { host
      marks := .clean
      handle := some h
      pending := none
      deviceCapacity := config.capacity
      label := config.label
      usage := config.usage }

/-- An array with the given elements; nothing is uploaded yet.  If the elements find no room, the
array is dropped again. -/
def ofList (config : ArrayConfig) (vs : List α) : Op D (SyncedArray c) := do
  let fresh ← create config
  let (_, a) ← Op.beside fresh ((appendAll vs).finishing drop)
  pure a

end BufferSync.SyncedArray
