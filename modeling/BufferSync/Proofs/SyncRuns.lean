import BufferSync.Proofs.DeviceRuns
import BufferSync.SyncedArray.Sync

/-!
# What the operations of a synced array do on the device in memory

A flush has three stages behind the check that the array is live: a pending allocation is given
back, a new allocation is taken if the host array has outgrown the old one, and the marked elements
are uploaded.  A disposal has two: a pending allocation is given back, and then the allocation
itself.  For each stage one statement lists the ways in which it can end, with the array, the device
and the entries that it leaves.  All else about these operations is derived from these lists.

The device stands behind a gate that limits no allocations.
-/

namespace BufferSync.SyncedArray

variable {α : Type} {c : Codec α} {D β : Type} {a : SyncedArray c} {g : Gate MemoryDevice}
  {h p : Handle}

open MemoryDevice (refusal releaseFault releaseUnknown allocateFault uploadFault bindUnknown
  releaseEntry allocateEntry)

/-! ## Parts of the state -/

theorem self_bind (f : SyncedArray c → Op (SyncedArray c × D) β) (a : SyncedArray c) (d : D) :
    (self >>= f) (a, d) = f a (a, d) := rfl

theorem change_bind (k : SyncedArray c → SyncedArray c) (f : Unit → Op (SyncedArray c × D) β)
    (a : SyncedArray c) (d : D) : (change k >>= f) (a, d) = f () (k a, d) := rfl

theorem onDevice_of_eq {x : Op D β} {d d' : D} {o : Outcome β} {l : List Log.Entry}
    (hx : x d = { outcome := o, state := d', log := l }) (a : SyncedArray c) :
    (onDevice x : Op (SyncedArray c × D) β) (a, d) =
      { outcome := o, state := (a, d'), log := l } := by
  simp [onDevice, Op.onSnd, Op.focus_apply, hx]

theorem onHost_of_eq {x : Op (HostArray c) β} {b : HostArray c} {o : Outcome β}
    {l : List Log.Entry} (hx : x a.host = { outcome := o, state := b, log := l }) (d : D) :
    onHost x (a, d) = { outcome := o, state := ({ a with host := b }, d), log := l } := by
  simp [onHost, Op.focus_apply, hx]

theorem liveHandle_of_some (hh : a.handle = some h) (d : D) :
    liveHandle (a, d) = { outcome := .ok h, state := (a, d), log := [] } := by
  rw [liveHandle, self_bind, hh]
  rfl

theorem liveHandle_of_none (hh : a.handle = none) (d : D) :
    (liveHandle (a, d) : Run (SyncedArray c × D) Handle) =
      Op.raise source (.useAfterDispose a.label) (a, d) := by
  rw [liveHandle, self_bind, hh]

/-! ## Requests behind the gate -/

theorem gate_release_of_eq {o : Outcome Unit} {d : MemoryDevice} {l : List Log.Entry}
    (hx : MemoryDevice.release h g.inner = { outcome := o, state := d, log := l }) :
    Device.release h g = { outcome := o, state := { g with inner := d }, log := l } := by
  change Gate.pass (MemoryDevice.release h) g = _
  simp [Gate.pass, Op.focus_apply, hx]

theorem gate_upload_of_eq {offset : Nat} {bytes : Bytes} {o : Outcome Unit} {d : MemoryDevice}
    {l : List Log.Entry}
    (hx : MemoryDevice.upload h offset bytes g.inner = { outcome := o, state := d, log := l }) :
    Device.upload h offset bytes g =
      { outcome := o, state := { g with inner := d }, log := l } := by
  change Gate.pass (MemoryDevice.upload h offset bytes) g = _
  simp [Gate.pass, Op.focus_apply, hx]

theorem gate_allocate_of_eq (hleft : g.allocatesLeft = none) {size : Nat} {usage : Usage}
    {o : Outcome Handle} {d : MemoryDevice} {l : List Log.Entry}
    (hx : MemoryDevice.allocate size usage g.inner = { outcome := o, state := d, log := l }) :
    Device.allocate size usage g = { outcome := o, state := { g with inner := d }, log := l } := by
  have hpass : Gate.allocate size usage g = Gate.pass (MemoryDevice.allocate size usage) g := by
    rw [Gate.allocate, Op.state_bind, hleft]
    rfl
  change Gate.allocate size usage g = _
  rw [hpass, Gate.pass, Op.focus_apply, hx]

/-! ## Giving a handle back -/

/-- The gate after a fault has struck a release. -/
def spentRelease (g : Gate MemoryDevice) : Gate MemoryDevice :=
  { g with inner := { g.inner with faults.release := false } }

/-- The gate after an allocation was given back. -/
def afterRelease (g : Gate MemoryDevice) (h : Handle) : Gate MemoryDevice :=
  { g with inner := g.inner.released h }

/-- A release meets a fault, is refused because the handle is not known, or is granted. -/
theorem gate_release_cases (g : Gate MemoryDevice) (h : Handle) :
    (g.inner.faults.release = true ∧ Device.release h g =
      { outcome := .error (.device (releaseFault h))
        state := spentRelease g
        log := [refusal (releaseFault h)] }) ∨
    (g.inner.faults.release = false ∧ ¬ g.Live h ∧ Device.release h g =
      { outcome := .error (.device (releaseUnknown h))
        state := g
        log := [refusal (releaseUnknown h)] }) ∨
    (g.inner.faults.release = false ∧ g.Live h ∧ Device.release h g =
      { outcome := .ok ()
        state := afterRelease g h
        log := [releaseEntry h] }) := by
  cases hf : g.inner.faults.release with
  | true =>
    exact .inl ⟨rfl, gate_release_of_eq (MemoryDevice.release_of_fault hf h)⟩
  | false =>
    cases hk : g.inner.table.contains h with
    | true => exact .inr (.inr ⟨rfl, hk, gate_release_of_eq (MemoryDevice.release_of_known hf hk)⟩)
    | false =>
      refine .inr (.inl ⟨rfl, ?_, gate_release_of_eq (MemoryDevice.release_of_unknown hf hk)⟩)
      rw [Gate.Live, hk]
      exact Bool.false_ne_true

theorem set_pending_self (hp : a.pending = some p) : { a with pending := some p } = a := by
  rw [← hp]

theorem set_handle_self (hh : a.handle = some h) : { a with handle := some h } = a := by
  rw [← hh]

theorem releasePending_of_none [Device D] (hp : a.pending = none) (d : D) :
    releasePending (a, d) = { outcome := .ok (), state := (a, d), log := [] } := by
  rw [releasePending, self_bind, hp]
  rfl

/-- The first stage of flush and dispose: nothing is pending, or a pending allocation is given back,
or it stays pending because the release was refused. -/
theorem releasePending_cases (a : SyncedArray c) (g : Gate MemoryDevice) :
    (a.pending = none ∧
      releasePending (a, g) = { outcome := .ok (), state := (a, g), log := [] }) ∨
    (∃ p, a.pending = some p ∧ g.inner.faults.release = true ∧ releasePending (a, g) =
      { outcome := .error (.device (releaseFault p))
        state := (a, spentRelease g)
        log := [refusal (releaseFault p)] }) ∨
    (∃ p, a.pending = some p ∧ g.inner.faults.release = false ∧ ¬ g.Live p ∧ releasePending (a, g) =
      { outcome := .error (.device (releaseUnknown p))
        state := (a, g)
        log := [refusal (releaseUnknown p)] }) ∨
    (∃ p, a.pending = some p ∧ g.inner.faults.release = false ∧ g.Live p ∧ releasePending (a, g) =
      { outcome := .ok ()
        state := ({ a with pending := none }, afterRelease g p)
        log := [releaseEntry p] }) := by
  cases hp : a.pending with
  | none => exact .inl ⟨rfl, releasePending_of_none hp g⟩
  | some p =>
    have hself := set_pending_self hp
    have hstart : releasePending (a, g) = (onDevice (Device.release p)).undoing
        (change fun a => { a with pending := some p }) ({ a with pending := none }, g) := by
      rw [releasePending, self_bind, hp]
      rfl
    rw [hstart]
    obtain ⟨hf, hrun⟩ | ⟨hf, hl, hrun⟩ | ⟨hf, hl, hrun⟩ := gate_release_cases g p
    · refine .inr (.inl ⟨p, rfl, hf, ?_⟩)
      rw [change, Op.undoing_of_error (onDevice_of_eq hrun _)]
      simp only [hself]
    · refine .inr (.inr (.inl ⟨p, rfl, hf, hl, ?_⟩))
      rw [change, Op.undoing_of_error (onDevice_of_eq hrun _)]
      simp only [hself]
    · exact .inr (.inr (.inr ⟨p, rfl, hf, hl, Op.undoing_of_ok (onDevice_of_eq hrun _) _⟩))

/-! ## Taking a new allocation -/

/-- The gate after a fault has struck an allocation. -/
def spentAllocate (g : Gate MemoryDevice) : Gate MemoryDevice :=
  { g with inner := { g.inner with faults.allocate := false } }

/-- The gate after an allocation was made. -/
def afterAllocate (g : Gate MemoryDevice) (size : Nat) (usage : Usage) : Gate MemoryDevice :=
  { g with inner := g.inner.allocated size usage }

/-- The array on the new allocation `h`, with its old one pending. -/
def moved (a : SyncedArray c) (h : Handle) : SyncedArray c :=
  { ({ a with handle := some h, deviceCapacity := a.host.capacity } : SyncedArray c).markAll with
    pending := a.handle }

/-- What is reported about the move to a new allocation. -/
def movedEntry (a : SyncedArray c) : Log.Entry where
  severity := .debug
  source := source
  message := s!"Reallocated '{a.label}' on device: {a.deviceCapacity} -> {a.host.capacity} elements"

/-- An allocation behind a gate without limit meets a fault, breaks down, or is granted. -/
theorem gate_allocate_cases (hleft : g.allocatesLeft = none) (size : Nat) (usage : Usage) :
    (g.inner.faults.allocate = true ∧ Device.allocate size usage g =
      { outcome := .error (.device (allocateFault size))
        state := spentAllocate g
        log := [refusal (allocateFault size)] }) ∨
    (g.inner.faults.allocate = false ∧ regionLimit < size ∧ Device.allocate size usage g =
      { outcome := .trapped .regionTooLarge, state := g, log := [] }) ∨
    (g.inner.faults.allocate = false ∧ size ≤ regionLimit ∧ Device.allocate size usage g =
      { outcome := .ok g.inner.table.nextHandle
        state := afterAllocate g size usage
        log := [allocateEntry g.inner.table.nextHandle size usage] }) := by
  cases hf : g.inner.faults.allocate with
  | true =>
    exact .inl ⟨rfl, gate_allocate_of_eq hleft (MemoryDevice.allocate_of_fault hf size usage)⟩
  | false =>
    by_cases hsize : size ≤ regionLimit
    · exact .inr (.inr ⟨rfl, hsize,
        gate_allocate_of_eq hleft (MemoryDevice.allocate_of_le hf hsize usage)⟩)
    · exact .inr (.inl ⟨rfl, Nat.not_le.mp hsize,
        gate_allocate_of_eq hleft (MemoryDevice.allocate_of_gt hf (Nat.not_le.mp hsize) usage)⟩)

theorem syncAllocation_of_fits [Device D] (ho : a.outgrown = false) (d : D) :
    syncAllocation (a, d) = { outcome := .ok (), state := (a, d), log := [] } := by
  rw [syncAllocation, self_bind, if_neg (by rw [ho]; exact Bool.false_ne_true)]
  rfl

/-- The second stage of flush: the allocation is large enough, or there is no new one, or there is
one and the old one is given back as in the first stage. -/
theorem syncAllocation_cases (hleft : g.allocatesLeft = none) (a : SyncedArray c) :
    (a.outgrown = false ∧
      syncAllocation (a, g) = { outcome := .ok (), state := (a, g), log := [] }) ∨
    (a.outgrown = true ∧ g.inner.faults.allocate = true ∧ syncAllocation (a, g) =
      { outcome := .error (.device (allocateFault a.host.storage.length))
        state := (a, spentAllocate g)
        log := [refusal (allocateFault a.host.storage.length)] }) ∨
    (a.outgrown = true ∧ regionLimit < a.host.storage.length ∧ syncAllocation (a, g) =
      { outcome := .trapped .regionTooLarge, state := (a, g), log := [] }) ∨
    (a.outgrown = true ∧ g.inner.faults.allocate = false ∧
      a.host.storage.length ≤ regionLimit ∧
      syncAllocation (a, g) =
        (releasePending (a.moved g.inner.table.nextHandle,
          afterAllocate g a.host.storage.length a.usage)).after
            [allocateEntry g.inner.table.nextHandle a.host.storage.length a.usage,
              a.movedEntry]) := by
  cases ho : a.outgrown with
  | false => exact .inl ⟨rfl, syncAllocation_of_fits ho g⟩
  | true =>
    rw [syncAllocation, self_bind, if_pos ho]
    obtain ⟨hf, hrun⟩ | ⟨hf, hsize, hrun⟩ | ⟨hf, hsize, hrun⟩ :=
      gate_allocate_cases hleft a.host.storage.length a.usage
    · exact .inr (.inl ⟨rfl, hf, by rw [Op.bind_of_error (onDevice_of_eq hrun a)]⟩)
    · exact .inr (.inr (.inl ⟨rfl, hsize, by rw [Op.bind_of_trapped (onDevice_of_eq hrun a)]⟩))
    · refine .inr (.inr (.inr ⟨rfl, hf, hsize, ?_⟩))
      rw [Op.bind_of_ok (onDevice_of_eq hrun a), change_bind, Op.note_bind, change_bind,
        Run.after_after]
      rfl

/-! ## Uploading the marked elements -/

/-- The last stage of flush: the marked elements go to the allocation. -/
def uploadMarked [Device D] : Op (SyncedArray c × D) Unit := do
  let h ← liveHandle
  let a ← self
  change fun a => { a with marks := .clean }
  match a.marks.span with
  | none => pure ()
  | some s => uploadSpan h s

theorem flush_eq [Device D] :
    (flush : Op (SyncedArray c × D) Unit) = (do
      let _ ← liveHandle
      releasePending
      syncAllocation
      uploadMarked) := rfl

/-- The array without marks. -/
def unmarked (a : SyncedArray c) : SyncedArray c :=
  { a with marks := .clean }

/-- The gate after a fault has struck an upload. -/
def spentUpload (g : Gate MemoryDevice) : Gate MemoryDevice :=
  { g with inner := { g.inner with faults.upload := false } }

/-- The bytes of a span on the host. -/
def spanBytes (a : SyncedArray c) (s : Span) : Bytes :=
  Region.slice a.host.storage (s.first * c.size) ((s.last + 1) * c.size - s.first * c.size)

/-- The bytes of the span and of the allocation are counted by words, and those of the span lie
inside the allocation and the storage. -/
structure SpanFits (a : SyncedArray c) (s : Span) : Prop where
  /-- The position behind the span and its place are machine words. -/
  word : s.last + 1 < wordLimit ∧ (s.last + 1) * c.size < wordLimit
  /-- The size of the allocation is a machine word. -/
  room : a.deviceCapacity * c.size < wordLimit
  /-- The span ends inside the allocation and inside the storage. -/
  inside : (s.last + 1) * c.size ≤ a.deviceCapacity * c.size ∧
    (s.last + 1) * c.size ≤ a.host.storage.length

/-- The gate after the bytes of a span were copied into the allocation `al` of `h`. -/
def afterUpload (a : SyncedArray c) (g : Gate MemoryDevice) (h : Handle) (al : Allocation)
    (s : Span) : Gate MemoryDevice :=
  { g with inner := g.inner.uploaded h al (s.first * c.size) (a.spanBytes s) }

theorem set_marks_self {s : Span} (hs : a.marks.span = some s) :
    { a.unmarked with marks := a.unmarked.marks.mark s } = a := by
  have hmarks : a.marks = { span := some s } := by
    cases hm : a.marks
    rw [hm] at hs
    cases hs
    rfl
  rw [unmarked, Marks.mark, Marks.clean]
  simp only [← hmarks]

theorem uploadMarked_of_clean [Device D] (hh : a.handle = some h) (hs : a.marks.span = none)
    (d : D) : uploadMarked (a, d) = { outcome := .ok (), state := (a, d), log := [] } := by
  have hmarks : a.marks = .clean := by
    cases hm : a.marks
    rw [hm] at hs
    cases hs
    rfl
  have hself : ({ a with marks := .clean } : SyncedArray c) = a := by rw [← hmarks]
  rw [uploadMarked, Op.bind_of_ok (liveHandle_of_some hh d), self_bind, change_bind, hs, hself]
  rfl

/-- What is reported about an upload. -/
def uploadEntry (a : SyncedArray c) (s : Span) : Log.Entry where
  severity := .trace
  source := source
  message := s!"Flushed '{a.label}': elements [{s.first}, {s.last}] -> " ++
    s!"bytes [{s.first * c.size}, {(s.last + 1) * c.size})"

theorem uploadMarked_of_marked [Device D] {s : Span} (hh : a.handle = some h)
    (hs : a.marks.span = some s) (d : D) :
    uploadMarked (a, d) = uploadSpan h s (a.unmarked, d) := by
  rw [uploadMarked, Op.bind_of_ok (liveHandle_of_some hh d), self_bind, change_bind, hs]
  rfl

theorem uploadSpan_of_not_fits [Device D] {s : Span} (hfits : ¬ a.SpanFits s) (h : Handle)
    (d : D) :
    ∃ t, uploadSpan h s (a.unmarked, d) =
      { outcome := .trapped t, state := (a.unmarked, d), log := [] } := by
  rw [uploadSpan, self_bind, Span.byteBounds]
  split
  next hword =>
    rw [Op.ofOutcome_bind]
    by_cases hroom : a.unmarked.deviceCapacity * c.size < wordLimit
    · have houtside : ¬ ((s.last + 1) * c.size ≤ a.deviceCapacity * c.size ∧
          (s.last + 1) * c.size ≤ a.host.storage.length) :=
        fun hinside => hfits ⟨hword, hroom, hinside⟩
      refine ⟨.outsideRegion, ?_⟩
      rw [Op.word_bind_of_lt hroom]
      exact congrFun (if_neg houtside) _
    · refine ⟨.overflow, ?_⟩
      rw [Op.word_bind_of_ge (Nat.not_lt.mp hroom)]
      rfl
  next => exact ⟨.overflow, rfl⟩

/-- The upload of a span that fits ends as the request to the device ends; if that is refused, the
marks are put back. -/
theorem uploadSpan_of_fits [Device D] {s : Span} (hs : a.marks.span = some s)
    (hfits : a.SpanFits s) (h : Handle) (d : D) :
    (∀ e d' l, Device.upload h (s.first * c.size) (a.spanBytes s) d =
        { outcome := .error e, state := d', log := l } →
      uploadSpan h s (a.unmarked, d) =
        { outcome := .error e, state := (a, d'), log := l }) ∧
    (∀ d' l, Device.upload h (s.first * c.size) (a.spanBytes s) d =
        { outcome := .ok (), state := d', log := l } →
      uploadSpan h s (a.unmarked, d) =
        { outcome := .ok ()
          state := (a.unmarked, d')
          log := l ++ [a.uploadEntry s] }) := by
  have hstart : uploadSpan h s (a.unmarked, d) =
      ((onDevice (Device.upload h (s.first * c.size) (a.spanBytes s))).undoing
        (change fun a => { a with marks := a.marks.mark s }) >>= fun _ =>
          Op.report (a.uploadEntry s)) (a.unmarked, d) := by
    have hroom : a.unmarked.deviceCapacity * c.size < wordLimit := hfits.room
    rw [uploadSpan, self_bind, Span.byteBounds, if_pos hfits.word, Op.ofOutcome_bind,
      Op.word_bind_of_lt hroom]
    exact congrFun (if_pos hfits.inside) _
  rw [hstart]
  constructor
  · intro e d' l hrun
    have hdevice := onDevice_of_eq hrun a.unmarked
    rw [Op.bind_of_error (by rw [change, Op.undoing_of_error hdevice])]
    simp only [set_marks_self hs]
  · intro d' l hrun
    have hdevice := onDevice_of_eq hrun a.unmarked
    rw [Op.bind_of_ok (Op.undoing_of_ok hdevice _)]
    rfl

/-- The last stage of flush: nothing is marked, or the span leaves its bounds, or the upload is
refused and the marks stay, or the bytes of the span are on the device and the marks are gone. -/
theorem uploadMarked_cases (hh : a.handle = some h) (g : Gate MemoryDevice) :
    (a.marks.span = none ∧
      uploadMarked (a, g) = { outcome := .ok (), state := (a, g), log := [] }) ∨
    (∃ s, a.marks.span = some s ∧ ¬ a.SpanFits s ∧ ∃ t, uploadMarked (a, g) =
      { outcome := .trapped t, state := (a.unmarked, g), log := [] }) ∨
    (∃ s, a.marks.span = some s ∧ a.SpanFits s ∧ g.inner.faults.upload = true ∧
      uploadMarked (a, g) =
        { outcome := .error (.device (uploadFault h (a.spanBytes s)))
          state := (a, spentUpload g)
          log := [refusal (uploadFault h (a.spanBytes s))] }) ∨
    (∃ s, a.marks.span = some s ∧ a.SpanFits s ∧ g.inner.faults.upload = false ∧
      ∃ reason, MemoryDevice.StrayUpload reason ∧
        MemoryDevice.upload h (s.first * c.size) (a.spanBytes s) g.inner =
          MemoryDevice.refuse reason g.inner ∧
        uploadMarked (a, g) =
          { outcome := .error (.device reason), state := (a, g), log := [refusal reason] }) ∨
    (∃ s, a.marks.span = some s ∧ a.SpanFits s ∧ g.inner.faults.upload = false ∧
      ∃ al, g.inner.table.find? h = some al ∧ uploadMarked (a, g) =
        { outcome := .ok ()
          state := (a.unmarked, a.afterUpload g h al s)
          log := [a.uploadEntry s] }) := by
  cases hs : a.marks.span with
  | none => exact .inl ⟨rfl, uploadMarked_of_clean hh hs g⟩
  | some s =>
    rw [uploadMarked_of_marked hh hs]
    by_cases hfits : a.SpanFits s
    · obtain ⟨hrefused, hgranted⟩ := uploadSpan_of_fits hs hfits h g
      cases hf : g.inner.faults.upload with
      | true =>
        exact .inr (.inr (.inl ⟨s, rfl, hfits, rfl,
          hrefused _ _ _ (gate_upload_of_eq (MemoryDevice.upload_of_fault hf _ _ _))⟩))
      | false =>
        obtain ⟨reason, hstray, hrun⟩ | ⟨al, hal, -, hrun⟩ :=
          MemoryDevice.upload_cases hf h (s.first * c.size) (a.spanBytes s)
        · exact .inr (.inr (.inr (.inl ⟨s, rfl, hfits, rfl, reason, hstray, hrun,
            hrefused _ _ _ (gate_upload_of_eq hrun)⟩)))
        · exact .inr (.inr (.inr (.inr ⟨s, rfl, hfits, rfl, al, hal,
            hgranted _ _ (gate_upload_of_eq hrun)⟩)))
    · exact .inr (.inl ⟨s, rfl, hfits, uploadSpan_of_not_fits hfits h g⟩)

/-! ## Binding -/

/-- The part of bind behind the flush: the allocation becomes the active one. -/
def bindCurrent [Device D] : Op (SyncedArray c × D) Unit := do
  let h ← liveHandle
  onDevice (Device.bind h)
  let a ← self
  Op.note .trace source (s!"Bound '{a.label}' (" ++ h.term ++ ")")

/-- Nothing is left for a flush to do. -/
structure Settled (a : SyncedArray c) : Prop where
  /-- No replaced allocation is left. -/
  pending : a.pending = none
  /-- The allocation is large enough. -/
  outgrown : a.outgrown = false
  /-- The device has seen all elements. -/
  span : a.marks.span = none

/-- If nothing is pending and the allocation is large enough, only the last stage does something. -/
theorem flush_of_fits [Device D] (hh : a.handle = some h) (hp : a.pending = none)
    (ho : a.outgrown = false) (d : D) : flush (a, d) = uploadMarked (a, d) := by
  rw [flush_eq, Op.bind_of_ok (liveHandle_of_some hh d),
    Op.bind_of_ok (releasePending_of_none hp d), Op.bind_of_ok (syncAllocation_of_fits ho d)]
  rfl

theorem flush_of_settled [Device D] (hh : a.handle = some h) (ha : a.Settled) (d : D) :
    flush (a, d) = { outcome := .ok (), state := (a, d), log := [] } := by
  rw [flush_of_fits hh ha.pending ha.outgrown, uploadMarked_of_clean hh ha.span d]

theorem bind_of_none [Device D] (hh : a.handle = none) (d : D) :
    SyncedArray.bind (a, d) = Op.raise source (.useAfterDispose a.label) (a, d) := by
  rw [SyncedArray.bind, Op.bind_of_error (liveHandle_of_none hh d)]
  rfl

/-- A bind that skips the flush could as well have made it. -/
theorem bind_of_some [Device D] (hh : a.handle = some h) (d : D) :
    SyncedArray.bind (a, d) = (flush >>= fun _ => bindCurrent) (a, d) := by
  rw [SyncedArray.bind, Op.bind_of_ok (liveHandle_of_some hh d), self_bind]
  by_cases hneeded : (a.marks.isDirty || a.outgrown || a.pending.isSome) = true
  · rw [if_pos hneeded]
    rfl
  · have ha : a.Settled := by
      simp only [Bool.not_eq_true, Bool.or_eq_false_iff, Marks.isDirty, Option.isSome_eq_false_iff,
        Option.isNone_iff_eq_none] at hneeded
      exact ⟨hneeded.2, hneeded.1.2, hneeded.1.1⟩
    rw [if_neg hneeded, Op.bind_of_ok (flush_of_settled hh ha d)]
    rfl

/-- What the gate says when it turns a binding away. -/
def bindTurnedAway : String := "bind refused"

/-- What is reported about a binding. -/
def bindEntry (a : SyncedArray c) (h : Handle) : Log.Entry where
  severity := .trace
  source := source
  message := s!"Bound '{a.label}' (" ++ h.term ++ ")"

/-- The gate after a binding. -/
def afterBind (g : Gate MemoryDevice) (h : Handle) : Gate MemoryDevice :=
  { g with inner := g.inner.boundTo h }

/-- The gate turns the binding away, or the device does not know the handle, or it is bound. -/
theorem bindCurrent_cases (hh : a.handle = some h) (g : Gate MemoryDevice) :
    (g.refuseBind = true ∧ bindCurrent (a, g) =
      { outcome := .error (.device bindTurnedAway)
        state := (a, { g with refuseBind := false })
        log := [] }) ∨
    (g.refuseBind = false ∧ ¬ g.Live h ∧ bindCurrent (a, g) =
      { outcome := .error (.device (bindUnknown h))
        state := (a, g)
        log := [refusal (bindUnknown h)] }) ∨
    (g.refuseBind = false ∧ g.Live h ∧ bindCurrent (a, g) =
      { outcome := .ok (), state := (a, afterBind g h), log := [a.bindEntry h] }) := by
  have hgate : (Device.bind h : Op (Gate MemoryDevice) Unit) = Gate.bind h := rfl
  rw [bindCurrent, Op.bind_of_ok (liveHandle_of_some hh g), hgate]
  cases hr : g.refuseBind with
  | true =>
    have hrun : Gate.bind h g =
        { outcome := .error (.device bindTurnedAway)
          state := { g with refuseBind := false }
          log := [] } := by
      rw [Gate.bind, Op.state_bind, if_pos hr]
      rfl
    exact .inl ⟨rfl, by rw [Op.bind_of_error (onDevice_of_eq hrun a)]; rfl⟩
  | false =>
    have hpass : Gate.bind h g = Gate.pass (MemoryDevice.bind h) g := by
      rw [Gate.bind, Op.state_bind, if_neg (by rw [hr]; exact Bool.false_ne_true)]
      rfl
    cases hk : g.inner.table.contains h with
    | true =>
      have hrun : Gate.bind h g = { outcome := .ok (), state := afterBind g h, log := [] } := by
        rw [hpass, Gate.pass, Op.focus_apply, MemoryDevice.bind_of_known hk]
        rfl
      exact .inr (.inr ⟨rfl, hk, by rw [Op.bind_of_ok (onDevice_of_eq hrun a)]; rfl⟩)
    | false =>
      have hrun : Gate.bind h g =
          { outcome := .error (.device (bindUnknown h))
            state := g
            log := [refusal (bindUnknown h)] } := by
        rw [hpass, Gate.pass, Op.focus_apply, MemoryDevice.bind_of_unknown hk]
        rfl
      refine .inr (.inl ⟨rfl, ?_, ?_⟩)
      · rw [Gate.Live, hk]
        exact Bool.false_ne_true
      · rw [Op.bind_of_error (onDevice_of_eq hrun a)]
        rfl

/-- What the gate says when it turns an unbinding away. -/
def unbindTurnedAway : String := "unbind refused"

/-- The gate after an unbinding. -/
def afterUnbind (g : Gate MemoryDevice) (usage : Usage) : Gate MemoryDevice :=
  { g with inner := g.inner.unboundFrom usage }

/-- What is reported about an unbinding. -/
def unbindEntry (a : SyncedArray c) : Log.Entry where
  severity := .trace
  source := source
  message := s!"Unbound " ++ a.usage.name ++ s!" ('{a.label}')"

/-- The gate turns the unbinding away, or it is done. -/
theorem unbind_cases (hh : a.handle = some h) (g : Gate MemoryDevice) :
    (g.refuseUnbind = true ∧ unbind (a, g) =
      { outcome := .error (.device unbindTurnedAway)
        state := (a, { g with refuseUnbind := false })
        log := [] }) ∨
    (g.refuseUnbind = false ∧ unbind (a, g) =
      { outcome := .ok (), state := (a, afterUnbind g a.usage), log := [a.unbindEntry] }) := by
  have hgate : (Device.unbind a.usage : Op (Gate MemoryDevice) Unit) = Gate.unbind a.usage := rfl
  rw [unbind, Op.bind_of_ok (liveHandle_of_some hh g), self_bind, hgate]
  cases hr : g.refuseUnbind with
  | true =>
    have hrun : Gate.unbind a.usage g =
        { outcome := .error (.device unbindTurnedAway)
          state := { g with refuseUnbind := false }
          log := [] } := by
      rw [Gate.unbind, Op.state_bind, if_pos hr]
      rfl
    exact .inl ⟨rfl, by rw [Op.bind_of_error (onDevice_of_eq hrun a)]; rfl⟩
  | false =>
    have hrun : Gate.unbind a.usage g =
        { outcome := .ok (), state := afterUnbind g a.usage, log := [] } := by
      rw [Gate.unbind, Op.state_bind, if_neg (by rw [hr]; exact Bool.false_ne_true)]
      rfl
    exact .inr ⟨rfl, by rw [Op.bind_of_ok (onDevice_of_eq hrun a)]; rfl⟩

/-! ## Disposal -/

/-- The last stage of dispose: the allocation is given back. -/
def releaseHandle [Device D] : Op (SyncedArray c × D) Unit := do
  let a ← self
  match a.handle with
  | none => pure ()
  | some h =>
    change fun a => { a with handle := none }
    (onDevice (Device.release h)).undoing (change fun a => { a with handle := some h })
    Op.note .debug source s!"Disposed '{a.label}'"

theorem dispose_eq [Device D] :
    (dispose : Op (SyncedArray c × D) Unit) = (do
      releasePending
      releaseHandle) := rfl

/-- What is reported about a disposal. -/
def disposeEntry (a : SyncedArray c) : Log.Entry where
  severity := .debug
  source := source
  message := s!"Disposed '{a.label}'"

theorem releaseHandle_of_some [Device D] (hh : a.handle = some h) (d : D) :
    releaseHandle (a, d) =
      ((onDevice (Device.release h)).undoing (change fun a => { a with handle := some h }) >>=
        fun _ => Op.report a.disposeEntry) ({ a with handle := none }, d) := by
  rw [releaseHandle, self_bind, hh]
  rfl

theorem releaseHandle_cases (a : SyncedArray c) (g : Gate MemoryDevice) :
    (a.handle = none ∧
      releaseHandle (a, g) = { outcome := .ok (), state := (a, g), log := [] }) ∨
    (∃ h, a.handle = some h ∧ g.inner.faults.release = true ∧ releaseHandle (a, g) =
      { outcome := .error (.device (releaseFault h))
        state := (a, spentRelease g)
        log := [refusal (releaseFault h)] }) ∨
    (∃ h, a.handle = some h ∧ g.inner.faults.release = false ∧ ¬ g.Live h ∧ releaseHandle (a, g) =
      { outcome := .error (.device (releaseUnknown h))
        state := (a, g)
        log := [refusal (releaseUnknown h)] }) ∨
    (∃ h, a.handle = some h ∧ g.inner.faults.release = false ∧ g.Live h ∧ releaseHandle (a, g) =
      { outcome := .ok ()
        state := ({ a with handle := none }, afterRelease g h)
        log := [releaseEntry h, a.disposeEntry] }) := by
  cases hh : a.handle with
  | none =>
    refine .inl ⟨rfl, ?_⟩
    rw [releaseHandle, self_bind, hh]
    rfl
  | some h =>
    have hself := set_handle_self hh
    rw [releaseHandle_of_some hh]
    obtain ⟨hf, hrun⟩ | ⟨hf, hl, hrun⟩ | ⟨hf, hl, hrun⟩ := gate_release_cases g h
    · refine .inr (.inl ⟨h, rfl, hf, ?_⟩)
      rw [Op.bind_of_error (by rw [change, Op.undoing_of_error (onDevice_of_eq hrun _)])]
      simp only [hself]
    · refine .inr (.inr (.inl ⟨h, rfl, hf, hl, ?_⟩))
      rw [Op.bind_of_error (by rw [change, Op.undoing_of_error (onDevice_of_eq hrun _)])]
      simp only [hself]
    · refine .inr (.inr (.inr ⟨h, rfl, hf, hl, ?_⟩))
      rw [Op.bind_of_ok (Op.undoing_of_ok (onDevice_of_eq hrun _) _)]
      rfl

/-! ## The end of an array -/

/-- The first stage of drop: a pending allocation is given back; a refusal is only reported. -/
def dropPending [Device D] (a : SyncedArray c) : Op (SyncedArray c × D) Unit :=
  releasePending.handle fun e =>
    Op.note .warn source
      (s!"Buffer '{a.label}' dropped with an unreleased replaced allocation: " ++ e.message)

/-- The last stage of drop: the allocation is given back; a refusal is only reported. -/
def dropHandle [Device D] (a : SyncedArray c) : Op (SyncedArray c × D) Unit :=
  match a.handle with
  | none => pure ()
  | some h => do
    change fun a => { a with handle := none }
    (onDevice (Device.release h)).handle fun e =>
      Op.note .warn source
        (s!"Buffer '{a.label}' dropped without dispose(), release failed: " ++ e.message)

theorem drop_eq [Device D] (a : SyncedArray c) (d : D) :
    drop (a, d) = (dropPending a >>= fun _ => dropHandle a) (a, d) := rfl

/-- What drop reports about a refused release. -/
def dropEntry (text : String) (e : Error) : Log.Entry where
  severity := .warn
  source := source
  message := text ++ e.message

theorem dropPending_cases (a : SyncedArray c) (g : Gate MemoryDevice) :
    (a.pending = none ∧
      dropPending a (a, g) = { outcome := .ok (), state := (a, g), log := [] }) ∨
    (∃ p, a.pending = some p ∧ g.inner.faults.release = true ∧ ∃ text, dropPending a (a, g) =
      { outcome := .ok ()
        state := (a, spentRelease g)
        log := [refusal (releaseFault p), dropEntry text (.device (releaseFault p))] }) ∨
    (∃ p, a.pending = some p ∧ g.inner.faults.release = false ∧ ¬ g.Live p ∧
      ∃ text, dropPending a (a, g) =
        { outcome := .ok ()
          state := (a, g)
          log := [refusal (releaseUnknown p), dropEntry text (.device (releaseUnknown p))] }) ∨
    (∃ p, a.pending = some p ∧ g.inner.faults.release = false ∧ g.Live p ∧ dropPending a (a, g) =
      { outcome := .ok ()
        state := ({ a with pending := none }, afterRelease g p)
        log := [releaseEntry p] }) := by
  obtain ⟨hp, hrun⟩ | ⟨p, hp, hf, hrun⟩ | ⟨p, hp, hf, hl, hrun⟩ | ⟨p, hp, hf, hl, hrun⟩ :=
    releasePending_cases a g
  · exact .inl ⟨hp, Op.handle_of_ok hrun _⟩
  · exact .inr (.inl ⟨p, hp, hf, _, Op.handle_of_error hrun _⟩)
  · exact .inr (.inr (.inl ⟨p, hp, hf, hl, _, Op.handle_of_error hrun _⟩))
  · exact .inr (.inr (.inr ⟨p, hp, hf, hl, Op.handle_of_ok hrun _⟩))

theorem dropHandle_cases (a b : SyncedArray c) (g : Gate MemoryDevice) :
    (a.handle = none ∧
      dropHandle a (b, g) = { outcome := .ok (), state := (b, g), log := [] }) ∨
    (∃ h, a.handle = some h ∧ g.inner.faults.release = true ∧ ∃ text, dropHandle a (b, g) =
      { outcome := .ok ()
        state := ({ b with handle := none }, spentRelease g)
        log := [refusal (releaseFault h), dropEntry text (.device (releaseFault h))] }) ∨
    (∃ h, a.handle = some h ∧ g.inner.faults.release = false ∧ ¬ g.Live h ∧
      ∃ text, dropHandle a (b, g) =
        { outcome := .ok ()
          state := ({ b with handle := none }, g)
          log := [refusal (releaseUnknown h), dropEntry text (.device (releaseUnknown h))] }) ∨
    (∃ h, a.handle = some h ∧ g.inner.faults.release = false ∧ g.Live h ∧ dropHandle a (b, g) =
      { outcome := .ok ()
        state := ({ b with handle := none }, afterRelease g h)
        log := [releaseEntry h] }) := by
  rw [dropHandle]
  cases hh : a.handle with
  | none => exact .inl ⟨rfl, rfl⟩
  | some h =>
    simp only [change_bind]
    obtain ⟨hf, hrun⟩ | ⟨hf, hl, hrun⟩ | ⟨hf, hl, hrun⟩ := gate_release_cases g h
    · exact .inr (.inl ⟨h, rfl, hf, _, Op.handle_of_error (onDevice_of_eq hrun _) _⟩)
    · exact .inr (.inr (.inl ⟨h, rfl, hf, hl, _, Op.handle_of_error (onDevice_of_eq hrun _) _⟩))
    · exact .inr (.inr (.inr ⟨h, rfl, hf, hl, Op.handle_of_ok (onDevice_of_eq hrun _) _⟩))

end BufferSync.SyncedArray
