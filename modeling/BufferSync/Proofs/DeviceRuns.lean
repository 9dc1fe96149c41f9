import BufferSync.Device.Gate
import BufferSync.Device.Memory
import BufferSync.Proofs.Handles
import BufferSync.Proofs.Runs

/-!
# What the requests to a device do

Each request to the device in memory either is refused, and then only a fault that it used up is
gone, or it has one effect: `allocated`, `uploaded`, `boundTo`, `unboundFrom` or `released`.  A gate
passes requests on, apart from those that it turns away.

`Chronicle` says what the events on the way from one device to another tell about the allocations:
which ones are new, which ones are gone, and that no other one was touched.  `Recorded` adds that
the events are the new records of the device.  Both can be put one behind the other, so whatever is
made of requests has them.
-/

namespace BufferSync

namespace MemoryDevice

variable {d : MemoryDevice} {h : Handle}

/-! ## Effects of granted requests -/

/-- The device with one more allocation. -/
def allocated (d : MemoryDevice) (size : Nat) (usage : Usage) : MemoryDevice :=
  { d with table := d.table.insert { bytes := Region.zeros size, usage } }.record
    (.allocated d.table.nextHandle size)

/-- The device with bytes copied into the allocation `a`, which is the one of `h`. -/
def uploaded (d : MemoryDevice) (h : Handle) (a : Allocation) (offset : Nat) (bytes : Bytes) :
    MemoryDevice :=
  { d with
    table := d.table.replace h { a with bytes := Region.overwrite a.bytes offset bytes } }.record
    (.uploaded h offset bytes.length)

/-- The device with another active allocation. -/
def boundTo (d : MemoryDevice) (h : Handle) : MemoryDevice :=
  { d with bound := some h }.record (.bound h)

/-- The device without an active allocation of the usage. -/
def unboundFrom (d : MemoryDevice) (usage : Usage) : MemoryDevice :=
  { d with bound := if d.bound.bind d.usage? = some usage then none else d.bound }.record
    (.unbound usage)

/-- The device without an allocation. -/
def released (d : MemoryDevice) (h : Handle) : MemoryDevice :=
  { d with
    table := d.table.erase h
    bound := if d.bound = some h then none else d.bound }.record (.released h)

@[simp] theorem events_allocated (d : MemoryDevice) (size : Nat) (usage : Usage) :
    (d.allocated size usage).events = d.events ++ [.allocated d.table.nextHandle size] :=
  events_record _ _

@[simp] theorem events_uploaded (d : MemoryDevice) (h : Handle) (a : Allocation) (offset : Nat)
    (bytes : Bytes) :
    (d.uploaded h a offset bytes).events = d.events ++ [.uploaded h offset bytes.length] :=
  events_record _ _

@[simp] theorem events_boundTo (d : MemoryDevice) (h : Handle) :
    (d.boundTo h).events = d.events ++ [.bound h] :=
  events_record _ _

@[simp] theorem events_released (d : MemoryDevice) (h : Handle) :
    (d.released h).events = d.events ++ [.released h] :=
  events_record _ _

/-! What is under the handles, and how many there are. -/

theorem find?_allocated (hd : d.table.Sound) (size : Nat) (usage : Usage) (k : Handle) :
    (d.allocated size usage).table.find? k =
      if k = d.table.nextHandle then some { bytes := Region.zeros size, usage }
      else d.table.find? k :=
  HandleTable.find?_insert hd _ k

theorem find?_uploaded {a : Allocation} (ha : d.table.find? h = some a) (offset : Nat)
    (bytes : Bytes) (k : Handle) :
    (d.uploaded h a offset bytes).table.find? k =
      if k = h then some { a with bytes := Region.overwrite a.bytes offset bytes }
      else d.table.find? k :=
  HandleTable.find?_replace ha _ k

theorem find?_released {a : Allocation} (ha : d.table.find? h = some a) (k : Handle) :
    (d.released h).table.find? k = if k = h then none else d.table.find? k :=
  HandleTable.find?_erase ha k

theorem liveAllocations_allocated (hd : d.table.Sound) (size : Nat) (usage : Usage) :
    (d.allocated size usage).liveAllocations = d.liveAllocations + 1 :=
  HandleTable.size_insert hd _

theorem liveAllocations_uploaded {a : Allocation} (ha : d.table.find? h = some a) (offset : Nat)
    (bytes : Bytes) : (d.uploaded h a offset bytes).liveAllocations = d.liveAllocations :=
  HandleTable.size_replace ha _

theorem liveAllocations_released {a : Allocation} (ha : d.table.find? h = some a) :
    (d.released h).liveAllocations + 1 = d.liveAllocations :=
  HandleTable.size_erase ha

/-- What is reported about a refused request. -/
def refusal (reason : String) : Log.Entry where
  severity := .error
  source := source
  message := reason
  located := true

/-- What is reported about a new allocation. -/
def allocateEntry (h : Handle) (size : Nat) (usage : Usage) : Log.Entry where
  severity := .trace
  source := source
  message := "Allocated " ++ h.term ++ s!": {size} bytes (" ++ usage.name ++ ")"

/-- What is reported about a release. -/
def releaseEntry (h : Handle) : Log.Entry where
  severity := .trace
  source := source
  message := "Released " ++ h.term

/-! ## Runs of requests -/

/-- What the device says when a fault strikes an allocation. -/
def allocateFault (size : Nat) : String := s!"Injected failure allocating {size} bytes"

/-- What the device says when a fault strikes an upload. -/
def uploadFault (h : Handle) (bytes : Bytes) : String :=
  s!"Injected failure uploading {bytes.length} bytes to " ++ h.term

/-- What the device says when a fault strikes a release. -/
def releaseFault (h : Handle) : String := "Injected failure releasing " ++ h.term

/-- What the device says about a release of a handle that it does not know. -/
def releaseUnknown (h : Handle) : String :=
  "Release of unknown or already released allocation " ++ h.term

/-- What the device says about a binding of a handle that it does not know. -/
def bindUnknown (h : Handle) : String := "Bind of unknown or released allocation " ++ h.term

/-- What the device says about an upload that meets no fault and is refused. -/
inductive StrayUpload : String → Prop
  /-- The handle is not known. -/
  | unknown (h : Handle) : StrayUpload ("Upload to unknown or released allocation " ++ h.term)
  /-- The bytes leave the address range. -/
  | overflow (length offset : Nat) :
      StrayUpload s!"Upload of {length} bytes at offset {offset} overflows the address range"
  /-- The bytes leave the allocation. -/
  | outside (h : Handle) (length offset size : Nat) :
      StrayUpload (s!"Upload of {length} bytes at offset {offset} exceeds allocation " ++ h.term ++
        s!" of {size} bytes")

/-- The entry says that a release was refused because the handle is not known. -/
def UnknownRelease (e : Log.Entry) : Prop :=
  ∃ h, e = refusal (releaseUnknown h)

/-! The reasons differ from one another by their first letter. -/

theorem head?_append {text : String} {first : Char} (h : text.toList.head? = some first)
    (more : String) : (text ++ more).toList.head? = some first := by
  rw [String.toList_append, List.head?_append, h]
  rfl

theorem head?_releaseFault (h : Handle) : (releaseFault h).toList.head? = some 'I' :=
  head?_append (by decide) _

theorem head?_allocateFault (size : Nat) : (allocateFault size).toList.head? = some 'I' := by
  iterate 2 apply head?_append
  decide

theorem head?_uploadFault (h : Handle) (bytes : Bytes) :
    (uploadFault h bytes).toList.head? = some 'I' := by
  iterate 3 apply head?_append
  decide

theorem StrayUpload.head? {reason : String} (h : StrayUpload reason) :
    reason.toList.head? = some 'U' := by
  cases h with
  | unknown h => exact head?_append (by decide) _
  | overflow length offset =>
    iterate 4 apply head?_append
    decide
  | outside h length offset size =>
    iterate 6 apply head?_append
    decide

theorem not_unknownRelease_refusal {reason : String} (first : Char)
    (h : reason.toList.head? = some first) (hne : first ≠ 'R') :
    ¬ UnknownRelease (refusal reason) := by
  rintro ⟨k, heq⟩
  have hreason : reason = releaseUnknown k := congrArg Log.Entry.message heq
  have hR : (releaseUnknown k).toList.head? = some 'R' := head?_append (by decide) _
  rw [hreason, hR] at h
  exact hne (Option.some.inj h).symm

theorem not_unknownRelease_releaseFault (h : Handle) :
    ¬ UnknownRelease (refusal (releaseFault h)) :=
  not_unknownRelease_refusal 'I' (head?_releaseFault h) (by decide)

theorem not_unknownRelease_allocateFault (size : Nat) :
    ¬ UnknownRelease (refusal (allocateFault size)) :=
  not_unknownRelease_refusal 'I' (head?_allocateFault size) (by decide)

theorem not_unknownRelease_uploadFault (h : Handle) (bytes : Bytes) :
    ¬ UnknownRelease (refusal (uploadFault h bytes)) :=
  not_unknownRelease_refusal 'I' (head?_uploadFault h bytes) (by decide)

theorem not_unknownRelease_bindUnknown (h : Handle) : ¬ UnknownRelease (refusal (bindUnknown h)) :=
  not_unknownRelease_refusal 'B' (head?_append (by decide) _) (by decide)

/-- An entry of another component, or about something less than an error, is no refusal. -/
theorem not_unknownRelease_of_ne {e : Log.Entry} (h : e.source ≠ source ∨ e.severity ≠ .error) :
    ¬ UnknownRelease e := by
  rintro ⟨k, rfl⟩
  rcases h with h | h
  · exact h rfl
  · exact h rfl

theorem allocate_of_fault (hf : d.faults.allocate = true) (size : Nat) (usage : Usage) :
    allocate size usage d =
      refuse (allocateFault size) { d with faults.allocate := false } := by
  rw [allocate, Op.state_bind, if_pos hf, Op.update_bind]
  rfl

theorem allocate_of_gt (hf : d.faults.allocate = false) {size : Nat} (hsize : regionLimit < size)
    (usage : Usage) :
    allocate size usage d = { outcome := .trapped .regionTooLarge, state := d, log := [] } := by
  rw [allocate, Op.state_bind, if_neg (by rw [hf]; exact Bool.false_ne_true),
    Op.roomFor_bind_of_gt hsize]
  rfl

theorem allocate_of_le (hf : d.faults.allocate = false) {size : Nat} (hsize : size ≤ regionLimit)
    (usage : Usage) :
    allocate size usage d =
      { outcome := .ok d.table.nextHandle
        state := d.allocated size usage
        log := [allocateEntry d.table.nextHandle size usage] } := by
  rw [allocate, Op.state_bind, if_neg (by rw [hf]; exact Bool.false_ne_true),
    Op.roomFor_bind_of_le hsize]
  rfl

theorem upload_of_fault (hf : d.faults.upload = true) (h : Handle) (offset : Nat) (bytes : Bytes) :
    upload h offset bytes d =
      refuse (uploadFault h bytes) { d with faults.upload := false } := by
  rw [upload, Op.state_bind, if_pos hf, Op.update_bind]
  rfl

/-- An upload that meets no fault is refused without a trace or written. -/
theorem upload_cases (hf : d.faults.upload = false) (h : Handle) (offset : Nat) (bytes : Bytes) :
    (∃ reason, StrayUpload reason ∧ upload h offset bytes d = refuse reason d) ∨
      ∃ a, d.table.find? h = some a ∧
        (offset + bytes.length < wordLimit ∧ offset + bytes.length ≤ a.bytes.length) ∧
        upload h offset bytes d =
          { outcome := .ok (), state := d.uploaded h a offset bytes, log := [] } := by
  rw [upload, Op.state_bind, if_neg (by rw [hf]; exact Bool.false_ne_true)]
  cases ha : d.table.find? h with
  | none => exact .inl ⟨_, .unknown h, rfl⟩
  | some a =>
    simp only
    split
    · exact .inl ⟨_, .overflow _ _, rfl⟩
    next hword =>
      split
      · exact .inl ⟨_, .outside _ _ _ _, rfl⟩
      next hroom =>
        exact .inr ⟨a, rfl, ⟨Nat.not_le.mp hword, Nat.not_lt.mp hroom⟩, rfl⟩

/-- An upload inside a live allocation is written. -/
theorem upload_of_le (hf : d.faults.upload = false) {a : Allocation}
    (ha : d.table.find? h = some a) {offset : Nat} {bytes : Bytes}
    (hword : offset + bytes.length < wordLimit) (hroom : offset + bytes.length ≤ a.bytes.length) :
    upload h offset bytes d =
      { outcome := .ok (), state := d.uploaded h a offset bytes, log := [] } := by
  rw [upload, Op.state_bind, if_neg (by rw [hf]; exact Bool.false_ne_true), ha]
  simp only
  rw [if_neg (by omega), if_neg (by omega)]
  rfl

theorem bind_of_known (hk : d.table.contains h = true) :
    bind h d = { outcome := .ok (), state := d.boundTo h, log := [] } := by
  rw [bind, Op.state_bind, if_pos hk]
  rfl

theorem bind_of_unknown (hk : d.table.contains h = false) :
    bind h d = refuse (bindUnknown h) d := by
  rw [bind, Op.state_bind, if_neg (by rw [hk]; exact Bool.false_ne_true)]
  rfl

theorem unbind_eq (usage : Usage) (d : MemoryDevice) :
    unbind usage d = { outcome := .ok (), state := d.unboundFrom usage, log := [] } := rfl

theorem release_of_fault (hf : d.faults.release = true) (h : Handle) :
    release h d = refuse (releaseFault h) { d with faults.release := false } := by
  rw [release, Op.state_bind, if_pos hf, Op.update_bind]
  rfl

theorem release_of_unknown (hf : d.faults.release = false) (hk : d.table.contains h = false) :
    release h d = refuse (releaseUnknown h) d := by
  rw [release, Op.state_bind, if_neg (by rw [hf]; exact Bool.false_ne_true),
    if_neg (by rw [hk]; exact Bool.false_ne_true)]
  rfl

theorem release_of_known (hf : d.faults.release = false) (hk : d.table.contains h = true) :
    release h d =
      { outcome := .ok ()
        state := d.released h
        log := [releaseEntry h] } := by
  rw [release, Op.state_bind, if_neg (by rw [hf]; exact Bool.false_ne_true), if_pos hk]
  rfl

/-! ## Granted requests -/

/-- The device with no fault armed. -/
def disarmed (d : MemoryDevice) : MemoryDevice :=
  { d with faults := {} }

/-- The device grants a request: the answer, the record and the device afterwards. -/
inductive Granted (d : MemoryDevice) :
    Device.Request → Device.Answer → Device.Event → MemoryDevice → Prop
  /-- An allocation can be made. -/
  | allocate {size : Nat} (usage : Usage) (room : size ≤ regionLimit) :
      Granted d (.allocate size usage) (.handle d.table.nextHandle)
        (.allocated d.table.nextHandle size) (d.allocated size usage)
  /-- The bytes lie inside a live allocation. -/
  | upload {h : Handle} {a : Allocation} {offset : Nat} {bytes : Bytes}
      (known : d.table.find? h = some a)
      (room : offset + bytes.length < wordLimit ∧ offset + bytes.length ≤ a.bytes.length) :
      Granted d (.upload h offset bytes) .done (.uploaded h offset bytes.length)
        (d.uploaded h a offset bytes)
  /-- A live allocation becomes the active one. -/
  | bind {h : Handle} (known : d.table.contains h = true) :
      Granted d (.bind h) .done (.bound h) (d.boundTo h)
  /-- A usage can always be unbound. -/
  | unbind (usage : Usage) : Granted d (.unbind usage) .done (.unbound usage) (d.unboundFrom usage)
  /-- A live allocation is given back. -/
  | release {h : Handle} (known : d.table.contains h = true) :
      Granted d (.release h) .done (.released h) (d.released h)

/-- A request is done by its operation; only the answer gets another form. -/
theorem perform_of_eq {α : Type} {r : Device.Request} {x : Op MemoryDevice α}
    {answer : α → Device.Answer} (hr : Device.perform r = x >>= fun v => pure (answer v))
    {o : Outcome α} {d' : MemoryDevice} {l : List Log.Entry}
    (hx : x d = { outcome := o, state := d', log := l }) :
    Device.perform r d = { outcome := o.map answer, state := d', log := l } := by
  rw [hr, Op.map_apply, hx]

/-- The run of the request: granted, or refused with an error or, if no region can be that large, a
breakdown; a refusal uses up a fault at most. -/
inductive Served (d : MemoryDevice) (r : Device.Request) : Run MemoryDevice Device.Answer → Prop
  /-- The request is granted. -/
  | granted {answer : Device.Answer} {event : Device.Event} {d' : MemoryDevice}
      {l : List Log.Entry} (granted : Granted d r answer event d') :
      Served d r { outcome := .ok answer, state := d', log := l }
  /-- The request is refused. -/
  | refused {reason : String} {d' : MemoryDevice} {l : List Log.Entry}
      (same : d'.disarmed = d.disarmed) :
      Served d r { outcome := .error (.device reason), state := d', log := l }
  /-- The allocation is too large. -/
  | trapped {size : Nat} {usage : Usage} {l : List Log.Entry} (asked : r = .allocate size usage)
      (excess : regionLimit < size) :
      Served d r { outcome := .trapped .regionTooLarge, state := d, log := l }

theorem served (r : Device.Request) (d : MemoryDevice) : Served d r (Device.perform r d) := by
  cases r with
  | allocate size usage =>
    cases hf : d.faults.allocate with
    | true =>
      rw [perform_of_eq rfl (allocate_of_fault hf size usage)]
      exact .refused rfl
    | false =>
      by_cases hsize : size ≤ regionLimit
      · rw [perform_of_eq rfl (allocate_of_le hf hsize usage)]
        exact .granted (.allocate usage hsize)
      · rw [perform_of_eq rfl (allocate_of_gt hf (Nat.not_le.mp hsize) usage)]
        exact .trapped rfl (Nat.not_le.mp hsize)
  | upload h offset bytes =>
    cases hf : d.faults.upload with
    | true =>
      rw [perform_of_eq rfl (upload_of_fault hf h offset bytes)]
      exact .refused rfl
    | false =>
      obtain ⟨reason, -, hrun⟩ | ⟨a, ha, hroom, hrun⟩ := upload_cases hf h offset bytes
      · rw [perform_of_eq rfl hrun]
        exact .refused rfl
      · rw [perform_of_eq rfl hrun]
        exact .granted (.upload ha hroom)
  | bind h =>
    cases hk : d.table.contains h with
    | true =>
      rw [perform_of_eq rfl (bind_of_known hk)]
      exact .granted (.bind hk)
    | false =>
      rw [perform_of_eq rfl (bind_of_unknown hk)]
      exact .refused rfl
  | unbind usage =>
    rw [perform_of_eq rfl (unbind_eq usage d)]
    exact .granted (.unbind usage)
  | release h =>
    cases hf : d.faults.release with
    | true =>
      rw [perform_of_eq rfl (release_of_fault hf h)]
      exact .refused rfl
    | false =>
      cases hk : d.table.contains h with
      | true =>
        rw [perform_of_eq rfl (release_of_known hf hk)]
        exact .granted (.release hk)
      | false =>
        rw [perform_of_eq rfl (release_of_unknown hf hk)]
        exact .refused rfl

end MemoryDevice

/-! ## Events -/

namespace Device

/-- The handle of the allocation that the event made. -/
def Event.made? : Event → Option Handle
  | .allocated h _ => some h
  | _ => none

/-- The handle of the allocation that the event took away. -/
def Event.gone? : Event → Option Handle
  | .released h => some h
  | _ => none

/-- The handle that the event is about. -/
def Event.handle? : Event → Option Handle
  | .allocated h _ => some h
  | .uploaded h _ _ => some h
  | .bound h => some h
  | .unbound _ => none
  | .released h => some h

/-- The allocations made. -/
def made (events : List Event) : List Handle := events.filterMap Event.made?

/-- The allocations given back. -/
def gone (events : List Event) : List Handle := events.filterMap Event.gone?

/-- The handles that events are about. -/
def named (events : List Event) : List Handle := events.filterMap Event.handle?

@[simp] theorem made_nil : made [] = [] := rfl

@[simp] theorem gone_nil : gone [] = [] := rfl

@[simp] theorem made_append (es fs : List Event) : made (es ++ fs) = made es ++ made fs :=
  List.filterMap_append

@[simp] theorem gone_append (es fs : List Event) : gone (es ++ fs) = gone es ++ gone fs :=
  List.filterMap_append

@[simp] theorem named_append (es fs : List Event) : named (es ++ fs) = named es ++ named fs :=
  List.filterMap_append

theorem named_of_gone {es : List Event} {h : Handle} (hm : h ∈ gone es) : h ∈ named es := by
  obtain ⟨e, he, heq⟩ := List.mem_filterMap.mp hm
  refine List.mem_filterMap.mpr ⟨e, he, ?_⟩
  cases e with
  | allocated _ _ => cases heq
  | uploaded _ _ _ => cases heq
  | bound _ => cases heq
  | unbound _ => cases heq
  | released _ => exact heq

theorem named_of_made {es : List Event} {h : Handle} (hm : h ∈ made es) : h ∈ named es := by
  obtain ⟨e, he, heq⟩ := List.mem_filterMap.mp hm
  refine List.mem_filterMap.mpr ⟨e, he, ?_⟩
  cases e with
  | allocated _ _ => exact heq
  | uploaded _ _ _ => cases heq
  | bound _ => cases heq
  | unbound _ => cases heq
  | released _ => cases heq

end Device

open Device (made gone named)

/-! ## Chronicles -/

/-- The device behind a gate knows the handle. -/
def Gate.Live (g : Gate MemoryDevice) (h : Handle) : Prop :=
  g.inner.table.contains h = true

/-- What the events `new` tell about the way from `g` to `g'`. -/
structure Chronicle (g g' : Gate MemoryDevice) (new : List Device.Event) : Prop where
  /-- A gate that limits no allocations stays such a gate. -/
  unlimited : g.allocatesLeft = none → g'.allocatesLeft = none
  /-- The table stays sound. -/
  sound : g'.inner.table.Sound
  /-- Issued handles stay issued. -/
  issued : ∀ h, g.inner.table.Issued h → g'.inner.table.Issued h
  /-- New allocations have new handles. -/
  made_fresh : ∀ h ∈ made new, ¬ g.inner.table.Issued h
  /-- New allocations have different handles. -/
  made_nodup : (made new).Nodup
  /-- The handles of new allocations are issued. -/
  made_issued : ∀ h ∈ made new, g'.inner.table.Issued h
  /-- The live allocations are those from before and the new ones, less those given back. -/
  live : ∀ h, g'.Live h ↔ (g.Live h ∨ h ∈ made new) ∧ h ∉ gone new
  /-- Only live allocations are given back. -/
  gone_live : ∀ h ∈ gone new, g.Live h ∨ h ∈ made new
  /-- Nothing is given back twice. -/
  gone_nodup : (gone new).Nodup
  /-- An allocation that no event is about is as before. -/
  frame : ∀ h, g.inner.table.Issued h → h ∉ named new →
    g'.inner.table.find? h = g.inner.table.find? h

/-- A chronicle whose events are the new records. -/
structure Recorded (g g' : Gate MemoryDevice) (new : List Device.Event) : Prop
    extends Chronicle g g' new where
  /-- The events were recorded. -/
  events : g'.inner.events = g.inner.events ++ new

namespace Gate

theorem Live.issued {g : Gate MemoryDevice} {h : Handle} (hl : g.Live h) :
    g.inner.table.Issued h := by
  obtain ⟨b, hb⟩ := HandleTable.contains_iff.mp hl
  exact HandleTable.issued_of_find? hb

end Gate

namespace Chronicle

variable {g g' g'' : Gate MemoryDevice} {new later : List Device.Event}

/-- Requests that leave the table alone make nothing and give nothing back. -/
theorem of_table_eq (hg : g.inner.table.Sound) (htable : g'.inner.table = g.inner.table)
    (hleft : g'.allocatesLeft = g.allocatesLeft) (hmade : made new = []) (hgone : gone new = []) :
    Chronicle g g' new where
  unlimited hnone := hleft.trans hnone
  sound := htable ▸ hg
  issued h hi := htable ▸ hi
  made_fresh h hm := by rw [hmade] at hm; cases hm
  made_nodup := hmade ▸ List.nodup_nil
  made_issued h hm := by rw [hmade] at hm; cases hm
  live h := by
    rw [Gate.Live, Gate.Live, htable, hmade, hgone]
    simp
  gone_live h hm := by rw [hgone] at hm; cases hm
  gone_nodup := hgone ▸ List.nodup_nil
  frame h _ _ := by rw [htable]

theorem refl (hg : g.inner.table.Sound) : Chronicle g g [] :=
  of_table_eq hg rfl rfl rfl rfl

/-- A handle that was given back early is not made later. -/
theorem made_not_gone (h₁ : Chronicle g g' new) (h₂ : Chronicle g' g'' later) {h : Handle}
    (hm : h ∈ made later) : h ∉ gone new := by
  intro hgone
  apply h₂.made_fresh h hm
  rcases h₁.gone_live h hgone with hlive | hmade
  · exact h₁.issued h hlive.issued
  · exact h₁.made_issued h hmade

theorem trans (h₁ : Chronicle g g' new) (h₂ : Chronicle g' g'' later) :
    Chronicle g g'' (new ++ later) where
  unlimited hnone := h₂.unlimited (h₁.unlimited hnone)
  sound := h₂.sound
  issued h hi := h₂.issued h (h₁.issued h hi)
  made_fresh h hm := by
    rw [Device.made_append, List.mem_append] at hm
    rcases hm with hm | hm
    · exact h₁.made_fresh h hm
    · exact fun hi => h₂.made_fresh h hm (h₁.issued h hi)
  made_nodup := by
    rw [Device.made_append, List.nodup_append]
    refine ⟨h₁.made_nodup, h₂.made_nodup, ?_⟩
    rintro h hearly _ hlate rfl
    exact h₂.made_fresh h hlate (h₁.made_issued h hearly)
  made_issued h hm := by
    rw [Device.made_append, List.mem_append] at hm
    rcases hm with hm | hm
    · exact h₂.issued h (h₁.made_issued h hm)
    · exact h₂.made_issued h hm
  live h := by
    have hapart := h₁.made_not_gone h₂ (h := h)
    rw [h₂.live, h₁.live, Device.made_append, Device.gone_append, List.mem_append, List.mem_append]
    grind
  gone_live h hm := by
    rw [Device.gone_append, List.mem_append] at hm
    rw [Device.made_append, List.mem_append]
    rcases hm with hm | hm
    · exact (h₁.gone_live h hm).imp_right .inl
    · rcases h₂.gone_live h hm with hlive | hmade
      · exact ((h₁.live h).mp hlive).1.imp_right .inl
      · exact .inr (.inr hmade)
  gone_nodup := by
    rw [Device.gone_append, List.nodup_append]
    refine ⟨h₁.gone_nodup, h₂.gone_nodup, ?_⟩
    rintro h hearly _ hlate rfl
    rcases h₂.gone_live h hlate with hlive | hmade
    · exact ((h₁.live h).mp hlive).2 hearly
    · exact h₁.made_not_gone h₂ hmade hearly
  frame h hi hn := by
    rw [Device.named_append, List.mem_append, not_or] at hn
    rw [h₂.frame h (h₁.issued h hi) hn.2, h₁.frame h hi hn.1]

/-- Under a handle that no event is about there is what was there before, be it nothing. -/
theorem find?_eq (hc : Chronicle g g' new) {h : Handle} (hn : h ∉ named new) :
    g'.inner.table.find? h = g.inner.table.find? h := by
  by_cases hlive : g.Live h
  · exact hc.frame h hlive.issued hn
  · have hlive' : ¬ g'.Live h := by
      intro hnow
      rcases ((hc.live h).mp hnow).1 with hold | hmade
      · exact hlive hold
      · exact hn (Device.named_of_made hmade)
    rw [HandleTable.find?_of_not_contains (Bool.eq_false_iff.mpr hlive),
      HandleTable.find?_of_not_contains (Bool.eq_false_iff.mpr hlive')]

end Chronicle

namespace Recorded

variable {g g' g'' : Gate MemoryDevice} {new later : List Device.Event}

theorem refl (hg : g.inner.table.Sound) : Recorded g g [] :=
  ⟨Chronicle.refl hg, (List.append_nil _).symm⟩

theorem trans (h₁ : Recorded g g' new) (h₂ : Recorded g' g'' later) :
    Recorded g g'' (new ++ later) :=
  ⟨h₁.toChronicle.trans h₂.toChronicle, by rw [h₂.events, h₁.events, List.append_assoc]⟩

/-- The record of an allocation. -/
theorem of_allocated (hg : g.inner.table.Sound) (size : Nat) (usage : Usage) :
    Recorded g { g with inner := g.inner.allocated size usage }
      [.allocated g.inner.table.nextHandle size] where
  events := MemoryDevice.events_record _ _
  unlimited hnone := hnone
  sound := hg.insert _
  issued h hi := hi.insert hg _
  made_fresh h hm := by
    obtain rfl := List.mem_singleton.mp hm
    exact HandleTable.not_issued_nextHandle hg
  made_nodup := List.nodup_cons.mpr ⟨List.not_mem_nil, List.nodup_nil⟩
  made_issued h hm := by
    obtain rfl := List.mem_singleton.mp hm
    exact HandleTable.issued_nextHandle hg _
  live h := by
    have hmem : h ∈ made [.allocated g.inner.table.nextHandle size] ↔
        h = g.inner.table.nextHandle := List.mem_singleton
    have hgone : h ∉ gone [.allocated g.inner.table.nextHandle size] := List.not_mem_nil
    rw [hmem, and_iff_left hgone, Gate.Live, Gate.Live, HandleTable.contains, HandleTable.contains]
    simp only [MemoryDevice.find?_allocated hg]
    split
    next heq => simp [heq]
    next heq => simp [heq]
  gone_live h hm := by cases hm
  gone_nodup := List.nodup_nil
  frame h hi hn := by
    have hne : h ≠ g.inner.table.nextHandle := fun heq => hn (List.mem_singleton.mpr heq)
    exact (MemoryDevice.find?_allocated hg size usage h).trans (if_neg hne)

/-- The record of an upload. -/
theorem of_uploaded (hg : g.inner.table.Sound) {h : Handle} {a : Allocation}
    (ha : g.inner.table.find? h = some a) (offset : Nat) (bytes : Bytes) :
    Recorded g { g with inner := g.inner.uploaded h a offset bytes }
      [.uploaded h offset bytes.length] where
  events := MemoryDevice.events_record _ _
  unlimited hnone := hnone
  sound := hg.replace ha _
  issued k hi := hi.replace ha _
  made_fresh k hm := by cases hm
  made_nodup := List.nodup_nil
  made_issued k hm := by cases hm
  live k := by
    have hmade : k ∉ made [.uploaded h offset bytes.length] := List.not_mem_nil
    have hgone : k ∉ gone [.uploaded h offset bytes.length] := List.not_mem_nil
    rw [and_iff_left hgone, or_iff_left hmade, Gate.Live, Gate.Live, HandleTable.contains,
      HandleTable.contains]
    simp only [MemoryDevice.find?_uploaded ha]
    split
    next heq => simp [heq, ha]
    next => rfl
  gone_live k hm := by cases hm
  gone_nodup := List.nodup_nil
  frame k hi hn := by
    have hne : k ≠ h := fun heq => hn (List.mem_singleton.mpr heq)
    exact (MemoryDevice.find?_uploaded ha offset bytes k).trans (if_neg hne)

/-- The record of a release. -/
theorem of_released (hg : g.inner.table.Sound) {h : Handle} (hl : g.Live h) :
    Recorded g { g with inner := g.inner.released h } [.released h] := by
  obtain ⟨a, ha⟩ := HandleTable.contains_iff.mp hl
  refine
    { events := MemoryDevice.events_record _ _
      unlimited := fun hnone => hnone
      sound := hg.erase ha
      issued := fun k hi => hi.erase ha
      made_fresh := fun k hm => by cases hm
      made_nodup := List.nodup_nil
      made_issued := fun k hm => by cases hm
      live := ?_
      gone_live := ?_
      gone_nodup := List.nodup_cons.mpr ⟨List.not_mem_nil, List.nodup_nil⟩
      frame := ?_ }
  · intro k
    have hmade : k ∉ made [.released h] := List.not_mem_nil
    have hgone : k ∈ gone [.released h] ↔ k = h := List.mem_singleton
    rw [or_iff_left hmade, hgone, Gate.Live, Gate.Live, HandleTable.contains,
      HandleTable.contains]
    simp only [MemoryDevice.find?_released ha]
    split
    next heq => simp [heq]
    next heq => simp [heq]
  · intro k hm
    obtain rfl := List.mem_singleton.mp hm
    exact .inl hl
  · intro k hi hn
    have hne : k ≠ h := fun heq => hn (List.mem_singleton.mpr heq)
    exact (MemoryDevice.find?_released ha k).trans (if_neg hne)

/-- The record of a granted request. -/
theorem of_granted (hg : g.inner.table.Sound) {r : Device.Request} {answer : Device.Answer}
    {event : Device.Event} {d : MemoryDevice} (h : g.inner.Granted r answer event d) :
    Recorded g { g with inner := d } [event] := by
  cases h with
  | allocate usage room => exact of_allocated hg _ usage
  | upload known room => exact of_uploaded hg known _ _
  | bind known => exact ⟨.of_table_eq hg rfl rfl rfl rfl, MemoryDevice.events_record _ _⟩
  | unbind usage => exact ⟨.of_table_eq hg rfl rfl rfl rfl, MemoryDevice.events_record _ _⟩
  | release known => exact of_released hg known

/-- A refused request leaves no record. -/
theorem of_disarmed_eq (hg : g.inner.table.Sound) {d : MemoryDevice}
    (h : d.disarmed = g.inner.disarmed) : Recorded g { g with inner := d } [] := by
  have htable : d.disarmed.table = g.inner.disarmed.table := by rw [h]
  have hevents : d.disarmed.events = g.inner.disarmed.events := by rw [h]
  exact ⟨.of_table_eq hg htable rfl rfl rfl, hevents.trans (List.append_nil _).symm⟩

end Recorded

end BufferSync
