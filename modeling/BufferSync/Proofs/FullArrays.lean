import BufferSync.Proofs.Creation
import BufferSync.Proofs.Marking
import BufferSync.Proofs.Retirement

/-!
# Arrays that fill their allocation

An array that was made with room for just its elements fills its allocation to the last byte
(`Seated`), and it does so as long as elements are only replaced.  Then a binding asks the same of
the device whatever the elements are: if all of them are marked (`Unseen`), one upload of the whole
storage and the binding; if none is (`Shown`), the binding alone.  Either way the device has all
bytes of the array afterwards, and about other allocations nothing changes (`Rebound`).
-/

namespace BufferSync

namespace Region

/-- A region that is written over as a whole is what was written. -/
theorem overwrite_whole {region new : Bytes} (h : new.length = region.length) :
    overwrite region 0 new = new := by
  simp [overwrite, h]

theorem slice_whole (region : Bytes) : slice region 0 region.length = region := by
  simp [slice]

end Region

theorem Marks.mark?_clean (s : Option Span) : Marks.clean.mark? s = { span := s } := by
  cases s <;> rfl

namespace HostArray

variable {α : Type} {c : Codec α} {a : HostArray c}

/-! ## Elements of host arrays -/

/-- Elements that find room are added without a change of the storage. -/
theorem appendAll_of_room (hc : c.Sized) (ha : a.Packed) {vs : List α}
    (hroom : a.count + vs.length ≤ a.capacity) :
    appendAll vs a =
      { outcome := .ok { start := a.count, stop := a.count + vs.length }
        state := vs.foldl push a
        log := [] } := by
  have hreserve : reserve (a.count + vs.length) a =
      { outcome := .ok (), state := a, log := [] } := by
    rw [reserve, Op.state_bind, if_neg (Nat.not_lt.mpr hroom)]
    rfl
  rw [appendAll, Op.state_bind, Op.word_bind_of_lt (ha.fits hroom).word, Op.bind_of_ok hreserve,
    Op.bind_of_ok (each_append_eq hc ha vs hroom), Op.state_bind, count_foldl_push]
  rfl

theorem toList_overwriteCell (hc : c.Lawful) (ha : a.Packed) {i : Nat} (hi : i < a.capacity)
    (v : α) : (a.overwriteCells i (c.bytes v)).toList = a.toList.set i v := by
  rw [toList_eq_map, cells_overwriteCell ha hi (hc.length_bytes v), List.map_set, hc.parse_bytes,
    ← toList_eq_map]

/-- The populated bytes of a full array are all bytes that it has. -/
theorem Packed.populated_of_full (ha : a.Packed) (hfull : a.count = a.capacity) :
    a.populated = a.storage := by
  rw [populated, hfull, ← ha.length_storage, List.take_length]

end HostArray

namespace MemoryDevice

variable {d : MemoryDevice} {h k : Handle} {al : Allocation}

/-! ## Uploads of whole allocations -/

/-- An upload as long as the allocation replaces its bytes. -/
theorem find?_uploaded_whole (hal : d.table.find? h = some al) {bytes : Bytes}
    (hlength : bytes.length = al.bytes.length) (k : Handle) :
    (d.uploaded h al 0 bytes).table.find? k =
      if k = h then some { al with bytes } else d.table.find? k := by
  rw [find?_uploaded hal, Region.overwrite_whole hlength]

/-! ## The active allocation -/

@[simp] theorem events_unboundFrom (d : MemoryDevice) (usage : Usage) :
    (d.unboundFrom usage).events = d.events ++ [.unbound usage] :=
  events_record _ _

/-- Unbinding makes nothing active. -/
theorem bound_of_unboundFrom {usage : Usage} (hb : (d.unboundFrom usage).bound = some h) :
    d.bound = some h := by
  simp only [unboundFrom, record] at hb
  split at hb
  · cases hb
  · exact hb

/-- An active allocation is inactive when its usage is unbound. -/
theorem bound_unboundFrom {usage : Usage} (hd : ∀ k, d.bound = some k → d.usage? k = some usage) :
    (d.unboundFrom usage).bound = none := by
  simp only [unboundFrom, record]
  cases hb : d.bound with
  | none => rfl
  | some k => exact if_pos (hd k hb)

theorem bound_released (hb : d.bound = none) (h : Handle) : (d.released h).bound = none := by
  simp only [released, record, hb]
  rfl

end MemoryDevice

namespace SyncedArray

variable {α : Type} {c : Codec α} {D : Type} {a : SyncedArray c} {h k : Handle}

/-! ## Single elements of a live array -/

theorem get_of_live (ha : a.host.Packed) (hh : a.handle = some h) {i : Nat} {v : α}
    (hv : a.host.toList[i]? = some v) (d : D) :
    SyncedArray.get i (a, d) = { outcome := .ok v, state := (a, d), log := [] } := by
  have hi : i < a.host.count := by
    rw [← HostArray.length_toList]
    exact (List.getElem?_eq_some_iff.mp hv).1
  have hget : HostArray.get i a.host = { outcome := .ok v, state := a.host, log := [] } := by
    rw [HostArray.getElem?_toList_of_lt hi] at hv
    rw [HostArray.get_of_lt ha hi, Option.some.inj hv]
  rw [SyncedArray.get, Op.bind_of_ok (liveHandle_of_some hh d), onHost_of_eq hget]
  rfl

theorem set_of_live (hc : c.Sized) (ha : a.host.Packed) (hh : a.handle = some h) {i : Nat}
    (hi : i < a.host.count) (v : α) (d : D) :
    SyncedArray.set i v (a, d) =
      { outcome := .ok ()
        state := ({ a with
          host := a.host.overwriteCells i (c.bytes v), marks := a.marks.markIndex i }, d)
        log := [] } := by
  rw [SyncedArray.set, Op.bind_of_ok (liveHandle_of_some hh d), Run.after_nil,
    Op.bind_of_ok (onHost_of_eq (HostArray.set_of_lt hc ha hi v) d)]
  rfl

/-! ## Arrays that fill their allocation -/

variable {d d' : MemoryDevice} {al : Allocation}

/-- The array is full, and so is its allocation on the device. -/
structure Seated (a : SyncedArray c) (h : Handle) (d : MemoryDevice) : Prop where
  /-- The host array is packed. -/
  packed : a.host.Packed
  /-- All of its room is populated. -/
  full : a.host.count = a.host.capacity
  /-- The array is live. -/
  handle : a.handle = some h
  /-- Nothing is pending. -/
  pending : a.pending = none
  /-- The allocation has room for just the elements. -/
  room : a.deviceCapacity = a.host.capacity
  /-- The allocation is live, as large as the storage, and has the usage of the array. -/
  allocation : ∃ al, d.table.find? h = some al ∧ al.bytes.length = a.host.storage.length ∧
    al.usage = a.usage

namespace Seated

/-- Of the device only the allocation counts. -/
theorem of_find? (ha : a.Seated h d) (hfind : d'.table.find? h = d.table.find? h) :
    a.Seated h d' :=
  { ha with allocation := by rw [hfind]; exact ha.allocation }

theorem outgrown (ha : a.Seated h d) : a.outgrown = false := by
  rw [SyncedArray.outgrown, ha.room]
  exact decide_eq_false (Nat.lt_irrefl _)

theorem length_storage (ha : a.Seated h d) :
    a.host.storage.length = a.host.count * c.size := by
  rw [ha.packed.length_storage, ha.full]

theorem contains (ha : a.Seated h d) : d.table.contains h = true := by
  obtain ⟨al, hal, -⟩ := ha.allocation
  exact HandleTable.contains_iff.mpr ⟨al, hal⟩

end Seated

/-- The device has the bytes of all elements. -/
def Shown (a : SyncedArray c) (h : Handle) (d : MemoryDevice) : Prop :=
  a.marks.span = none ∧ d.contents? h = some a.host.storage

/-- All elements are marked. -/
def Unseen (a : SyncedArray c) : Prop :=
  0 < a.host.count ∧ a.marks.Full a.host.count

theorem unmarked_of_clean (hs : a.marks.span = none) : a.unmarked = a := by
  have hmarks : a.marks = .clean := congrArg Marks.mk hs
  rw [unmarked, ← hmarks]

/-- What a binding leaves of the device: `new` was recorded, the allocation is active, and nothing
is different about any other. -/
structure Rebound (h : Handle) (d d' : MemoryDevice) (new : List Device.Event) : Prop where
  /-- What was recorded. -/
  events : d'.events = d.events ++ new
  /-- The allocation is the active one. -/
  bound : d'.bound = some h
  /-- No fault is used up. -/
  faults : d'.faults = d.faults
  /-- No allocation is made or given back. -/
  live : d'.liveAllocations = d.liveAllocations
  /-- The others are as before. -/
  others : ∀ k, k ≠ h → d'.table.find? k = d.table.find? k

theorem bindCurrent_of_known (hh : a.handle = some h) (hk : d.table.contains h = true) :
    bindCurrent (a, d) =
      { outcome := .ok (), state := (a, d.boundTo h), log := [a.bindEntry h] } := by
  have hrun : Device.bind h d = { outcome := .ok (), state := d.boundTo h, log := [] } :=
    MemoryDevice.bind_of_known hk
  rw [bindCurrent, Op.bind_of_ok (liveHandle_of_some hh d),
    Op.bind_of_ok (onDevice_of_eq hrun a)]
  rfl

/-- If the device has all elements, they are bound at once. -/
theorem bind_of_shown (ha : a.Seated h d) (hshown : a.Shown h d) :
    ∃ d' l, SyncedArray.bind (a, d) = { outcome := .ok (), state := (a.unmarked, d'), log := l } ∧
      a.unmarked.Seated h d' ∧ a.unmarked.Shown h d' ∧ Rebound h d d' [.bound h] := by
  have hsettled : a.Settled := ⟨ha.pending, ha.outgrown, hshown.1⟩
  refine ⟨d.boundTo h, [a.bindEntry h], ?_, ?_, ?_, ?_⟩
  · rw [bind_of_some ha.handle, Op.bind_of_ok (flush_of_settled ha.handle hsettled d),
      bindCurrent_of_known ha.handle ha.contains, unmarked_of_clean hshown.1]
    rfl
  · rw [unmarked_of_clean hshown.1]
    exact ha.of_find? rfl
  · exact ⟨rfl, hshown.2⟩
  · exact ⟨MemoryDevice.events_boundTo _ _, rfl, rfl, rfl, fun _ _ => rfl⟩

/-- If all elements are marked, the whole storage is uploaded. -/
theorem flush_of_unseen (ha : a.Seated h d) (hunseen : a.Unseen) (hf : d.faults.upload = false)
    (hal : d.table.find? h = some al) (hlength : al.bytes.length = a.host.storage.length) :
    ∃ l, flush (a, d) =
      { outcome := .ok ()
        state := (a.unmarked, d.uploaded h al 0 a.host.storage)
        log := l } := by
  obtain ⟨hpos, hspan⟩ := hunseen
  have hlast : a.host.count - 1 + 1 = a.host.count := by omega
  have hbytes := ha.length_storage.symm
  have hlimit := ha.packed.length_le
  have hword := regionLimit_lt_wordLimit
  have hs : a.marks.span = some { first := 0, last := a.host.count - 1 } := by
    rw [hspan, Span.firstOnes?_of_pos hpos]
  have hfits : a.SpanFits { first := 0, last := a.host.count - 1 } := by
    have hcount := ha.packed.fits ha.packed.count_le
    refine ⟨?_, ?_, ?_⟩
    · simp only [hlast]
      exact ⟨hcount.word, hcount.place_lt⟩
    · rw [ha.room, ← ha.full]
      exact hcount.place_lt
    · rw [ha.room, ← ha.full]
      simp only [hlast]
      exact ⟨Nat.le_refl _, Nat.le_of_eq hbytes⟩
  have hwhole : a.spanBytes { first := 0, last := a.host.count - 1 } = a.host.storage := by
    rw [spanBytes]
    simp only [hlast, Nat.zero_mul, Nat.sub_zero, hbytes]
    exact Region.slice_whole _
  have hupload : Device.upload h (0 * c.size) a.host.storage d =
      { outcome := .ok (), state := d.uploaded h al 0 a.host.storage, log := [] } := by
    rw [Nat.zero_mul]
    exact MemoryDevice.upload_of_le hf hal (by omega) (by omega)
  refine ⟨[a.uploadEntry { first := 0, last := a.host.count - 1 }], ?_⟩
  rw [flush_of_fits ha.handle ha.pending ha.outgrown, uploadMarked_of_marked ha.handle hs,
    (uploadSpan_of_fits hs hfits h d).2 _ _ (by rw [hwhole]; exact hupload)]
  rfl

/-- If all elements are marked, they are uploaded and then bound. -/
theorem bind_of_unseen (ha : a.Seated h d) (hunseen : a.Unseen) (hf : d.faults.upload = false) :
    ∃ d' l, SyncedArray.bind (a, d) = { outcome := .ok (), state := (a.unmarked, d'), log := l } ∧
      a.unmarked.Seated h d' ∧ a.unmarked.Shown h d' ∧
      Rebound h d d' [.uploaded h 0 a.host.storage.length, .bound h] := by
  obtain ⟨al, hal, hlength, husage⟩ := ha.allocation
  obtain ⟨l, hflush⟩ := flush_of_unseen ha hunseen hf hal hlength
  have hfind := MemoryDevice.find?_uploaded_whole hal hlength.symm
  have hown := (hfind h).trans (if_pos rfl)
  have hseated : a.unmarked.Seated h (d.uploaded h al 0 a.host.storage) :=
    { packed := ha.packed
      full := ha.full
      handle := ha.handle
      pending := ha.pending
      room := ha.room
      allocation := ⟨_, hown, rfl, husage⟩ }
  refine ⟨(d.uploaded h al 0 a.host.storage).boundTo h, l ++ [a.unmarked.bindEntry h], ?_,
    hseated.of_find? rfl, ⟨rfl, congrArg (Option.map Allocation.bytes) hown⟩, ?_⟩
  · rw [bind_of_some ha.handle, Op.bind_of_ok hflush,
      bindCurrent_of_known hseated.handle hseated.contains]
    rfl
  · exact
      { events := by simp
        bound := rfl
        faults := rfl
        live := MemoryDevice.liveAllocations_uploaded hal _ _
        others := fun k hk => (hfind k).trans (if_neg hk) }

theorem unbind_of_live (hh : a.handle = some h) (d : MemoryDevice) :
    unbind (a, d) =
      { outcome := .ok (), state := (a, d.unboundFrom a.usage), log := [a.unbindEntry] } := by
  have hrun : Device.unbind a.usage d =
      { outcome := .ok (), state := d.unboundFrom a.usage, log := [] } := rfl
  rw [unbind, Op.bind_of_ok (liveHandle_of_some hh d), self_bind,
    Op.bind_of_ok (onDevice_of_eq hrun a)]
  rfl

theorem dispose_of_live (hh : a.handle = some h) (hp : a.pending = none)
    (hf : d.faults.release = false) (hk : d.table.contains h = true) :
    dispose (a, d) =
      { outcome := .ok ()
        state := ({ a with handle := none }, d.released h)
        log := [MemoryDevice.releaseEntry h, a.disposeEntry] } := by
  have hrun : Device.release h d =
      { outcome := .ok (), state := d.released h, log := [MemoryDevice.releaseEntry h] } :=
    MemoryDevice.release_of_known hf hk
  rw [dispose_eq, Op.bind_of_ok (releasePending_of_none hp d), releaseHandle_of_some hh,
    Op.bind_of_ok (Op.undoing_of_ok (onDevice_of_eq hrun _) _)]
  rfl

/-! ## New arrays that are full -/

/-- What was written is marked, as long as the allocation is large enough. -/
theorem appendAll_of_room (hc : c.Sized) (ha : a.host.Packed) (hh : a.handle = some h)
    {vs : List α} (hroom : a.host.count + vs.length ≤ a.host.capacity) (d : D) :
    appendAll vs (a, d) =
      { outcome := .ok { start := a.host.count, stop := a.host.count + vs.length }
        state := (({ a with host := vs.foldl HostArray.push a.host } : SyncedArray c).markWritten
          a.host.count (a.host.count + vs.length), d)
        log := [] } := by
  have hhost := HostArray.appendAll_of_room hc ha hroom
  rw [appendAll, Op.bind_of_ok (liveHandle_of_some hh d), Run.after_nil,
    Op.bind_of_ok (onHost_of_eq hhost d)]
  rfl

theorem create_of_allocate [Device D] {config : ArrayConfig} {e e' : D} {l : List Log.Entry}
    (hfits : c.Fits config.capacity)
    (hrun : Device.allocate (config.capacity * c.size) config.usage e =
      { outcome := .ok h, state := e', log := l }) :
    (create config : Op D (SyncedArray c)) e =
      { outcome := .ok (fresh config h), state := e', log := l ++ [createEntry c config] } := by
  have hlength : (HostArray.vacant config.capacity : HostArray c).storage.length =
      config.capacity * c.size := Region.length_zeros _
  rw [create, Op.bind_of_ok (HostArray.withCapacity_of_fits hfits e), hlength, Op.bind_of_ok hrun]
  rfl

/-- A new array on the allocation `h` that was filled with the elements at once. -/
def stocked (config : ArrayConfig) (vs : List α) (h : Handle) : SyncedArray c :=
  { (fresh config h : SyncedArray c) with
    host := vs.foldl HostArray.push (HostArray.vacant config.capacity)
    marks := { span := Span.firstOnes? vs.length } }

theorem ofList_of_allocate [Device D] (hc : c.Sized) {config : ArrayConfig} {vs : List α}
    (hroom : vs.length ≤ config.capacity) (hfits : c.Fits config.capacity) {e e' : D}
    {l : List Log.Entry}
    (hrun : Device.allocate (config.capacity * c.size) config.usage e =
      { outcome := .ok h, state := e', log := l }) :
    ∃ l', (ofList config vs : Op D (SyncedArray c)) e =
      { outcome := .ok (stocked config vs h), state := e', log := l' } := by
  have hvacant : (HostArray.vacant config.capacity : HostArray c).Packed :=
    HostArray.packed_vacant hfits
  have hfill : (HostArray.vacant config.capacity : HostArray c).count + vs.length ≤
      config.capacity := (Nat.zero_add _).symm ▸ hroom
  have hmarks : ({ (fresh config h : SyncedArray c) with
      host := vs.foldl HostArray.push (HostArray.vacant config.capacity) } :
        SyncedArray c).markWritten 0 (0 + vs.length) = stocked config vs h := by
    rw [markWritten_of_fits, Nat.zero_add]
    · exact congrArg (fun marks => ({ (stocked config vs h : SyncedArray c) with marks }))
        (Marks.mark?_clean _)
    · rw [outgrown, HostArray.capacity_foldl_push]
      exact decide_eq_false (Nat.lt_irrefl _)
  have happend : appendAll vs ((fresh config h : SyncedArray c), e') =
      { outcome := .ok { start := 0, stop := 0 + vs.length }
        state := (stocked config vs h, e')
        log := [] } := by
    rw [appendAll_of_room (a := fresh config h) hc hvacant rfl hfill]
    exact congrArg (fun b => Run.mk _ (b, e') []) hmarks
  exact ⟨_, by
    rw [ofList, Op.bind_of_ok (create_of_allocate hfits hrun),
      Op.bind_of_ok (Op.beside_of_eq (Op.finishing_of_ok happend drop))]
    rfl⟩

/-- An array that was made with room for just its elements fills its allocation, and the device has
seen none of them. -/
theorem seated_stocked (hc : c.Lawful) {config : ArrayConfig} {vs : List α} (hpos : 0 < vs.length)
    (hfull : vs.length = config.capacity) (hfits : c.Fits config.capacity)
    (hal : d.table.find? h = some al)
    (hlength : al.bytes.length = config.capacity * c.size) (husage : al.usage = config.usage) :
    (stocked config vs h : SyncedArray c).Seated h d ∧
      (stocked config vs h : SyncedArray c).Unseen ∧
      (stocked config vs h : SyncedArray c).host.toList = vs := by
  have hvacant : (HostArray.vacant config.capacity : HostArray c).Packed :=
    HostArray.packed_vacant hfits
  have hroom : (HostArray.vacant config.capacity : HostArray c).count + vs.length ≤
      config.capacity := (Nat.zero_add _).symm ▸ Nat.le_of_eq hfull
  obtain ⟨hpacked, hcells⟩ := HostArray.foldl_push hc.sized hvacant vs hroom
  have hcapacity := HostArray.capacity_foldl_push vs
    (HostArray.vacant config.capacity : HostArray c)
  have hlist : (stocked config vs h : SyncedArray c).host.toList = vs := by
    rw [HostArray.toList_eq_map, stocked, hcells, List.map_append, HostArray.map_parse_bytes hc]
    rfl
  have hcount : (stocked config vs h : SyncedArray c).host.count = vs.length := by
    rw [← HostArray.length_toList, hlist]
  have hstorage : (stocked config vs h : SyncedArray c).host.storage.length =
      config.capacity * c.size := by
    rw [stocked, hpacked.length_storage, hcapacity]
    rfl
  exact ⟨
    { packed := hpacked
      full := hcount.trans (hfull.trans hcapacity.symm)
      handle := rfl
      pending := rfl
      room := hcapacity.symm
      allocation := ⟨al, hal, hlength.trans hstorage.symm, husage⟩ },
    ⟨by rw [hcount]; exact hpos, by rw [hcount]; rfl⟩, hlist⟩

end SyncedArray

end BufferSync
