import BufferSync.Proofs.Sessions
import Mathlib.Data.List.Induction

/-!
# What a device holds

After any session the bytes under a live handle are told by the session alone: as many zeros as were
asked for when the handle was returned, written over by the uploads to this handle that ended well,
one after the other.  Uploads to other handles, releases, and slots that are used again leave no
trace in them, and neither do failed calls.  `Remembers` is this as an invariant of sessions; it
holds because a new handle was never written to before.

An upload that meets no fault ends well exactly if the handle is live and the bytes end inside the
allocation.  The device compares the end, as a word, with the size; where the end is no word, it is
beyond every size that a region can have, so there is no difference to plain numbers.
-/

namespace BufferSync.MemoryDevice

variable {d d' : MemoryDevice} {h k : Handle} {xs : List Exchange} {x : Exchange} {size : Nat}
  {usage : Usage}

/-! ## What a session tells -/

/-- An allocation of `size` bytes returned the handle. -/
def Made (xs : List Exchange) (h : Handle) (size : Nat) (usage : Usage) : Prop :=
  ∃ x ∈ xs, x.call = .request (.allocate size usage) ∧ x.outcome = .ok (.handle h)

instance : Decidable (Made xs h size usage) :=
  inferInstanceAs (Decidable (∃ x ∈ xs, _ ∧ _))

/-- The position and the bytes of an upload to the handle that ended well. -/
def Exchange.write? (h : Handle) (x : Exchange) : Option (Nat × Bytes) :=
  match x.call, x.outcome with
  | .request (.upload k offset bytes), .ok _ => if k = h then some (offset, bytes) else none
  | _, _ => none

/-- The uploads to the handle that ended well, in order. -/
def writes (h : Handle) (xs : List Exchange) : List (Nat × Bytes) :=
  xs.filterMap (Exchange.write? h)

/-- Zeros, written over by one upload after the other. -/
def written (size : Nat) (ws : List (Nat × Bytes)) : Bytes :=
  ws.foldl (fun region w => Region.overwrite region w.1 w.2) (Region.zeros size)

theorem written_concat (size : Nat) (ws : List (Nat × Bytes)) (w : Nat × Bytes) :
    written size (ws ++ [w]) = Region.overwrite (written size ws) w.1 w.2 := by
  simp [written]

/-- A call made to a device, and what came of it. -/
def exchange (d : MemoryDevice) (call : Call) : Exchange where
  call := call
  outcome := (serve call d).outcome
  left := (serve call d).state.disarmed

theorem session_concat (d : MemoryDevice) (calls : List Call) (call : Call) :
    session d (calls ++ [call]) = session d calls ++ [exchange (after d calls) call] := by
  induction calls generalizing d with
  | nil => rfl
  | cons first rest ih =>
    rw [List.cons_append, session, session, ih, List.cons_append]
    rfl

theorem after_concat (d : MemoryDevice) (calls : List Call) (call : Call) :
    after d (calls ++ [call]) = (serve call (after d calls)).state := by
  simp [after]

theorem made_concat : Made (xs ++ [x]) h size usage ↔ Made xs h size usage ∨
    x.call = .request (.allocate size usage) ∧ x.outcome = .ok (.handle h) := by
  simp [Made, or_and_right, exists_or]

theorem writes_concat (h : Handle) (xs : List Exchange) (x : Exchange) :
    writes h (xs ++ [x]) = writes h xs ++ (x.write? h).toList :=
  List.filterMap_append

theorem returned_concat (xs : List Exchange) (x : Exchange) :
    returned (xs ++ [x]) = returned xs ++ x.returned?.toList :=
  List.filterMap_append

theorem givenBack_concat (xs : List Exchange) (x : Exchange) :
    givenBack (xs ++ [x]) = givenBack xs ++ x.givenBack?.toList :=
  List.filterMap_append

theorem returned?_eq_some_iff : x.returned? = some h ↔
    ∃ size usage, x.call = .request (.allocate size usage) ∧ x.outcome = .ok (.handle h) := by
  unfold Exchange.returned?
  split
  next size usage k hcall houtcome => simp [hcall, houtcome]
  next hother =>
    constructor
    · intro hnone
      cases hnone
    · rintro ⟨size, usage, hcall, houtcome⟩
      exact absurd houtcome (hother size usage h hcall)

theorem mem_returned_iff : h ∈ returned xs ↔ ∃ size usage, Made xs h size usage := by
  simp only [returned, List.mem_filterMap, returned?_eq_some_iff, Made]
  constructor
  · rintro ⟨x, hx, size, usage, hcall⟩
    exact ⟨size, usage, x, hx, hcall⟩
  · rintro ⟨size, usage, x, hx, hcall⟩
    exact ⟨x, hx, size, usage, hcall⟩

/-! ## The invariant -/

/-- Under the handle there is an allocation of `size` bytes, written over by `ws`. -/
structure Held (d : MemoryDevice) (h : Handle) (size : Nat) (usage : Usage)
    (ws : List (Nat × Bytes)) : Prop where
  /-- It has these bytes and this usage. -/
  found : d.table.find? h = some { bytes := written size ws, usage }
  /-- All uploads stayed inside. -/
  length : (written size ws).length = size
  /-- There is room for it. -/
  room : size ≤ regionLimit

/-- What the device holds is what the session tells. -/
structure Remembers (d : MemoryDevice) (xs : List Exchange) : Prop where
  /-- The table is sound. -/
  sound : d.table.Sound
  /-- Handles that were returned are issued. -/
  issued : ∀ h ∈ returned xs, d.table.Issued h
  /-- Nothing was written to a handle that is still to come. -/
  unwritten : ∀ h, ¬ d.table.Issued h → writes h xs = []
  /-- A live allocation is as the session tells. -/
  held : ∀ h size usage, Made xs h size usage → h ∉ givenBack xs →
    d.Held h size usage (writes h xs)
  /-- The live allocations are those made and not given back. -/
  count : d.liveAllocations + (givenBack xs).length = (returned xs).length

theorem remembers_empty : Remembers {} [] where
  sound := HandleTable.sound_empty
  issued h hm := by cases hm
  unwritten h _ := rfl
  held h size usage hmade := by simp [Made] at hmade
  count := rfl

/-- What is held under one handle depends on nothing else. -/
theorem Held.of_find?_eq {ws : List (Nat × Bytes)} (hh : d.Held h size usage ws)
    (hfind : d'.table.find? h = d.table.find? h) : d'.Held h size usage ws :=
  ⟨hfind.trans hh.found, hh.length, hh.room⟩

/-- One more write to what is held. -/
theorem Held.upload {ws : List (Nat × Bytes)} {a : Allocation} (hh : d.Held h size usage ws)
    (known : d.table.find? h = some a) {offset : Nat} {bytes : Bytes}
    (room : offset + bytes.length ≤ a.bytes.length) :
    (d.uploaded h a offset bytes).Held h size usage (ws ++ [(offset, bytes)]) := by
  obtain rfl := Option.some.inj (known.symm.trans hh.found)
  refine ⟨?_, ?_, hh.room⟩
  · rw [find?_uploaded known, if_pos rfl, written_concat]
  · rw [written_concat, Region.length_overwrite room]
    exact hh.length

namespace Remembers

/-- A call that the session tells nothing of and that leaves the table alone. -/
theorem quiet (hr : Remembers d xs) (htable : d'.table = d.table) (hreturned : x.returned? = none)
    (hback : x.givenBack? = none) (hwrite : ∀ h, x.write? h = none) :
    Remembers d' (xs ++ [x]) := by
  have hreturned' : returned (xs ++ [x]) = returned xs := by simp [returned_concat, hreturned]
  have hback' : givenBack (xs ++ [x]) = givenBack xs := by simp [givenBack_concat, hback]
  have hwrites : ∀ h, writes h (xs ++ [x]) = writes h xs := by simp [writes_concat, hwrite]
  constructor
  · exact htable ▸ hr.sound
  · rw [hreturned', htable]
    exact hr.issued
  · simp only [hwrites, htable]
    exact hr.unwritten
  · intro h size usage hmade hkept
    rw [hback'] at hkept
    rw [hwrites]
    rcases made_concat.mp hmade with hmade | hx
    · exact (hr.held h size usage hmade hkept).of_find?_eq (by rw [htable])
    · have hsome := returned?_eq_some_iff.mpr ⟨size, usage, hx⟩
      rw [hreturned] at hsome
      cases hsome
  · rw [hreturned', hback', liveAllocations, htable]
    exact hr.count

/-- A new allocation is all zeros, since its handle was never written to. -/
theorem allocate (hr : Remembers d xs) (room : size ≤ regionLimit) (left : MemoryDevice) :
    Remembers (d.allocated size usage)
      (xs ++ [⟨.request (.allocate size usage), .ok (.handle d.table.nextHandle), left⟩]) := by
  have hfresh := HandleTable.not_issued_nextHandle hr.sound
  have hfind := find?_allocated hr.sound size usage
  constructor
  · exact hr.sound.insert _
  · intro h hm
    rw [returned_concat] at hm
    rcases List.mem_append.mp hm with hm | hm
    · exact (hr.issued h hm).insert hr.sound _
    · obtain rfl := List.mem_singleton.mp hm
      exact HandleTable.issued_nextHandle hr.sound _
  · intro h hni
    rw [writes_concat, hr.unwritten h fun hi => hni (hi.insert hr.sound _)]
    rfl
  · intro h size' usage' hmade hkept
    rw [givenBack_concat, List.mem_append, not_or] at hkept
    rw [writes_concat]
    simp only [Exchange.write?, Option.toList_none, List.append_nil]
    rcases made_concat.mp hmade with hmade | ⟨hcall, houtcome⟩
    · have hne : h ≠ d.table.nextHandle := by
        rintro rfl
        exact hfresh (hr.issued _ (mem_returned_iff.mpr ⟨_, _, hmade⟩))
      exact (hr.held h _ _ hmade hkept.1).of_find?_eq (by rw [hfind, if_neg hne])
    · cases hcall
      cases houtcome
      rw [hr.unwritten _ hfresh]
      exact ⟨by rw [hfind, if_pos rfl]; rfl, Region.length_zeros _, room⟩
  · have hcount := hr.count
    simp only [givenBack_concat, returned_concat, Exchange.givenBack?, Exchange.returned?,
      List.length_append, Option.toList_none, Option.toList_some, List.length_nil,
      List.length_singleton, liveAllocations_allocated hr.sound]
    omega

/-- An upload is one more write to its own handle and none to others. -/
theorem upload (hr : Remembers d xs) {a : Allocation} (known : d.table.find? k = some a)
    {offset : Nat} {bytes : Bytes} (room : offset + bytes.length ≤ a.bytes.length)
    (answer : Device.Answer) (left : MemoryDevice) :
    Remembers (d.uploaded k a offset bytes)
      (xs ++ [⟨.request (.upload k offset bytes), .ok answer, left⟩]) := by
  constructor
  · exact hr.sound.replace known _
  · intro h hm
    rw [returned_concat] at hm
    exact (hr.issued h (by simpa [Exchange.returned?] using hm)).replace known _
  · intro h hni
    have hne : k ≠ h := by
      rintro rfl
      exact hni ((HandleTable.issued_of_find? known).replace known _)
    rw [writes_concat, hr.unwritten h fun hi => hni (hi.replace known _)]
    simp [Exchange.write?, hne]
  · intro h size usage hmade hkept
    have hmade : Made xs h size usage := by simpa [made_concat] using hmade
    have hkept : h ∉ givenBack xs := by
      simpa [givenBack_concat, Exchange.givenBack?] using hkept
    have hheld := hr.held h size usage hmade hkept
    by_cases heq : k = h
    · subst heq
      simpa [writes_concat, Exchange.write?] using hheld.upload known room
    · have hother : (d.uploaded k a offset bytes).Held h size usage (writes h xs) :=
        hheld.of_find?_eq (by rw [find?_uploaded known, if_neg (Ne.symm heq)])
      simpa [writes_concat, Exchange.write?, heq] using hother
  · simpa [givenBack_concat, returned_concat, Exchange.givenBack?, Exchange.returned?,
      liveAllocations_uploaded known] using hr.count

/-- A release takes away what is under its handle and nothing else. -/
theorem release (hr : Remembers d xs) (known : d.table.contains k = true)
    (answer : Device.Answer) (left : MemoryDevice) :
    Remembers (d.released k) (xs ++ [⟨.request (.release k), .ok answer, left⟩]) := by
  obtain ⟨a, ha⟩ := HandleTable.contains_iff.mp known
  have hwrites : ∀ h, writes h (xs ++ [⟨.request (.release k), .ok answer, left⟩]) =
      writes h xs := by simp [writes_concat, Exchange.write?]
  constructor
  · exact hr.sound.erase ha
  · intro h hm
    rw [returned_concat] at hm
    exact (hr.issued h (by simpa [Exchange.returned?] using hm)).erase ha
  · intro h hni
    rw [hwrites]
    exact hr.unwritten h fun hi => hni (hi.erase ha)
  · intro h size usage hmade hkept
    have hmade : Made xs h size usage := by simpa [made_concat] using hmade
    obtain ⟨hkept, hne⟩ : h ∉ givenBack xs ∧ h ≠ k := by
      simpa [givenBack_concat, Exchange.givenBack?] using hkept
    rw [hwrites]
    exact (hr.held h size usage hmade hkept).of_find?_eq (by rw [find?_released ha, if_neg hne])
  · have hsize := liveAllocations_released ha
    have hcount := hr.count
    simp only [givenBack_concat, returned_concat, Exchange.givenBack?, Exchange.returned?,
      List.length_append, Option.toList_none, Option.toList_some, List.length_nil,
      List.length_singleton]
    omega

/-- One call. -/
theorem serve (hr : Remembers d xs) (call : Call) :
    Remembers (serve call d).state (xs ++ [exchange d call]) := by
  rw [exchange]
  cases call with
  | request r =>
    have hserved := served r d
    rw [MemoryDevice.serve]
    generalize Device.perform r d = run at hserved
    cases hserved with
    | granted hgranted =>
      cases hgranted with
      | allocate usage room => exact hr.allocate room _
      | upload known room => exact hr.upload known room.2 _ _
      | bind known => exact hr.quiet rfl rfl rfl fun _ => rfl
      | unbind usage => exact hr.quiet rfl rfl rfl fun _ => rfl
      | release known => exact hr.release known _ _
    | refused same =>
      have htable := congrArg MemoryDevice.table same
      cases r <;> exact hr.quiet htable rfl rfl fun _ => rfl
    | trapped asked excess =>
      cases r <;> exact hr.quiet rfl rfl rfl fun _ => rfl
  | arm fault =>
    have htable : (armed fault d).table = d.table := by cases fault <;> rfl
    exact hr.quiet htable rfl rfl fun _ => rfl
  | forgetEvents => exact hr.quiet rfl rfl rfl fun _ => rfl

end Remembers

theorem remembers_session (calls : List Call) :
    Remembers (after {} calls) (session {} calls) := by
  induction calls using List.reverseRecOn with
  | nil => exact remembers_empty
  | append_singleton calls call ih =>
    rw [after_concat, session_concat]
    exact ih.serve call

/-! ## Uploads -/

/-- The live handles are those returned and not given back. -/
theorem contains_after_iff (calls : List Call) (h : Handle) :
    (after {} calls).table.contains h = true ↔
      h ∈ returned (session {} calls) ∧ h ∉ givenBack (session {} calls) := by
  obtain ⟨new, hnew, hmade, hgone⟩ :=
    exists_chronicle_session (d := {}) HandleTable.sound_empty calls
  have hempty : ¬ Gate.Live { inner := ({} : MemoryDevice) } h := by
    simp [Gate.Live, HandleTable.contains, HandleTable.find?_empty]
  have hlive := hnew.live h
  rw [hmade, hgone, or_iff_right hempty] at hlive
  exact hlive

/-- An upload that meets no fault is written or refused with a device error. -/
theorem upload_ok_or_refused (hf : d.faults.upload = false) (h : Handle) (offset : Nat)
    (bytes : Bytes) :
    (Device.upload h offset bytes d).outcome = .ok () ∨
      ∃ reason, (Device.upload h offset bytes d).outcome = .error (.device reason) := by
  obtain ⟨reason, -, hrun⟩ | ⟨a, -, -, hrun⟩ := upload_cases hf h offset bytes
  · exact .inr ⟨reason, congrArg Run.outcome hrun⟩
  · exact .inl (congrArg Run.outcome hrun)

/-- It is written exactly if the bytes end inside the allocation that the session tells of. -/
theorem Remembers.upload_ok_iff (hr : Remembers d xs)
    (hlive : ∀ h, d.table.contains h = true ↔ h ∈ returned xs ∧ h ∉ givenBack xs)
    (hf : d.faults.upload = false) (h : Handle) (offset : Nat) (bytes : Bytes) :
    (Device.upload h offset bytes d).outcome = .ok () ↔
      ∃ size usage, Made xs h size usage ∧ h ∉ givenBack xs ∧ offset + bytes.length ≤ size := by
  constructor
  · intro hok
    obtain ⟨reason, -, hrun⟩ | ⟨a, ha, hroom, -⟩ := upload_cases hf h offset bytes
    · cases hok.symm.trans (congrArg Run.outcome hrun)
    · obtain ⟨hreturned, hkept⟩ := (hlive h).mp (HandleTable.contains_iff.mpr ⟨a, ha⟩)
      obtain ⟨size, usage, hmade⟩ := mem_returned_iff.mp hreturned
      have hheld := hr.held h size usage hmade hkept
      obtain rfl := Option.some.inj (ha.symm.trans hheld.found)
      exact ⟨size, usage, hmade, hkept, Nat.le_trans hroom.2 (Nat.le_of_eq hheld.length)⟩
  · rintro ⟨size, usage, hmade, hkept, hroom⟩
    have hheld := hr.held h size usage hmade hkept
    have hword : offset + bytes.length < wordLimit :=
      Nat.lt_of_le_of_lt (Nat.le_trans hroom hheld.room) regionLimit_lt_wordLimit
    have hinside : offset + bytes.length ≤ (written size (writes h xs)).length := by
      rw [hheld.length]
      exact hroom
    exact congrArg Run.outcome (upload_of_le hf hheld.found hword hinside)

/-- What a device holds after any session.

An upload that meets no fault ends well exactly if its handle is live and its bytes end inside the
allocation, and otherwise with a device error.  A handle is live if it was returned and not given
back.  Then its bytes are zeros of the size asked for, written over by the uploads to it that ended
well, in order, and it has that size and the usage asked for.  There are as many live allocations as
were made, less those given back. -/
theorem contents_as_written (calls : List Call) :
    (∀ h offset bytes, (after {} calls).faults.upload = false →
      ((Device.upload h offset bytes (after {} calls)).outcome = .ok () ↔
        ∃ size usage, Made (session {} calls) h size usage ∧ h ∉ givenBack (session {} calls) ∧
          offset + bytes.length ≤ size) ∧
      ((Device.upload h offset bytes (after {} calls)).outcome ≠ .ok () →
        ∃ reason, (Device.upload h offset bytes (after {} calls)).outcome =
          .error (.device reason))) ∧
    (∀ h, ((after {} calls).contents? h).isSome = true ↔
      h ∈ returned (session {} calls) ∧ h ∉ givenBack (session {} calls)) ∧
    (∀ h size usage, Made (session {} calls) h size usage → h ∉ givenBack (session {} calls) →
      (after {} calls).contents? h = some (written size (writes h (session {} calls))) ∧
        (after {} calls).size? h = some size ∧ (after {} calls).usage? h = some usage) ∧
    (after {} calls).liveAllocations + (givenBack (session {} calls)).length =
      (returned (session {} calls)).length := by
  have hr := remembers_session calls
  have hlive := contains_after_iff calls
  refine ⟨?_, ?_, ?_, hr.count⟩
  · intro h offset bytes hf
    exact ⟨hr.upload_ok_iff hlive hf h offset bytes,
      (upload_ok_or_refused hf h offset bytes).resolve_left⟩
  · intro h
    rw [← hlive h, contents?, Option.isSome_map]
    rfl
  · intro h size usage hmade hkept
    have hheld := hr.held h size usage hmade hkept
    simp [size?, contents?, usage?, hheld.found, hheld.length]

/-- A slot that is used again, and uploads to two allocations by turns: one to the handle that was
given back, and one of no bytes at the end.  An upload to the highest position is refused. -/
theorem contents_as_written_recycled :
    let calls := [.request (.allocate 4 .vertex), .request (.release ⟨1, 1⟩),
      .request (.allocate 4 .index), .request (.allocate 2 .vertex),
      .request (.upload ⟨1, 3⟩ 1 [5, 6]), .request (.upload ⟨2, 1⟩ 0 [9]),
      .request (.upload ⟨1, 1⟩ 0 [8]), .request (.upload ⟨1, 3⟩ 2 [7]),
      .request (.upload ⟨1, 3⟩ 4 [])]
    (after {} calls).contents? ⟨1, 3⟩ = some [0, 5, 7, 0] ∧
      (after {} calls).size? ⟨1, 3⟩ = some 4 ∧ (after {} calls).usage? ⟨1, 3⟩ = some .index ∧
      (after {} calls).liveAllocations + 1 = 3 ∧
      (Device.upload ⟨1, 3⟩ 0 [1, 2, 3, 4] (after {} calls)).outcome = .ok () ∧
      (Device.upload ⟨1, 3⟩ (wordLimit - 1) [1] (after {} calls)).outcome ≠ .ok () := by
  intro calls
  obtain ⟨hupload, -, hheld, hcount⟩ := contents_as_written calls
  have hmade : Made (session {} calls) ⟨1, 3⟩ 4 .index := by decide
  have hkept : ⟨1, 3⟩ ∉ givenBack (session {} calls) := by decide
  obtain ⟨hcontents, hsize, husage⟩ := hheld _ _ _ hmade hkept
  refine ⟨hcontents, hsize, husage, hcount, ?_, ?_⟩
  · exact (hupload _ _ _ rfl).1.mpr ⟨4, .index, hmade, hkept, by decide⟩
  · intro hok
    obtain ⟨size, usage, hmade', -, hroom⟩ := (hupload _ _ _ rfl).1.mp hok
    obtain rfl := Option.some.inj (hsize.symm.trans (hheld _ _ _ hmade' hkept).2.1)
    exact absurd hroom (by decide)

end BufferSync.MemoryDevice
