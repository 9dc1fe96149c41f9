import BufferSync.Proofs.ElementCalls
import BufferSync.Proofs.HostReports

/-!
# Who answers for an allocation

An array answers for its allocation and for a replaced one that is still pending.  Whatever is asked
of it, it answers afterwards for what it answered for before and for what it has made since, less
what it has given back, and it touches no other allocation.  This is `Custody`; it passes from stage
to stage, so an operation can stop at any stage without losing an allocation or giving one back
twice.

The end of an array is different: what the device does not take back, nobody answers for any more.
-/

namespace BufferSync.SyncedArray

variable {α : Type} {c : Codec α} {β γ : Type} {a a' a'' : SyncedArray c}
  {g g' g'' : Gate MemoryDevice} {h p : Handle} {new later : List Device.Event}

open Device (made gone named)
open MemoryDevice (UnknownRelease)

/-- The allocations that the array answers for. -/
def owned (a : SyncedArray c) : List Handle :=
  a.handle.toList ++ a.pending.toList

/-- The array answers for different handles that were issued by the device. -/
structure Held (a : SyncedArray c) (g : Gate MemoryDevice) : Prop where
  /-- The table of the device is sound. -/
  sound : g.inner.table.Sound
  /-- The gate limits no allocations. -/
  unlimited : g.allocatesLeft = none
  /-- The handles were issued. -/
  issued : ∀ h ∈ a.owned, g.inner.table.Issued h
  /-- The handles are different. -/
  nodup : a.owned.Nodup

/-- On the way from `(a, g)` to `(a', g')` the device recorded `new`, and the array answers for what
it had and made, less what it gave back. -/
structure Custody (a : SyncedArray c) (g : Gate MemoryDevice) (a' : SyncedArray c)
    (g' : Gate MemoryDevice) (new : List Device.Event) : Prop extends Recorded g g' new where
  /-- The handles are different. -/
  nodup : a'.owned.Nodup
  /-- Nothing is lost, and nothing that was given back is kept. -/
  owned : ∀ h, h ∈ a'.owned ↔ (h ∈ a.owned ∨ h ∈ made new) ∧ h ∉ gone new
  /-- No other allocation is touched. -/
  named : ∀ h ∈ named new, h ∈ a.owned ∨ h ∈ made new

namespace Custody

theorem held (hc : Custody a g a' g' new) (ha : a.Held g) : a'.Held g' where
  sound := hc.sound
  unlimited := hc.unlimited ha.unlimited
  issued h hm := by
    rcases ((hc.owned h).mp hm).1 with hold | hmade
    · exact hc.issued h (ha.issued h hold)
    · exact hc.made_issued h hmade
  nodup := hc.nodup

/-- If the device knows all handles of the array, it does so afterwards. -/
theorem owned_live (hc : Custody a g a' g' new) (hl : ∀ h ∈ a.owned, g.Live h) :
    ∀ h ∈ a'.owned, g'.Live h := by
  intro h hm
  obtain ⟨hfrom, hkept⟩ := (hc.owned h).mp hm
  exact (hc.toChronicle.live h).mpr ⟨hfrom.imp_left (hl h), hkept⟩

theorem trans (h₁ : Custody a g a' g' new) (h₂ : Custody a' g' a'' g'' later) :
    Custody a g a'' g'' (new ++ later) where
  toRecorded := h₁.toRecorded.trans h₂.toRecorded
  nodup := h₂.nodup
  owned h := by
    have hapart := h₁.toChronicle.made_not_gone h₂.toChronicle (h := h)
    rw [h₂.owned, h₁.owned, Device.made_append, Device.gone_append, List.mem_append,
      List.mem_append]
    grind
  named h hm := by
    rw [Device.named_append, List.mem_append] at hm
    rw [Device.made_append, List.mem_append]
    rcases hm with hm | hm
    · exact (h₁.named h hm).imp_right .inl
    · rcases h₂.named h hm with hold | hmade
      · exact ((h₁.owned h).mp hold).1.imp_right .inl
      · exact .inr (.inr hmade)

/-- Nothing happens to the table, and the array keeps its handles. -/
theorem of_table_eq (ha : a.Held g) (htable : g'.inner.table = g.inner.table)
    (hleft : g'.allocatesLeft = g.allocatesLeft) (howned : a'.owned = a.owned)
    (hevents : g'.inner.events = g.inner.events ++ new) (hmade : made new = [])
    (hgone : gone new = []) (hnamed : ∀ h ∈ Device.named new, h ∈ a.owned) :
    Custody a g a' g' new where
  toRecorded := ⟨Chronicle.of_table_eq ha.sound htable hleft hmade hgone, hevents⟩
  nodup := howned ▸ ha.nodup
  owned h := by
    rw [howned, hmade, hgone]
    simp
  named h hm := .inl (hnamed h hm)

/-- Nothing is recorded. -/
theorem of_quiet (ha : a.Held g) (htable : g'.inner.table = g.inner.table)
    (hleft : g'.allocatesLeft = g.allocatesLeft) (howned : a'.owned = a.owned)
    (hevents : g'.inner.events = g.inner.events) : Custody a g a' g' [] := by
  refine of_table_eq ha htable hleft howned ?_ rfl rfl ?_
  · rw [hevents, List.append_nil]
  · intro h hm
    cases hm

theorem refl (ha : a.Held g) : Custody a g a g [] :=
  of_quiet ha rfl rfl rfl rfl

/-- One of the handles is given back. -/
theorem of_released (ha : a.Held g) (hl : g.Live h) (howned : a.owned.Perm (h :: a'.owned)) :
    Custody a g a' (afterRelease g h) [.released h] where
  toRecorded := Recorded.of_released ha.sound hl
  nodup := (List.nodup_cons.mp (howned.nodup_iff.mp ha.nodup)).2
  owned k := by
    have hnew : h ∉ a'.owned := (List.nodup_cons.mp (howned.nodup_iff.mp ha.nodup)).1
    have hmade : k ∉ made [.released h] := List.not_mem_nil
    have hgone : k ∈ gone [.released h] ↔ k = h := List.mem_singleton
    rw [or_iff_left hmade, hgone, howned.mem_iff, List.mem_cons]
    constructor
    · intro hk
      exact ⟨.inr hk, fun heq => hnew (heq ▸ hk)⟩
    · rintro ⟨hk | hk, hne⟩
      · exact absurd hk hne
      · exact hk
  named k hm := by
    obtain rfl := List.mem_singleton.mp hm
    exact .inl (howned.mem_iff.mpr List.mem_cons_self)

/-- An allocation is made. -/
theorem of_allocated (ha : a.Held g) (size : Nat) (usage : Usage)
    (howned : a'.owned = g.inner.table.nextHandle :: a.owned) :
    Custody a g a' (afterAllocate g size usage) [.allocated g.inner.table.nextHandle size] where
  toRecorded := Recorded.of_allocated ha.sound size usage
  nodup := by
    rw [howned, List.nodup_cons]
    refine ⟨?_, ha.nodup⟩
    intro hmem
    exact HandleTable.not_issued_nextHandle ha.sound (ha.issued _ hmem)
  owned k := by
    have hmade : k ∈ made [.allocated g.inner.table.nextHandle size] ↔
        k = g.inner.table.nextHandle := List.mem_singleton
    have hgone : k ∉ gone [.allocated g.inner.table.nextHandle size] := List.not_mem_nil
    rw [howned, and_iff_left hgone, hmade, List.mem_cons, or_comm]
  named k hm := .inr hm

/-- Bytes are copied into an allocation of the array. -/
theorem of_uploaded (ha : a.Held g) {al : Allocation} (hal : g.inner.table.find? h = some al)
    (hh : h ∈ a.owned) (offset : Nat) (bytes : Bytes) (howned : a'.owned = a.owned) :
    Custody a g a' { g with inner := g.inner.uploaded h al offset bytes }
      [.uploaded h offset bytes.length] where
  toRecorded := Recorded.of_uploaded ha.sound hal offset bytes
  nodup := howned ▸ ha.nodup
  owned k := by
    have hmade : k ∉ made [.uploaded h offset bytes.length] := List.not_mem_nil
    have hgone : k ∉ gone [.uploaded h offset bytes.length] := List.not_mem_nil
    rw [howned, or_iff_left hmade, and_iff_left hgone]
  named k hm := by
    obtain rfl := List.mem_singleton.mp hm
    exact .inl hh

end Custody

/-! ## Conduct of operations -/

/-- However the run from `(a, g)` ends, the array answers for its allocations, and if the device
knew them, no release was refused because a handle was not known. -/
structure Conduct (a : SyncedArray c) (g : Gate MemoryDevice)
    (r : Run (SyncedArray c × Gate MemoryDevice) β) : Prop where
  /-- The array answers for its allocations. -/
  custody : ∃ new, Custody a g r.state.1 r.state.2 new
  /-- Only known handles are given back. -/
  civil : (∀ h ∈ a.owned, g.Live h) → ∀ e ∈ r.log, ¬ UnknownRelease e

namespace Conduct

theorem of_eq {x : Op (SyncedArray c × Gate MemoryDevice) β} {o : Outcome β} {l : List Log.Entry}
    (hrun : x (a, g) = { outcome := o, state := (a', g'), log := l })
    (hc : Custody a g a' g' new)
    (hl : (∀ h ∈ a.owned, g.Live h) → ∀ e ∈ l, ¬ UnknownRelease e) : Conduct a g (x (a, g)) := by
  rw [hrun]
  exact ⟨⟨new, hc⟩, hl⟩

theorem of_silent {x : Op (SyncedArray c × Gate MemoryDevice) β} {o : Outcome β}
    (hrun : x (a, g) = { outcome := o, state := (a', g'), log := [] })
    (hc : Custody a g a' g' new) : Conduct a g (x (a, g)) :=
  of_eq hrun hc fun _ _ he => absurd he List.not_mem_nil

theorem of_entry {x : Op (SyncedArray c × Gate MemoryDevice) β} {o : Outcome β} {entry : Log.Entry}
    (hrun : x (a, g) = { outcome := o, state := (a', g'), log := [entry] })
    (hc : Custody a g a' g' new) (hentry : ¬ UnknownRelease entry) : Conduct a g (x (a, g)) := by
  refine of_eq hrun hc ?_
  intro _ e he
  obtain rfl := List.mem_singleton.mp he
  exact hentry

/-- A sequence is conducted well if its first part is and, where that ends well, its rest. -/
theorem bind {x : Op (SyncedArray c × Gate MemoryDevice) β}
    {f : β → Op (SyncedArray c × Gate MemoryDevice) γ} (ha : a.Held g)
    (hx : Conduct a g (x (a, g)))
    (hf : ∀ v a' g' l, x (a, g) = { outcome := .ok v, state := (a', g'), log := l } → a'.Held g' →
      Conduct a' g' (f v (a', g'))) :
    Conduct a g ((x >>= f) (a, g)) := by
  rcases hrun : x (a, g) with ⟨v | e | t, ⟨a', g'⟩, l⟩
  · rw [hrun] at hx
    obtain ⟨new, hfirst⟩ := hx.custody
    have hrest := hf v a' g' l hrun (hfirst.held ha)
    obtain ⟨later, hlater⟩ := hrest.custody
    rw [Op.bind_of_ok hrun]
    refine ⟨⟨new ++ later, hfirst.trans hlater⟩, ?_⟩
    intro hlive e he
    rcases List.mem_append.mp he with he | he
    · exact hx.civil hlive e he
    · exact hrest.civil (hfirst.owned_live hlive) e he
  · rw [Op.bind_of_error hrun]
    rw [hrun] at hx
    exact ⟨hx.custody, hx.civil⟩
  · rw [Op.bind_of_trapped hrun]
    rw [hrun] at hx
    exact ⟨hx.custody, hx.civil⟩

end Conduct

theorem conduct_pure (ha : a.Held g) (v : β) : Conduct a g ((pure v : Op _ β) (a, g)) :=
  ⟨⟨[], .refl ha⟩, fun _ _ he => absurd he List.not_mem_nil⟩

theorem not_unknownRelease_source {e : Log.Entry} (he : e.source = source) :
    ¬ UnknownRelease e := by
  apply MemoryDevice.not_unknownRelease_of_ne (.inl ?_)
  rw [he]
  decide

/-- A refusal of the array itself leaves everything as it was. -/
theorem conduct_raise (ha : a.Held g) (e : Error) :
    Conduct a g ((Op.raise source e : Op _ β) (a, g)) := by
  exact .of_entry (Op.raise_apply _ _ _) (.refl ha) (not_unknownRelease_source rfl)

theorem conduct_liveHandle (ha : a.Held g) : Conduct a g (liveHandle (a, g)) := by
  cases hh : a.handle with
  | none =>
    rw [liveHandle_of_none hh]
    exact conduct_raise ha _
  | some h =>
    exact .of_silent (liveHandle_of_some hh g) (.refl ha)

theorem eq_of_liveHandle_ok {l : List Log.Entry}
    (hrun : liveHandle (a, g) = { outcome := .ok h, state := (a', g'), log := l }) :
    a.handle = some h ∧ a' = a ∧ g' = g := by
  cases hh : a.handle with
  | none =>
    rw [liveHandle_of_none hh] at hrun
    cases hrun
  | some k =>
    rw [liveHandle_of_some hh] at hrun
    cases hrun
    exact ⟨rfl, rfl, rfl⟩

/-! ## Stages -/

theorem owned_of_pending (hp : a.pending = some p) :
    a.owned.Perm (p :: ({ a with pending := none } : SyncedArray c).owned) := by
  rw [owned, owned, hp]
  simp

theorem owned_of_handle (hh : a.handle = some h) :
    a.owned = h :: ({ a with handle := none } : SyncedArray c).owned := by
  rw [owned, owned, hh]
  rfl

theorem mem_owned_of_pending (hp : a.pending = some p) : p ∈ a.owned :=
  (owned_of_pending hp).mem_iff.mpr List.mem_cons_self

theorem mem_owned_of_handle (hh : a.handle = some h) : h ∈ a.owned := by
  rw [owned_of_handle hh]
  exact List.mem_cons_self

theorem custody_spentRelease (ha : a.Held g) : Custody a g a (spentRelease g) [] :=
  .of_quiet ha rfl rfl rfl rfl

theorem not_unknownRelease_releaseEntry (h : Handle) :
    ¬ UnknownRelease (MemoryDevice.releaseEntry h) :=
  MemoryDevice.not_unknownRelease_of_ne (.inr (by simp [MemoryDevice.releaseEntry]))

theorem conduct_releasePending (ha : a.Held g) : Conduct a g (releasePending (a, g)) := by
  obtain ⟨-, hrun⟩ | ⟨p, -, -, hrun⟩ | ⟨p, hp, -, hl, hrun⟩ | ⟨p, hp, -, hl, hrun⟩ :=
    releasePending_cases a g
  · exact .of_silent hrun (.refl ha)
  · exact .of_entry hrun (custody_spentRelease ha) (MemoryDevice.not_unknownRelease_releaseFault p)
  · refine .of_eq hrun (.refl ha) ?_
    intro hlive
    exact absurd (hlive p (mem_owned_of_pending hp)) hl
  · exact .of_entry hrun (.of_released ha hl (owned_of_pending hp))
      (not_unknownRelease_releaseEntry p)

/-- A granted release leaves nothing pending and keeps the allocation. -/
theorem of_releasePending_ok (hok : (releasePending (a, g)).outcome = .ok ()) :
    (releasePending (a, g)).state.1 = { a with pending := none } := by
  obtain ⟨hp, hrun⟩ | ⟨p, -, -, hrun⟩ | ⟨p, -, -, -, hrun⟩ | ⟨p, -, -, -, hrun⟩ :=
    releasePending_cases a g
  · rw [hrun, ← hp]
  · rw [hrun] at hok
    cases hok
  · rw [hrun] at hok
    cases hok
  · rw [hrun]

theorem owned_of_pending_none (hp : a.pending = none) : a.owned = a.handle.toList := by
  rw [owned, hp]
  exact List.append_nil _

/-- The old allocation moves to the pending place, which is free. -/
theorem custody_moved (ha : a.Held g) (hp : a.pending = none) :
    Custody a g (a.moved g.inner.table.nextHandle)
      (afterAllocate g a.host.storage.length a.usage)
      [.allocated g.inner.table.nextHandle a.host.storage.length] := by
  apply Custody.of_allocated ha
  rw [owned_of_pending_none hp]
  rfl

theorem conduct_syncAllocation (ha : a.Held g) (hp : a.pending = none) :
    Conduct a g (syncAllocation (a, g)) := by
  obtain ⟨-, hrun⟩ | ⟨-, -, hrun⟩ | ⟨-, -, hrun⟩ | ⟨-, -, -, hrun⟩ :=
    syncAllocation_cases ha.unlimited a
  · exact .of_silent hrun (.refl ha)
  · exact .of_entry hrun (.of_quiet ha rfl rfl rfl rfl)
      (MemoryDevice.not_unknownRelease_allocateFault _)
  · exact .of_silent hrun (.refl ha)
  · have hfirst := custody_moved ha hp
    have hrest := conduct_releasePending (hfirst.held ha)
    obtain ⟨later, hlater⟩ := hrest.custody
    rw [hrun]
    refine ⟨⟨_, hfirst.trans hlater⟩, ?_⟩
    intro hlive e he
    rcases List.mem_append.mp he with he | he
    · simp only [List.mem_cons, List.not_mem_nil, or_false] at he
      rcases he with rfl | rfl
      · exact MemoryDevice.not_unknownRelease_of_ne (.inr (by simp [MemoryDevice.allocateEntry]))
      · exact not_unknownRelease_source rfl
    · exact hrest.civil (hfirst.owned_live hlive) e he

theorem conduct_uploadMarked (ha : a.Held g) : Conduct a g (uploadMarked (a, g)) := by
  cases hh : a.handle with
  | none =>
    rw [uploadMarked, Op.bind_of_error ((liveHandle_of_none hh g).trans (Op.raise_apply _ _ _))]
    exact conduct_raise ha _
  | some h =>
    obtain ⟨-, hrun⟩ | ⟨s, -, -, t, hrun⟩ | ⟨s, -, -, -, hrun⟩ |
      ⟨s, -, -, -, reason, hstray, -, hrun⟩ | ⟨s, -, -, -, al, hal, hrun⟩ := uploadMarked_cases hh g
    · exact .of_silent hrun (.refl ha)
    · exact .of_silent hrun (.of_quiet ha rfl rfl rfl rfl)
    · exact .of_entry hrun (.of_quiet ha rfl rfl rfl rfl)
        (MemoryDevice.not_unknownRelease_uploadFault _ _)
    · exact .of_entry hrun (.refl ha)
        (MemoryDevice.not_unknownRelease_refusal 'U' hstray.head? (by decide))
    · exact .of_entry hrun (.of_uploaded ha hal (mem_owned_of_handle hh) _ _ rfl)
        (not_unknownRelease_source rfl)

theorem conduct_flush (ha : a.Held g) : Conduct a g (flush (a, g)) := by
  rw [flush_eq]
  refine (conduct_liveHandle ha).bind ha fun h a₁ g₁ _ hlive hheld => ?_
  obtain ⟨-, rfl, rfl⟩ := eq_of_liveHandle_ok hlive
  refine (conduct_releasePending hheld).bind hheld fun _ a₂ g₂ _ hrelease hheld₂ => ?_
  have hpending : a₂.pending = none := by
    have heq := of_releasePending_ok (congrArg Run.outcome hrelease)
    rw [hrelease] at heq
    rw [show a₂ = _ from heq]
  refine (conduct_syncAllocation hheld₂ hpending).bind hheld₂ fun _ a₃ g₃ _ _ hheld₃ => ?_
  exact conduct_uploadMarked hheld₃

/-! ## Calls -/

theorem conduct_bindCurrent (ha : a.Held g) : Conduct a g (bindCurrent (a, g)) := by
  cases hh : a.handle with
  | none =>
    rw [bindCurrent, Op.bind_of_error ((liveHandle_of_none hh g).trans (Op.raise_apply _ _ _))]
    exact conduct_raise ha _
  | some h =>
    obtain ⟨-, hrun⟩ | ⟨-, -, hrun⟩ | ⟨-, -, hrun⟩ := bindCurrent_cases hh g
    · exact .of_silent hrun (.of_quiet ha rfl rfl rfl rfl)
    · exact .of_entry hrun (.refl ha) (MemoryDevice.not_unknownRelease_bindUnknown h)
    · have hc : Custody a g a (afterBind g h) [.bound h] := by
        refine .of_table_eq ha rfl rfl rfl (MemoryDevice.events_record _ _) rfl rfl ?_
        intro k hm
        obtain rfl := List.mem_singleton.mp hm
        exact mem_owned_of_handle hh
      exact .of_entry hrun hc (not_unknownRelease_source rfl)

theorem conduct_bind (ha : a.Held g) : Conduct a g (SyncedArray.bind (a, g)) := by
  cases hh : a.handle with
  | none =>
    rw [bind_of_none hh]
    exact conduct_raise ha _
  | some h =>
    rw [bind_of_some hh]
    exact (conduct_flush ha).bind ha fun _ _ _ _ _ hheld => conduct_bindCurrent hheld

theorem conduct_unbind (ha : a.Held g) : Conduct a g (unbind (a, g)) := by
  cases hh : a.handle with
  | none =>
    rw [unbind, Op.bind_of_error ((liveHandle_of_none hh g).trans (Op.raise_apply _ _ _))]
    exact conduct_raise ha _
  | some h =>
    obtain ⟨-, hrun⟩ | ⟨-, hrun⟩ := unbind_cases hh g
    · exact .of_silent hrun (.of_quiet ha rfl rfl rfl rfl)
    · have hc : Custody a g a (afterUnbind g a.usage) [.unbound a.usage] := by
        refine .of_table_eq ha rfl rfl rfl (MemoryDevice.events_record _ _) rfl rfl ?_
        intro k hm
        cases hm
      exact .of_entry hrun hc (not_unknownRelease_source rfl)

theorem conduct_releaseHandle (ha : a.Held g) : Conduct a g (releaseHandle (a, g)) := by
  obtain ⟨-, hrun⟩ | ⟨h, -, -, hrun⟩ | ⟨h, hh, -, hl, hrun⟩ | ⟨h, hh, -, hl, hrun⟩ :=
    releaseHandle_cases a g
  · exact .of_silent hrun (.refl ha)
  · exact .of_entry hrun (custody_spentRelease ha) (MemoryDevice.not_unknownRelease_releaseFault h)
  · refine .of_eq hrun (.refl ha) ?_
    intro hlive
    exact absurd (hlive h (mem_owned_of_handle hh)) hl
  · refine .of_eq hrun (.of_released ha hl (.of_eq (owned_of_handle hh))) ?_
    intro _ e he
    simp only [List.mem_cons, List.not_mem_nil, or_false] at he
    rcases he with rfl | rfl
    · exact not_unknownRelease_releaseEntry h
    · exact not_unknownRelease_source rfl

theorem conduct_dispose (ha : a.Held g) : Conduct a g (dispose (a, g)) := by
  rw [dispose_eq]
  exact (conduct_releasePending ha).bind ha fun _ _ _ _ _ hheld => conduct_releaseHandle hheld

theorem conduct_performArray (ha : a.Held g) (call : ArrayCall α) :
    Conduct a g (performArray call (a, g)) := by
  cases hh : a.handle with
  | none =>
    rw [performArray_of_none hh]
    exact conduct_raise ha _
  | some h =>
    obtain ⟨marks, hafter⟩ := afterCall_eq call a (HostArray.perform call a.host)
    have howned : (afterCall call a (HostArray.perform call a.host)).owned = a.owned := by
      rw [hafter]
      rfl
    refine .of_eq (performArray_of_some hh call g) (.of_quiet ha rfl rfl howned rfl) ?_
    intro _ e he
    have hsource := (HostArray.reports_perform call a.host trivial).2 e he
    apply MemoryDevice.not_unknownRelease_of_ne (.inl ?_)
    rw [show e.source = HostArray.source from hsource]
    decide

/-- Every call is conducted well. -/
theorem conduct_perform (ha : a.Held g) (call : Call α) : Conduct a g (perform call (a, g)) := by
  cases call with
  | array call => exact conduct_performArray ha call
  | flush => exact (conduct_flush ha).bind ha fun _ _ _ _ _ hheld => conduct_pure hheld _
  | bind => exact (conduct_bind ha).bind ha fun _ _ _ _ _ hheld => conduct_pure hheld _
  | unbind => exact (conduct_unbind ha).bind ha fun _ _ _ _ _ hheld => conduct_pure hheld _
  | dispose => exact (conduct_dispose ha).bind ha fun _ _ _ _ _ hheld => conduct_pure hheld _

/-! ## The end of an array -/

/-- No release was refused. -/
def Unrefused (l : List Log.Entry) : Prop :=
  ∀ h, MemoryDevice.refusal (MemoryDevice.releaseFault h) ∉ l ∧
    MemoryDevice.refusal (MemoryDevice.releaseUnknown h) ∉ l

/-- The run from `g` ends well and touches the handles `hs` only.  It makes nothing; if the device
knows the handles, they are given back unless a release is refused, and that for another reason. -/
structure Surrender (hs : List Handle) (g : Gate MemoryDevice)
    (r : Run (SyncedArray c × Gate MemoryDevice) Unit) (new : List Device.Event) : Prop
    extends Recorded g r.state.2 new where
  /-- The run ends well. -/
  outcome : r.outcome = .ok ()
  /-- Nothing is made. -/
  made_nil : made new = []
  /-- No other allocation is touched. -/
  named : ∀ h ∈ named new, h ∈ hs
  /-- Only known handles are given back. -/
  civil : (∀ h ∈ hs, g.Live h) → ∀ e ∈ r.log, ¬ UnknownRelease e
  /-- Everything is given back. -/
  complete : (∀ h ∈ hs, g.Live h) → Unrefused r.log → ∀ h ∈ hs, h ∈ gone new

theorem not_unknownRelease_dropEntry (text : String) (e : Error) :
    ¬ UnknownRelease (dropEntry text e) :=
  not_unknownRelease_source rfl

/-- There is nothing to give back. -/
theorem surrender_nil (hg : g.inner.table.Sound) (b : SyncedArray c) :
    Surrender [] g { outcome := .ok (), state := (b, g), log := [] } [] where
  toRecorded := .refl hg
  outcome := rfl
  made_nil := rfl
  named h hm := by cases hm
  civil _ e he := by cases he
  complete _ _ h hm := by cases hm

/-- A fault strikes. -/
theorem surrender_of_fault (hg : g.inner.table.Sound) (b : SyncedArray c) (h : Handle)
    (text : String) :
    Surrender [h] g
      { outcome := .ok ()
        state := (b, spentRelease g)
        log := [MemoryDevice.refusal (MemoryDevice.releaseFault h),
          dropEntry text (.device (MemoryDevice.releaseFault h))] } [] where
  toRecorded := ⟨.of_table_eq hg rfl rfl rfl rfl, (List.append_nil _).symm⟩
  outcome := rfl
  made_nil := rfl
  named k hm := by cases hm
  civil _ e he := by
    simp only [List.mem_cons, List.not_mem_nil, or_false] at he
    rcases he with rfl | rfl
    · exact MemoryDevice.not_unknownRelease_releaseFault h
    · exact not_unknownRelease_dropEntry _ _
  complete _ hun := absurd List.mem_cons_self (hun h).1

/-- The device does not know the handle. -/
theorem surrender_of_unknown (hg : g.inner.table.Sound) (b : SyncedArray c) (hl : ¬ g.Live h)
    (l : List Log.Entry) :
    Surrender [h] g { outcome := .ok (), state := (b, g), log := l } [] where
  toRecorded := .refl hg
  outcome := rfl
  made_nil := rfl
  named k hm := by cases hm
  civil hlive := absurd (hlive h List.mem_cons_self) hl
  complete hlive := absurd (hlive h List.mem_cons_self) hl

/-- The device takes the allocation back. -/
theorem surrender_of_released (hg : g.inner.table.Sound) (b : SyncedArray c) (hl : g.Live h) :
    Surrender [h] g
      { outcome := .ok ()
        state := (b, afterRelease g h)
        log := [MemoryDevice.releaseEntry h] } [.released h] where
  toRecorded := .of_released hg hl
  outcome := rfl
  made_nil := rfl
  named k hm := hm
  civil _ e he := by
    obtain rfl := List.mem_singleton.mp he
    exact not_unknownRelease_releaseEntry h
  complete _ _ k hm := hm

theorem exists_surrender_dropPending (hg : g.inner.table.Sound) (a : SyncedArray c) :
    ∃ new, Surrender a.pending.toList g (dropPending a (a, g)) new := by
  obtain ⟨hp, hrun⟩ | ⟨p, hp, -, text, hrun⟩ | ⟨p, hp, -, hl, text, hrun⟩ | ⟨p, hp, -, hl, hrun⟩ :=
    dropPending_cases a g
  · rw [hp, hrun]
    exact ⟨_, surrender_nil hg _⟩
  · rw [hp, hrun]
    exact ⟨_, surrender_of_fault hg _ p text⟩
  · rw [hp, hrun]
    exact ⟨_, surrender_of_unknown hg _ hl _⟩
  · rw [hp, hrun]
    exact ⟨_, surrender_of_released hg _ hl⟩

theorem exists_surrender_dropHandle (hg : g.inner.table.Sound) (a b : SyncedArray c) :
    ∃ new, Surrender a.handle.toList g (dropHandle a (b, g)) new := by
  obtain ⟨hh, hrun⟩ | ⟨h, hh, -, text, hrun⟩ | ⟨h, hh, -, hl, text, hrun⟩ | ⟨h, hh, -, hl, hrun⟩ :=
    dropHandle_cases a b g
  · rw [hh, hrun]
    exact ⟨_, surrender_nil hg _⟩
  · rw [hh, hrun]
    exact ⟨_, surrender_of_fault hg _ h text⟩
  · rw [hh, hrun]
    exact ⟨_, surrender_of_unknown hg _ hl _⟩
  · rw [hh, hrun]
    exact ⟨_, surrender_of_released hg _ hl⟩

/-- One after the other, two runs surrender the handles of both. -/
theorem Surrender.bind {x y : Op (SyncedArray c × Gate MemoryDevice) Unit}
    {s : SyncedArray c × Gate MemoryDevice} {hs ks : List Handle} (h₁ : Surrender hs s.2 (x s) new)
    (h₂ : Surrender ks (x s).state.2 (y (x s).state) later) (hapart : ∀ h ∈ hs, h ∉ ks) :
    Surrender (hs ++ ks) s.2 ((x >>= fun _ => y) s) (new ++ later) := by
  have hrun : x s = { outcome := .ok (), state := (x s).state, log := (x s).log } := by
    rw [← h₁.outcome]
  have hlive : (∀ h ∈ hs ++ ks, s.2.Live h) → ∀ h ∈ ks, (x s).state.2.Live h := by
    intro hall h hm
    refine (h₁.live h).mpr ⟨.inl (hall h (List.mem_append_right _ hm)), ?_⟩
    intro hgone
    exact hapart h (h₁.named h (Device.named_of_gone hgone)) hm
  rw [Op.bind_of_ok hrun]
  refine
    { toRecorded := h₁.toRecorded.trans h₂.toRecorded
      outcome := h₂.outcome
      made_nil := ?_
      named := ?_
      civil := ?_
      complete := ?_ }
  · rw [Device.made_append, h₁.made_nil, h₂.made_nil]
    rfl
  · intro h hm
    rw [Device.named_append, List.mem_append] at hm
    exact List.mem_append.mpr (hm.imp (h₁.named h) (h₂.named h))
  · intro hall e he
    rcases List.mem_append.mp he with he | he
    · exact h₁.civil (fun h hm => hall h (List.mem_append_left _ hm)) e he
    · exact h₂.civil (hlive hall) e he
  · intro hall hun h hm
    rw [Device.gone_append, List.mem_append]
    have hfirst : Unrefused (x s).log := fun k =>
      ⟨fun hk => (hun k).1 (List.mem_append_left _ hk),
        fun hk => (hun k).2 (List.mem_append_left _ hk)⟩
    have hsecond : Unrefused (y (x s).state).log := fun k =>
      ⟨fun hk => (hun k).1 (List.mem_append_right _ hk),
        fun hk => (hun k).2 (List.mem_append_right _ hk)⟩
    rcases List.mem_append.mp hm with hm | hm
    · exact .inl (h₁.complete (fun k hk => hall k (List.mem_append_left _ hk)) hfirst h hm)
    · exact .inr (h₂.complete (hlive hall) hsecond h hm)

theorem Surrender.congr {hs ks : List Handle} {r : Run (SyncedArray c × Gate MemoryDevice) Unit}
    (hr : Surrender hs g r new) (hmem : ∀ h, h ∈ ks ↔ h ∈ hs) : Surrender ks g r new where
  toRecorded := hr.toRecorded
  outcome := hr.outcome
  made_nil := hr.made_nil
  named h hm := (hmem h).mpr (hr.named h hm)
  civil hlive := hr.civil fun h hm => hlive h ((hmem h).mpr hm)
  complete hlive hun h hm :=
    hr.complete (fun k hk => hlive k ((hmem k).mpr hk)) hun h ((hmem h).mp hm)

/-- At its end an array surrenders what it answers for. -/
theorem exists_surrender_drop (ha : a.Held g) : ∃ new, Surrender a.owned g (drop (a, g)) new := by
  obtain ⟨new, hfirst⟩ := exists_surrender_dropPending ha.sound a
  obtain ⟨later, hrest⟩ := exists_surrender_dropHandle hfirst.sound a (dropPending a (a, g)).state.1
  have hapart : ∀ h ∈ a.pending.toList, h ∉ a.handle.toList := by
    intro h hp hh
    exact (List.nodup_append.mp ha.nodup).2.2 h hh h hp rfl
  have hmem : ∀ h, h ∈ a.owned ↔ h ∈ a.pending.toList ++ a.handle.toList := by
    intro h
    rw [owned, List.mem_append, List.mem_append, or_comm]
  rw [drop_eq]
  exact ⟨new ++ later, (hfirst.bind hrest hapart).congr hmem⟩

end BufferSync.SyncedArray
