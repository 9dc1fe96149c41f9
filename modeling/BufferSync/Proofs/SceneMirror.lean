import BufferSync.Proofs.ArrayMirror

/-!
# Arrays that share a device stay synced

Arrays of one scene work on one device, and requests can be made to the device past all of them.  An
array stays synced through all this as long as no such request names one of its handles
(`Scene.Spares`): actions on other arrays do not reach what it holds.

The main result follows an array through every run of a scene.
-/

namespace BufferSync.Scene

variable {s : Scene} {i k : Nat} {m : Member} {action : Action}

/-- The action is no request to the device that names a handle of array `k`. -/
def Spares (k : Nat) (s : Scene) (action : Action) : Prop :=
  ∀ r h, action = .request r → r.handle? = some h → h ∉ s.heldBy k

/-- Array `k`, if it is there, is synced, and the device knows its handles. -/
structure Undisturbed (s : Scene) (k : Nat) : Prop where
  /-- The scene is sound. -/
  sound : s.Sound
  /-- The array is synced. -/
  synced : ∀ m, s.member? k = some m → m.array.Synced s.gate
  /-- The device knows the handles of the array. -/
  live : ∀ h ∈ s.heldBy k, s.gate.Live h

theorem undisturbed_empty (k : Nat) : Undisturbed {} k where
  sound := sound_empty
  synced m hm := by cases hm
  live h hm := by cases hm

/-- An action that is not about an array and spares it does not reach what it holds. -/
theorem Spares.out_of_reach (hspares : Spares k s action) (hs : s.Sound)
    (habout : ¬ About k s action) : ∀ h ∈ s.heldBy k, h ∉ s.reach action := by
  intro h hh hr
  cases action with
  | create f config vs => cases hr
  | drop i => exact hs.not_mem_heldBy habout hh hr
  | call i f call => exact hs.not_mem_heldBy habout hh hr
  | request r => exact hspares r h rfl (Option.mem_toList.mp hr) hh
  | arm fault => cases hr
  | forgetEvents => cases hr

/-- Such an action leaves the allocation of the array as it is. -/
theorem Spares.find?_step (hspares : Spares k s action) (hs : s.Sound)
    (habout : ¬ About k s action) (hm : s.member? k = some m) {h : Handle}
    (hh : m.array.handle = some h) :
    (step action s).state.gate.inner.table.find? h = s.gate.inner.table.find? h := by
  have hheld := mem_heldBy_of_handle hm hh
  exact Scene.find?_step hs (mem_held_of_mem_heldBy hheld)
    (hspares.out_of_reach hs habout h hheld)

/-- An action that does not reach an array does not disturb it. -/
theorem Undisturbed.of_out_of_reach (hs : s.Undisturbed k)
    (hmember : (step action s).state.member? k = s.member? k)
    (hreach : ∀ h ∈ s.heldBy k, h ∉ s.reach action) : (step action s).state.Undisturbed k := by
  obtain ⟨hchronicle, hnamed⟩ := chronicle_step hs.sound action
  refine ⟨hs.sound.step action, ?_, ?_⟩
  · intro m hm
    rw [hmember] at hm
    refine (hs.synced m hm).frame ?_
    intro h hh
    have hheld := mem_heldBy_of_handle hm hh
    exact find?_step hs.sound (mem_held_of_mem_heldBy hheld) (hreach h hheld)
  · intro h hm
    have hheld : h ∈ s.heldBy k := by
      rw [heldBy, ← hmember]
      exact hm
    have hissued := hs.sound.issued h (mem_held_of_mem_heldBy hheld)
    refine (hchronicle.live h).mpr ⟨.inl (hs.live h hheld), ?_⟩
    intro hgone
    rcases hnamed h (Device.named_of_gone hgone) with hmade | hr
    · exact hchronicle.made_fresh h hmade hissued
    · exact hreach h hheld hr

/-- There is nothing to disturb. -/
theorem Undisturbed.of_absent (hs : s.Sound) (hmember : (step action s).state.member? k = none) :
    (step action s).state.Undisturbed k where
  sound := hs.step action
  synced m hm := by
    rw [hmember] at hm
    cases hm
  live h hm := by
    rw [heldBy, hmember] at hm
    cases hm

/-! ## Actions on the array itself -/

theorem Undisturbed.call_self (hs : s.Undisturbed k) (hm : s.member? k = some m)
    (call : SyncedArray.Call m.format.Element) :
    (step (.call k m.format call) s).state.Undisturbed k := by
  have hheld := hs.sound.array_held hm
  have hcall := SyncedArray.settles_perform m.format.lawful hheld (hs.synced m hm) call
  obtain ⟨new, hcustody⟩ := (SyncedArray.conduct_perform hheld call).custody
  have hmember := member?_step_call hm call
  refine ⟨hs.sound.step _, ?_, ?_⟩
  · intro m' hm'
    obtain rfl := Option.some.inj (hmember.symm.trans hm')
    rw [gate_step_call hm]
    exact hcall.synced
  · intro h hh
    rw [heldBy_of_member? hmember] at hh
    rw [gate_step_call hm]
    refine hcustody.owned_live ?_ h hh
    rw [← heldBy_of_member? hm]
    exact hs.live

theorem Undisturbed.drop_self (hs : s.Undisturbed k) :
    (step (.drop k) s).state.Undisturbed k := by
  cases hm : s.member? k with
  | none =>
    rw [step_drop_absent hm]
    exact hs
  | some m =>
    obtain ⟨new, hdrop⟩ := SyncedArray.exists_surrender_drop (hs.sound.array_held hm)
    apply Undisturbed.of_absent hs.sound
    rw [step_drop hm hdrop.outcome]
    exact member?_withMember_self (lt_of_member? hm) _ _

theorem Undisturbed.create_self (hs : s.Undisturbed s.members.length) (f : Format)
    (config : ArrayConfig) (vs : List f.Element) :
    (step (.create f config vs) s).state.Undisturbed s.members.length := by
  obtain ⟨-, habsent⟩ | ⟨hroom, hgate, hmember⟩ := step_create_cases hs.sound f config vs
  · exact Undisturbed.of_absent hs.sound habsent
  · refine ⟨hs.sound.step _, ?_, ?_⟩
    · intro m' hm'
      obtain rfl := Option.some.inj (hmember.symm.trans hm')
      rw [hgate]
      exact SyncedArray.synced_filled f.lawful hs.sound.table hroom vs
    · intro h hh
      rw [heldBy_of_member? hmember, SyncedArray.owned_filled] at hh
      obtain rfl := List.mem_singleton.mp hh
      rw [hgate]
      exact ((Recorded.of_allocated hs.sound.table _ _).live _).mpr
        ⟨.inr List.mem_cons_self, List.not_mem_nil⟩

/-- No action disturbs an array that it spares. -/
theorem Undisturbed.step (hs : s.Undisturbed k) (hspares : Spares k s action) :
    (step action s).state.Undisturbed k := by
  by_cases habout : About k s action
  · cases action with
    | create f config vs =>
      obtain rfl : s.members.length = k := habout
      exact hs.create_self f config vs
    | drop i =>
      obtain rfl : i = k := habout
      exact hs.drop_self
    | call i f call =>
      obtain rfl : i = k := habout
      obtain habsent | ⟨m, hm, rfl⟩ := step_call_cases s i f call
      · rw [habsent]
        exact hs
      · exact hs.call_self hm call
    | request _ | arm _ | forgetEvents => exact absurd habout id
  · exact hs.of_out_of_reach (member?_step hs.sound habout) (hspares.out_of_reach hs.sound habout)

theorem Undisturbed.run (hs : s.Undisturbed k) {actions : List Action}
    (hspares : Along (Spares k) s actions) : (run s actions).Undisturbed k :=
  run_invariant (I := fun s => s.Undisturbed k) (fun _ _ hs hspares => hs.step hspares) hs hspares

/-- In every run of a scene in which no request to the device names a handle of array `k`, the
device allocation of that array holds the bytes of every element that is not marked.  After a flush
or a bind that ends well it starts with the populated bytes of the host array. -/
theorem device_mirrors_host (k : Nat) (actions : List Action)
    (hspares : Along (Spares k) {} actions) (m : Member)
    (hm : (Scene.run {} actions).member? k = some m) :
    (∀ h, m.array.handle = some h →
      ∃ bytes, (Scene.run {} actions).device.contents? h = some bytes ∧
        ∀ i < m.array.host.count,
          (∃ span, m.array.marks.span = some span ∧ i ∈ span) ∨
            Region.slice bytes (i * m.format.codec.size) m.format.codec.size =
              Region.slice m.array.host.storage (i * m.format.codec.size) m.format.codec.size) ∧
    ∀ call : SyncedArray.Call m.format.Element, call = .flush ∨ call = .bind →
      (Scene.step (.call k m.format call) (Scene.run {} actions)).outcome.isOk = true →
      ∃ m' h bytes,
        (Scene.step (.call k m.format call) (Scene.run {} actions)).state.member? k = some m' ∧
        m'.array.handle = some h ∧
        (Scene.step (.call k m.format call) (Scene.run {} actions)).state.device.contents? h =
          some bytes ∧
        bytes.take (m'.array.host.count * m'.format.codec.size) = m'.array.host.populated := by
  have hs := (undisturbed_empty k).run hspares
  generalize Scene.run {} actions = s at *
  constructor
  · intro h hh
    obtain ⟨al, hal, hmirror⟩ := (hs.synced m hm).device h hh
    exact ⟨al.bytes, by rw [device, MemoryDevice.contents?, hal]; rfl, hmirror.cell⟩
  · intro call hsyncs hok
    have hheld := hs.sound.array_held hm
    have hcall := SyncedArray.settles_perform m.format.lawful hheld (hs.synced m hm) call
    rw [step_call hm] at hok
    have hsettled : (SyncedArray.perform call (m.array, s.gate)).state.1.handle.isSome = true ∧
        (SyncedArray.perform call (m.array, s.gate)).state.1.Settled := by
      cases ho : (SyncedArray.perform call (m.array, s.gate)).outcome with
      | ok v =>
        refine hcall.result v ho ?_
        rcases hsyncs with rfl | rfl
        · trivial
        · trivial
      | error e =>
        rw [ho] at hok
        cases hok
      | trapped t =>
        rw [ho] at hok
        cases hok
    obtain ⟨h, hh⟩ := Option.isSome_iff_exists.mp hsettled.1
    obtain ⟨al, hal, hmirror⟩ := hcall.synced.device h hh
    refine ⟨_, h, al.bytes, member?_step_call hm call, hh, ?_, hmirror.take_eq hsettled.2⟩
    rw [device, gate_step_call hm, MemoryDevice.contents?, hal]
    rfl

/-- An array whose upload was refused grows; meanwhile somebody else takes an allocation. -/
def interrupted : List Action :=
  [.create .uint8 { capacity := 1 } [7], .arm .upload, .call 0 .uint8 .flush,
    .call 0 .uint8 (.array (.append 9)), .request (.allocate 4 .vertex)]

theorem device_mirrors_host_interrupted :
    Along (Spares 0) {} interrupted ∧
      ∃ m h bytes,
        (Scene.step (.call 0 .uint8 .flush) (Scene.run {} interrupted)).state.member? 0 = some m ∧
        m.array.handle = some h ∧
        (Scene.step (.call 0 .uint8 .flush) (Scene.run {} interrupted)).state.device.contents? h =
          some bytes ∧
        bytes.take (m.array.host.count * m.format.codec.size) = m.array.host.populated := by
  have hspares : Along (Spares 0) {} interrupted := by
    refine ⟨?_, ?_, ?_, ?_, ?_, trivial⟩
    · rintro r h ⟨⟩
    · rintro r h ⟨⟩
    · rintro r h ⟨⟩
    · rintro r h ⟨⟩
    · rintro r h ⟨⟩ ⟨⟩
  exact ⟨hspares,
    (device_mirrors_host 0 interrupted hspares _ rfl).2 .flush (.inl rfl) (by decide)⟩

end BufferSync.Scene
