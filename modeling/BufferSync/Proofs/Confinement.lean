import BufferSync.Proofs.Retirement
import BufferSync.Proofs.Upkeep

/-!
# Arrays touch nothing but their own allocations

Requests past the arrays can release what an array holds, and then the slot can be taken by somebody
else while the array goes on to send bytes and releases to the handle that it knows.  None of these
arrives: whatever an action on an array does, it does to allocations that this array has made.

*Handles.*  What an array holds it has made (`mem_madeBy_of_mem_heldBy`), and an action reaches
nothing but what its array holds and what it makes (`chronicle_step`).

*The active allocation.*  Allocations, uploads and releases change it only by giving it back
(`MemoryDevice.Moored`), so for `flush`, `dispose` and `drop` the records say what became of it.
What is active was issued before (`ActiveIssued`), so a creation that fails and gives its new
allocation back does not touch it.
-/

namespace BufferSync

open Device (made gone named)
open Op

/-! ## Requests that neither bind nor unbind -/

namespace MemoryDevice

variable {d₀ d d' : MemoryDevice}

/-- Since `d₀` the active allocation is the same, or it was given back and there is none. -/
def Moored (d₀ d : MemoryDevice) : Prop :=
  ∃ new, d.events = d₀.events ++ new ∧
    (d.bound = d₀.bound ∨ ∃ h ∈ gone new, d₀.bound = some h ∧ d.bound = none)

theorem moored_refl (d : MemoryDevice) : Moored d d :=
  ⟨[], (List.append_nil _).symm, .inl rfl⟩

/-- An event that gives back the active allocation, or leaves it alone. -/
theorem Moored.record (hd : Moored d₀ d) {event : Device.Event}
    (hevents : d'.events = d.events ++ [event])
    (hbound : d'.bound = d.bound ∨ d.bound = event.gone? ∧ d'.bound = none) : Moored d₀ d' := by
  obtain ⟨new, hold, hmoored⟩ := hd
  refine ⟨new ++ [event], by rw [hevents, hold, List.append_assoc], ?_⟩
  rw [Device.gone_append]
  rcases hmoored with hsame | ⟨h, hgone, hfirst, hnone⟩
  · rcases hbound with hkept | ⟨hlost, hnone⟩
    · exact .inl (hkept.trans hsame)
    · cases hb : d₀.bound with
      | none => exact .inl hnone
      | some h =>
        have hmem : h ∈ gone [event] :=
          List.mem_filterMap.mpr ⟨event, List.mem_cons_self, by rw [← hlost, hsame, hb]⟩
        exact .inr ⟨h, List.mem_append_right _ hmem, rfl, hnone⟩
  · refine .inr ⟨h, List.mem_append_left _ hgone, hfirst, ?_⟩
    rcases hbound with hkept | ⟨-, hnone'⟩
    · exact hkept.trans hnone
    · exact hnone'

theorem keeps_moored_refuse {β : Type} (reason : String) :
    (refuse reason : Op MemoryDevice β).Keeps (Moored d₀) fun _ => True :=
  keeps_raise trivial

theorem keeps_moored_allocate (size : Nat) (usage : Usage) :
    (allocate size usage).Keeps (Moored d₀) fun _ => True := by
  refine keeps_state.bind fun d => Keeps.ite ?_ ?_
  · exact Keeps.bind (keeps_update fun _ hd => hd) fun _ => keeps_moored_refuse _
  · refine (keeps_roomFor _).bind fun _ => Keeps.bind ?_ fun _ =>
      (keeps_report trivial).bind fun _ => keeps_pure _
    exact keeps_update fun d hd => hd.record (events_record _ _) (.inl rfl)

theorem keeps_moored_upload (h : Handle) (offset : Nat) (bytes : Bytes) :
    (upload h offset bytes).Keeps (Moored d₀) fun _ => True := by
  refine keeps_state.bind fun d => Keeps.ite ?_ ?_
  · exact Keeps.bind (keeps_update fun _ hd => hd) fun _ => keeps_moored_refuse _
  · cases d.table.find? h with
    | none => exact keeps_moored_refuse _
    | some a =>
      refine Keeps.ite (keeps_moored_refuse _) (Keeps.ite (keeps_moored_refuse _) ?_)
      exact keeps_update fun d hd => hd.record (events_record _ _) (.inl rfl)

theorem keeps_moored_release (h : Handle) :
    (release h).Keeps (Moored d₀) fun _ => True := by
  refine keeps_state.bind fun d => Keeps.ite ?_ (Keeps.ite ?_ (keeps_moored_refuse _))
  · exact Keeps.bind (keeps_update fun _ hd => hd) fun _ => keeps_moored_refuse _
  · refine Keeps.bind (keeps_update fun d hd => hd.record (events_record _ _) ?_) fun _ =>
      keeps_report trivial
    by_cases hb : d.bound = some h
    · exact .inr ⟨hb, if_pos hb⟩
    · exact .inl (if_neg hb)

end MemoryDevice

namespace Gate

open MemoryDevice (Moored)

variable {d₀ : MemoryDevice} {β : Type}

theorem keeps_moored_pass {x : Op MemoryDevice β} (hx : x.Keeps (Moored d₀) fun _ => True) :
    (pass x).Keeps (fun g => Moored d₀ g.inner) fun _ => True :=
  hx.focus (fun _ hg => hg) fun _ _ _ hd => hd

theorem keeps_moored_allocate (size : Nat) (usage : Usage) :
    (allocate size usage : Op (Gate MemoryDevice) Handle).Keeps (fun g => Moored d₀ g.inner)
      fun _ => True := by
  have hpass : (pass (MemoryDevice.allocate size usage)).Keeps (fun g => Moored d₀ g.inner)
      fun _ => True := keeps_moored_pass (MemoryDevice.keeps_moored_allocate size usage)
  refine keeps_state.bind fun g => ?_
  rcases g.allocatesLeft with _ | _ | n
  · exact hpass
  · exact Keeps.bind (keeps_update fun _ hg => hg) fun _ =>
      keeps_of_silent (fun _ hg => hg) fun _ => rfl
  · exact Keeps.bind (keeps_update fun _ hg => hg) fun _ => hpass

end Gate

/-! ## Operations of an array -/

namespace SyncedArray

variable {α : Type} {c : Codec α} {d₀ : MemoryDevice}

open MemoryDevice (Moored moored_refl)

/-- Since `d₀` the device behind the gate has bound and unbound nothing. -/
def Tethered (d₀ : MemoryDevice) (p : SyncedArray c × Gate MemoryDevice) : Prop :=
  Moored d₀ p.2.inner

theorem steady_tethered :
    Steady False (Tethered d₀ : SyncedArray c × Gate MemoryDevice → Prop) where
  change _ _ _ _ hp := hp
  allocate size usage := sustains_onDevice (Gate.keeps_moored_allocate size usage)
  upload h offset bytes := sustains_onDevice
    (Gate.keeps_moored_pass (MemoryDevice.keeps_moored_upload h offset bytes))
  release h := sustains_onDevice
    (Gate.keeps_moored_pass (MemoryDevice.keeps_moored_release h))

/-- A bind that does not make the allocation of the array active is as good as a flush. -/
theorem tethered_bind (a : SyncedArray c) (g : Gate MemoryDevice) :
    Tethered g.inner (SyncedArray.bind (a, g)).state ∨
      ∃ h, (SyncedArray.bind (a, g)).state.1.handle = some h ∧
        (SyncedArray.bind (a, g)).state.2.inner.bound = some h := by
  cases hh : a.handle with
  | none =>
    rw [bind_of_none hh, Op.raise_apply]
    exact .inl (moored_refl _)
  | some h =>
    have hflush : Tethered g.inner (flush (a, g)).state :=
      (steady_tethered.flush (a, g) (moored_refl _)).1
    rw [bind_of_some hh]
    rcases hrun : flush (a, g) with ⟨⟨⟩ | e | t, ⟨a', g'⟩, l⟩
    · rw [hrun] at hflush
      rw [Op.bind_of_ok hrun, Run.state_after]
      cases hh' : a'.handle with
      | none =>
        have hrefused := (liveHandle_of_none hh' g').trans (Op.raise_apply _ _ _)
        rw [bindCurrent, Op.bind_of_error hrefused]
        exact .inl hflush
      | some h' =>
        obtain ⟨-, hbind⟩ | ⟨-, -, hbind⟩ | ⟨-, -, hbind⟩ := bindCurrent_cases hh' g'
        · rw [hbind]
          exact .inl hflush
        · rw [hbind]
          exact .inl hflush
        · rw [hbind]
          exact .inr ⟨h', hh', rfl⟩
    · rw [hrun] at hflush
      rw [Op.bind_of_error hrun]
      exact .inl hflush
    · rw [hrun] at hflush
      rw [Op.bind_of_trapped hrun]
      exact .inl hflush

/-- An unbind leaves the active allocation alone, unless it has the usage of the array. -/
theorem bound_unbind (a : SyncedArray c) (g : Gate MemoryDevice) :
    (unbind (a, g)).state.2.inner.bound = g.inner.bound ∨
      ∃ h, g.inner.bound = some h ∧ g.inner.usage? h = some a.usage ∧
        (unbind (a, g)).state.2.inner.bound = none := by
  cases hh : a.handle with
  | none =>
    rw [unbind, Op.bind_of_error ((liveHandle_of_none hh g).trans (Op.raise_apply _ _ _))]
    exact .inl rfl
  | some h =>
    obtain ⟨-, hrun⟩ | ⟨-, hrun⟩ := unbind_cases hh g
    · rw [hrun]
      exact .inl rfl
    · rw [hrun]
      by_cases husage : g.inner.bound.bind g.inner.usage? = some a.usage
      · obtain ⟨k, hk, hku⟩ := Option.bind_eq_some_iff.mp husage
        exact .inr ⟨k, hk, hku, if_pos husage⟩
      · exact .inl (if_neg husage)

/-- A call on the elements does not reach the device. -/
theorem gate_performArray (a : SyncedArray c) (g : Gate MemoryDevice) (call : ArrayCall α) :
    (performArray call (a, g)).state.2 = g := by
  cases hh : a.handle with
  | none => rw [performArray_of_none hh, Op.raise_apply]
  | some h => rw [performArray_of_some hh]

end SyncedArray

/-! ## Actions of a scene -/

namespace Scene

variable {s : Scene} {k : Nat} {h : Handle} {action : Action}

open MemoryDevice (Moored moored_refl)

/-- What an array has after an action, it had before or has made. -/
theorem heldBy_step_subset (hs : s.Sound) (hm : h ∈ (step action s).state.heldBy k) :
    h ∈ s.heldBy k ∨ h ∈ madeIn k s action := by
  by_cases habout : About k s action
  · cases action with
    | create f config vs =>
      obtain rfl : s.members.length = k := habout
      by_cases hok : (step (.create f config vs) s).outcome.isOk = true
      · rw [heldBy_step_create hs hok] at hm
        rw [madeIn, if_pos ⟨rfl, hok⟩]
        exact .inr hm
      · have hlength := length_step_create s f config vs
        rw [if_neg hok] at hlength
        rw [heldBy, member?, List.getElem?_eq_none (Nat.le_of_eq hlength)] at hm
        cases hm
    | drop i =>
      obtain rfl : i = k := habout
      cases hmember : s.member? i with
      | none =>
        rw [step_drop_absent hmember] at hm
        exact .inl hm
      | some m =>
        obtain ⟨new, hdrop⟩ := SyncedArray.exists_surrender_drop (hs.array_held hmember)
        rw [step_drop hmember hdrop.outcome, heldBy,
          member?_withMember_self (lt_of_member? hmember)] at hm
        cases hm
    | call i f call =>
      obtain rfl : i = k := habout
      rw [madeIn, if_pos rfl]
      exact ((mem_heldBy_step_call hs).mp hm).1
    | request _ | arm _ | forgetEvents => exact absurd habout id
  · rw [heldBy, member?_step hs habout] at hm
    exact .inl hm

/-- What an array has after a run, it had at the start or has made since. -/
theorem heldBy_run_subset (hs : s.Sound) {actions : List Action}
    (hm : h ∈ (run s actions).heldBy k) : h ∈ s.heldBy k ∨ h ∈ madeBy k s actions := by
  induction actions generalizing s with
  | nil => exact .inl hm
  | cons action rest ih =>
    rw [madeBy, List.mem_append, ← or_assoc]
    exact (ih (hs.step action) hm).imp_left (heldBy_step_subset hs)

/-- What an array holds in a scene that began empty, it has made. -/
theorem mem_madeBy_of_mem_heldBy {actions : List Action} (hm : h ∈ (run {} actions).heldBy k) :
    h ∈ madeBy k {} actions :=
  (heldBy_run_subset sound_empty hm).resolve_left List.not_mem_nil

/-! ## The active allocation -/

/-- The action is a flush, a bind, a disposal or a drop of array `k`. -/
def Releasing (k : Nat) : Action → Prop
  | .drop i => i = k
  | .call i _ .flush => i = k
  | .call i _ .bind => i = k
  | .call i _ .dispose => i = k
  | _ => False

/-- What an action on array `k` can do to the active allocation. -/
inductive Shift (k : Nat) (s : Scene) (action : Action) : Prop
  /-- Nothing. -/
  | kept (same : (step action s).state.device.bound = s.device.bound)
  /-- A bind makes the allocation of the array active. -/
  | bound {f : Format} {m : Member} {h : Handle} (asked : action = .call k f .bind)
      (member : (step action s).state.member? k = some m) (handle : m.array.handle = some h)
      (active : (step action s).state.device.bound = some h)
  /-- It was given back. -/
  | released {h : Handle} (asked : Releasing k action) (active : s.device.bound = some h)
      (gone : h ∈ gone (recorded action s)) (inactive : (step action s).state.device.bound = none)
  /-- An unbind ends it because it has the usage of the array. -/
  | unbound {m : Member} {h : Handle} (asked : action = .call k m.format .unbind)
      (member : s.member? k = some m) (active : s.device.bound = some h)
      (usage : s.device.usage? h = some m.array.usage)
      (inactive : (step action s).state.device.bound = none)

/-- An action that binds and unbinds nothing. -/
theorem Shift.of_moored (hasked : Releasing k action)
    (hmoored : Moored s.device (step action s).state.device) : Shift k s action := by
  obtain ⟨new, hevents, hkept | ⟨h, hgone, hactive, hnone⟩⟩ := hmoored
  · exact .kept hkept
  · exact .released hasked hactive (by rw [recorded_eq hevents]; exact hgone) hnone

theorem moored_drop (hs : s.Sound) (i : Nat) : Moored s.device (step (.drop i) s).state.device := by
  cases hm : s.member? i with
  | none =>
    rw [step_drop_absent hm]
    exact moored_refl _
  | some m =>
    obtain ⟨new, hdrop⟩ := SyncedArray.exists_surrender_drop (hs.array_held hm)
    rw [step_drop hm hdrop.outcome]
    exact (SyncedArray.steady_tethered.drop (m.array, s.gate) (moored_refl _)).1

theorem shift_call (i : Nat) (f : Format) (call : SyncedArray.Call f.Element) :
    Shift i s (.call i f call) := by
  obtain habsent | ⟨m, hm, rfl⟩ := step_call_cases s i f call
  · exact .kept (by rw [habsent])
  · have hdevice : (step (.call i m.format call) s).state.device =
        (SyncedArray.perform call (m.array, s.gate)).state.2.inner := by
      rw [device, gate_step_call hm]
    cases call with
    | array call =>
      refine .kept ?_
      rw [hdevice, SyncedArray.perform, SyncedArray.gate_performArray]
      rfl
    | flush =>
      refine .of_moored rfl ?_
      rw [hdevice, SyncedArray.perform, Op.map_apply]
      exact (SyncedArray.steady_tethered.flush (m.array, s.gate) (moored_refl _)).1
    | bind =>
      obtain hmoored | ⟨h, hhandle, hactive⟩ := SyncedArray.tethered_bind m.array s.gate
      · refine .of_moored rfl ?_
        rw [hdevice, SyncedArray.perform, Op.map_apply]
        exact hmoored
      · refine .bound rfl (member?_step_call hm .bind) (h := h) ?_ ?_
        · rw [SyncedArray.perform, Op.map_apply]
          exact hhandle
        · rw [hdevice, SyncedArray.perform, Op.map_apply]
          exact hactive
    | unbind =>
      obtain hkept | ⟨h, hactive, husage, hnone⟩ := SyncedArray.bound_unbind m.array s.gate
      · refine .kept ?_
        rw [hdevice, SyncedArray.perform, Op.map_apply]
        exact hkept
      · refine .unbound rfl hm hactive husage ?_
        rw [hdevice, SyncedArray.perform, Op.map_apply]
        exact hnone
    | dispose =>
      refine .of_moored rfl ?_
      rw [hdevice, SyncedArray.perform, Op.map_apply]
      exact (SyncedArray.steady_tethered.dispose (m.array, s.gate) (moored_refl _)).1

/-- The active allocation, if there is one, was issued by the device. -/
def ActiveIssued (s : Scene) : Prop :=
  ∀ h, s.device.bound = some h → s.device.table.Issued h

theorem moored_create (hs : s.Sound) (f : Format) (config : ArrayConfig) (vs : List f.Element) :
    Moored s.device (step (.create f config vs) s).state.device := by
  have hafter : Moored s.device (SyncedArray.afterCreate f.codec config s.gate).inner :=
    (moored_refl _).record (MemoryDevice.events_record _ _) (.inl rfl)
  rw [device, device, gate_step_create]
  obtain ⟨t, hrun⟩ | ⟨n, hrun⟩ | ⟨-, l, -, hrun | ⟨o, -, hrun⟩⟩ :=
    SyncedArray.ofList_cases (c := f.codec) hs.unlimited config vs
  · rw [hrun]
    exact moored_refl _
  · rw [hrun]
    exact moored_refl s.device
  · rw [hrun]
    exact hafter
  · rw [hrun]
    exact (SyncedArray.steady_tethered.drop (SyncedArray.filled config vs _, _) hafter).1

/-- A creation gives back nothing but what it has made, and that was never active. -/
theorem shift_create (hs : s.Sound) (hactive : s.ActiveIssued) (f : Format) (config : ArrayConfig)
    (vs : List f.Element) : Shift k s (.create f config vs) := by
  obtain ⟨hchronicle, hnamed⟩ := chronicle_step hs (.create f config vs)
  obtain ⟨new, hevents, hkept | ⟨h, hgone, hbound, -⟩⟩ := moored_create hs f config vs
  · exact .kept hkept
  · rw [← recorded_eq hevents] at hgone
    rcases hnamed h (Device.named_of_gone hgone) with hmade | hreach
    · exact absurd (hactive h hbound) (hchronicle.made_fresh h hmade)
    · cases hreach

/-- Whatever an action on an array does to the active allocation, it is one of four things. -/
theorem shift (hs : s.Sound) (hactive : s.ActiveIssued) (habout : About k s action) :
    Shift k s action := by
  cases action with
  | create f config vs => exact shift_create hs hactive f config vs
  | drop i =>
    obtain rfl : i = k := habout
    exact .of_moored rfl (moored_drop hs i)
  | call i f call =>
    obtain rfl : i = k := habout
    exact shift_call i f call
  | request _ | arm _ | forgetEvents => exact absurd habout id

/-- A granted request makes only a known allocation active. -/
theorem bound_of_granted {d d' : MemoryDevice} {r : Device.Request} {answer : Device.Answer}
    {event : Device.Event} (hgranted : d.Granted r answer event d') (hb : d'.bound = some h) :
    d.bound = some h ∨ d.table.Issued h := by
  cases hgranted with
  | allocate usage room => exact .inl hb
  | upload known room => exact .inl hb
  | bind known =>
    obtain rfl := Option.some.inj hb
    obtain ⟨b, hfind⟩ := HandleTable.contains_iff.mp known
    exact .inr (HandleTable.issued_of_find? hfind)
  | unbind usage =>
    left
    simp only [MemoryDevice.unboundFrom, MemoryDevice.record] at hb
    split at hb
    · cases hb
    · exact hb
  | release known =>
    left
    simp only [MemoryDevice.released, MemoryDevice.record] at hb
    split at hb
    · cases hb
    · exact hb

/-- What becomes active in an action was active before or is issued. -/
theorem ActiveIssued.step (hs : s.Sound) (hactive : s.ActiveIssued) (action : Action) :
    (step action s).state.ActiveIssued := by
  have hissued := (chronicle_step hs action).1.issued
  -- what was active stays issued
  have hstays : ∀ h, s.device.bound = some h → (Scene.step action s).state.device.table.Issued h :=
    fun h hb => hissued h (hactive h hb)
  have hshift : ∀ k, Shift k s action → (Scene.step action s).state.ActiveIssued := by
    rintro k (same | ⟨-, member, handle, active⟩ | ⟨-, -, -, inactive⟩ | ⟨-, -, -, -, inactive⟩)
    · rw [ActiveIssued, same]
      exact hstays
    · intro h hb
      obtain rfl := Option.some.inj (active.symm.trans hb)
      exact ((hs.step action).array_held member).issued _ (SyncedArray.mem_owned_of_handle handle)
    · rw [ActiveIssued, inactive]
      intro h hb
      cases hb
    · rw [ActiveIssued, inactive]
      intro h hb
      cases hb
  cases action with
  | create f config vs => exact hshift _ (shift hs hactive rfl)
  | drop i => exact hshift i (shift hs hactive rfl)
  | call i f call => exact hshift i (shift hs hactive rfl)
  | request r =>
    intro h hb
    have hserved := MemoryDevice.served r s.device
    have hdevice : (Scene.step (.request r) s).state.device =
        (Device.perform r s.device).state := by
      rw [step_request]
      rfl
    rw [hdevice] at hb
    generalize Device.perform r s.device = run at hserved hb
    cases hserved with
    | granted hgranted =>
      rcases bound_of_granted hgranted hb with hold | hknown
      · exact hstays h hold
      · exact hissued h hknown
    | refused same =>
      have hbound : _ = s.device.disarmed.bound := congrArg MemoryDevice.bound same
      exact hstays h (hbound.symm.trans hb)
    | trapped asked excess => exact hstays h hb
  | arm fault =>
    intro h hb
    refine hstays h ?_
    cases fault <;> exact hb
  | forgetEvents => exact hstays

theorem activeIssued_run (actions : List Action) : (run {} actions).ActiveIssued := by
  have hempty : ({} : Scene).ActiveIssued := by
    intro h hb
    cases hb
  exact (run_invariant (I := fun s => s.Sound ∧ s.ActiveIssued)
    (fun _ action hs _ => ⟨hs.1.step action, hs.2.step hs.1 action⟩) ⟨sound_empty, hempty⟩
    (along_of_forall (fun _ _ => trivial) {} actions)).2

/-! ## Confinement -/

/-- The two devices have the same under the handle. -/
structure SameAt (d d' : MemoryDevice) (h : Handle) : Prop where
  /-- The same bytes. -/
  contents : d'.contents? h = d.contents? h
  /-- The same size. -/
  size : d'.size? h = d.size? h
  /-- The same usage. -/
  usage : d'.usage? h = d.usage? h
  /-- Both know the handle, or none does. -/
  live : d'.table.contains h = d.table.contains h

theorem sameAt_of_find? {d d' : MemoryDevice} (hfind : d'.table.find? h = d.table.find? h) :
    SameAt d d' h := by
  have hcontents : d'.contents? h = d.contents? h := by
    rw [MemoryDevice.contents?, MemoryDevice.contents?, hfind]
  refine ⟨hcontents, ?_, ?_, ?_⟩
  · rw [MemoryDevice.size?, MemoryDevice.size?, hcontents]
  · rw [MemoryDevice.usage?, MemoryDevice.usage?, hfind]
  · rw [HandleTable.contains, HandleTable.contains, hfind]

/-- The action touches no allocations but `own`, and it does to the active one what an action on
array `k` can do. -/
structure Confined (own : List Handle) (k : Nat) (s : Scene) (action : Action) : Prop where
  /-- All records are about own allocations. -/
  named : ∀ h ∈ named (recorded action s), h ∈ own
  /-- All other allocations stay as they are. -/
  others : ∀ h, h ∉ own → SameAt s.device (step action s).state.device h
  /-- If another allocation is active now, it is for one of three reasons. -/
  active : Shift k s action

/-- In every run of a scene, whatever requests and faults it meets, an action on an array touches
only the allocations that this array has made, and no allocation is made twice. -/
theorem confined_to_own (actions : List Action) (action : Action) (k : Nat)
    (habout : About k (run {} actions) action) :
    Confined (madeBy k {} actions ++ made (recorded action (run {} actions))) k (run {} actions)
        action ∧
      (made (trace {} (actions ++ [action]))).Nodup := by
  have hs := sound_empty.run actions
  obtain ⟨hchronicle, hreached⟩ := chronicle_step hs action
  have hreach : ∀ h ∈ (run {} actions).reach action, h ∈ madeBy k {} actions := by
    intro h hm
    cases action with
    | create f config vs => cases hm
    | drop i =>
      obtain rfl : i = k := habout
      exact mem_madeBy_of_mem_heldBy hm
    | call i f call =>
      obtain rfl : i = k := habout
      exact mem_madeBy_of_mem_heldBy hm
    | request _ | arm _ | forgetEvents => exact absurd habout id
  have hnamed : ∀ h ∈ named (recorded action (run {} actions)),
      h ∈ madeBy k {} actions ++ made (recorded action (run {} actions)) := by
    intro h hm
    rw [List.mem_append]
    exact (hreached h hm).symm.imp_left (hreach h)
  refine ⟨⟨hnamed, ?_, shift hs (activeIssued_run actions) habout⟩, ?_⟩
  · intro h hother
    exact sameAt_of_find? (hchronicle.find?_eq fun hm => hother (hnamed h hm))
  · exact (chronicle_run sound_empty (actions ++ [action])).made_nodup

/-- The allocation of an array is released behind its back, and somebody else takes the slot and
makes the new allocation active. -/
def recycled : List Action :=
  [.create .uint8 { capacity := 1 } [7], .request (.release ⟨1, 1⟩),
    .request (.allocate 1 .vertex), .request (.bind ⟨1, 3⟩), .call 0 .uint8 (.array (.append 9))]

theorem confined_to_own_recycled :
    (run {} recycled).device.contents? ⟨1, 3⟩ = some [0] ∧
      (run {} recycled).handleOf 0 = ⟨1, 1⟩ ∧
      SameAt (run {} recycled).device
        (step (.call 0 .uint8 .flush) (run {} recycled)).state.device ⟨1, 3⟩ := by
  refine ⟨by decide, by decide, ?_⟩
  exact (confined_to_own recycled (.call 0 .uint8 .flush) 0 rfl).1.others ⟨1, 3⟩ (by decide)

end Scene

end BufferSync
