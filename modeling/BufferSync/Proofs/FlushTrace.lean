import BufferSync.Proofs.Retries

/-!
# What a flush records

Without faults a flush leaves the same records as the array itself calls for: a pending allocation
is given back, an array that has outgrown its allocation takes a new one and gives the old one back,
and one span is uploaded.  `flushTrace` reads these records off the array before the flush.  Which
span is uploaded behind a move depends on a fact about all runs: an array that has outgrown its
allocation has all its elements marked, so the move itself does not widen the marks.

After a flush or a bind nothing is left to do, and it stays so until the array is changed
(`Scene.Idle`).  Until then a bind records a binding and nothing else.
-/

namespace BufferSync

namespace SyncedArray

variable {α : Type} {c : Codec α} {a b : SyncedArray c} {g : Gate MemoryDevice} {h : Handle}
  {p : SyncedArray c × Gate MemoryDevice}

/-- What a flush without faults records, if the array is on the allocation `h` in the end. -/
def flushTrace (a : SyncedArray c) (h : Handle) : List Device.Event :=
  a.pending.toList.map .released ++
    if a.deviceCapacity < a.host.capacity then
      .allocated h (a.host.capacity * c.size) ::
        (a.handle.toList.map .released ++
          if 0 < a.host.count then [.uploaded h 0 (a.host.count * c.size)] else [])
    else
      a.marks.span.toList.map fun s =>
        .uploaded h (s.first * c.size) ((s.last - s.first + 1) * c.size)

/-- The array `b` is the array `a` with nothing left to do. -/
structure Flushed (a b : SyncedArray c) : Prop where
  /-- The host array is the same. -/
  host : b.host = a.host
  /-- Nothing is marked. -/
  span : b.marks.span = none
  /-- Nothing is pending. -/
  pending : b.pending = none
  /-- The allocation has grown with the host array. -/
  deviceCapacity : b.deviceCapacity = max a.deviceCapacity a.host.capacity
  /-- An allocation that was large enough is kept. -/
  handle : a.host.capacity ≤ a.deviceCapacity → b.handle = a.handle
  /-- The name is the same. -/
  label : b.label = a.label
  /-- The usage is the same. -/
  usage : b.usage = a.usage

/-! ## The stages -/

theorem relieved_fst (p : SyncedArray c × Gate MemoryDevice) :
    (relieved p).1 = { p.1 with pending := none } := by
  cases hp : p.1.pending with
  | none => rw [relieved_of_none hp, ← hp]
  | some h => simp [relieved, hp]

theorem events_relieved (p : SyncedArray c × Gate MemoryDevice) :
    (relieved p).2.inner.events = p.2.inner.events ++ p.1.pending.toList.map .released := by
  cases hp : p.1.pending with
  | none => simp [relieved_of_none hp]
  | some h => simp [relieved, hp, afterRelease]

theorem rehoused_fst (ho : p.1.outgrown = true) :
    (rehoused p).1 = { p.1.moved p.2.inner.table.nextHandle with pending := none } := by
  rw [rehoused, if_pos ho, relieved_fst]

theorem events_rehoused (ho : p.1.outgrown = true) :
    (rehoused p).2.inner.events = p.2.inner.events ++
      (.allocated p.2.inner.table.nextHandle p.1.host.storage.length ::
        p.1.handle.toList.map .released) := by
  rw [rehoused, if_pos ho, events_relieved]
  simp [afterAllocate, moved]

theorem delivered_fst (hready : Ready p) : (delivered p).1 = p.1.unmarked := by
  obtain ⟨h, hh⟩ := Option.isSome_iff_exists.mp hready.handle
  cases hs : p.1.marks.span with
  | none =>
    have hmarks : p.1.marks = .clean := congrArg Marks.mk hs
    rw [delivered_of_clean hs, unmarked, ← hmarks]
  | some s =>
    obtain ⟨al, hal, -⟩ := hready.synced.device h hh
    rw [delivered_of_marked hh hs hal]

/-- The upload takes the bytes of the marked span. -/
theorem events_delivered (hready : Ready p) (ho : p.1.outgrown = false)
    (hh : p.1.handle = some h) :
    (delivered p).2.inner.events = p.2.inner.events ++ p.1.marks.span.toList.map fun s =>
      .uploaded h (s.first * c.size) ((s.last - s.first + 1) * c.size) := by
  cases hs : p.1.marks.span with
  | none => simp [delivered_of_clean hs]
  | some s =>
    obtain ⟨al, hal, -⟩ := hready.synced.device h hh
    have hfits := hready.synced.spanFits ho hs
    have hlength := length_spanBytes hfits.inside.2
    have hsplit : s.first + (s.last - s.first + 1) = s.last + 1 := by
      have := s.first_le_last
      omega
    have hbytes : (p.1.spanBytes s).length = (s.last - s.first + 1) * c.size := by
      rw [← hsplit, Nat.add_mul] at hlength
      omega
    rw [delivered_of_marked hh hs hal]
    simp [afterUpload, hbytes]

/-! ## The whole flush -/

theorem Ready.relieved (hready : Ready p) (hcalm : calm p = p) : Ready (relieved p) := by
  obtain ⟨l, hrun⟩ := releasePending_of_calm hcalm hready.live
  exact (hready.releasePending hrun).1

theorem Ready.rehoused (hready : Ready p) (hcalm : calm p = p) (hp : p.1.pending = none) :
    Ready (rehoused p) ∧ (SyncedArray.rehoused p).1.outgrown = false := by
  obtain ⟨l, hrun⟩ := syncAllocation_of_calm hready hcalm hp
  obtain ⟨hready', -, ho⟩ := hready.syncAllocation hp hrun
  exact ⟨hready', ho⟩

/-- What a flush without faults makes of the array, and what it records. -/
theorem exists_settled (hready : Ready p) (hcalm : calm p = p) :
    ∃ h, Flushed p.1 (settled p).1 ∧ (settled p).1.handle = some h ∧
      (settled p).2.inner.events = p.2.inner.events ++ p.1.flushTrace h := by
  obtain ⟨old, hold⟩ := Option.isSome_iff_exists.mp hready.handle
  have hrelieved := relieved_fst p
  have hready₁ := hready.relieved hcalm
  have hp₁ : (relieved p).1.pending = none := by rw [hrelieved]
  have hcalm₁ : calm (relieved p) = relieved p := by rw [calm_relieved, hcalm]
  obtain ⟨hready₂, ho₂⟩ := hready₁.rehoused hcalm₁ hp₁
  have ho₁ : (relieved p).1.outgrown = p.1.outgrown := relieved_outgrown p
  rw [settled, delivered_fst hready₂]
  simp only [flushTrace]
  by_cases ho : p.1.deviceCapacity < p.1.host.capacity
  · -- the move marks all elements, and these were marked before
    rw [show p.1.outgrown = true from decide_eq_true ho] at ho₁
    have harray := rehoused_fst ho₁
    have hhandle : (rehoused (relieved p)).1.handle =
        some (relieved p).2.inner.table.nextHandle := by rw [harray]; rfl
    have hspan : (rehoused (relieved p)).1.marks.span = Span.firstOnes? p.1.host.count := by
      rw [harray, ← show (relieved p).1.host.count = p.1.host.count by rw [hrelieved]]
      exact hready₁.synced.wellMarked.below.full_mark?
    have hstorage : (relieved p).1.host.storage.length = p.1.host.capacity * c.size := by
      rw [hrelieved]
      exact hready.synced.packed.length_storage
    refine ⟨_, ?_, hhandle, ?_⟩
    · rw [harray, hrelieved]
      exact
        { host := rfl
          span := rfl
          pending := rfl
          deviceCapacity := (Nat.max_eq_right (Nat.le_of_lt ho)).symm
          handle := fun hle => absurd ho (Nat.not_lt.mpr hle)
          label := rfl
          usage := rfl }
    · rw [events_delivered hready₂ ho₂ hhandle, events_rehoused ho₁, events_relieved, hspan,
        hstorage, if_pos ho, show (relieved p).1.handle = p.1.handle by rw [hrelieved]]
      by_cases hcount : 0 < p.1.host.count
      · simp [Span.firstOnes?, Span.ofBounds?, hcount, Nat.sub_add_cancel hcount]
      · simp [Span.firstOnes?, Span.ofBounds?, hcount]
  · rw [show p.1.outgrown = false from decide_eq_false ho] at ho₁
    have hsame := rehoused_of_fits ho₁
    have hhandle : (relieved p).1.handle = some old := by rw [hrelieved, hold]
    rw [hsame] at hready₂ ho₂ ⊢
    refine ⟨old, ?_, hhandle, ?_⟩
    · rw [hrelieved]
      exact
        { host := rfl
          span := rfl
          pending := rfl
          deviceCapacity := (Nat.max_eq_left (Nat.not_lt.mp ho)).symm
          handle := fun _ => rfl
          label := rfl
          usage := rfl }
    · rw [events_delivered hready₂ ho₂ hhandle, events_relieved, if_neg ho, List.append_assoc,
        show (relieved p).1.marks = p.1.marks by rw [hrelieved]]

theorem Flushed.settled (hb : Flushed a b) : b.Settled := by
  refine ⟨hb.pending, ?_, hb.span⟩
  rw [outgrown, hb.deviceCapacity, hb.host]
  exact decide_eq_false (by omega)

/-! ## Calls that leave the array alone -/

/-- The call reads elements or brings them to the device. -/
def Call.Idle : Call α → Prop
  | .array (.get _) => True
  | .array .elements => True
  | .array (.walk _) => True
  | .array _ => False
  | .flush => True
  | .bind => True
  | .unbind => True
  | .dispose => False

theorem bind_of_settled (hh : a.handle = some h) (ha : a.Settled) (g : Gate MemoryDevice) :
    SyncedArray.bind (a, g) = bindCurrent (a, g) := by
  rw [bind_of_some hh, Op.bind_of_ok (flush_of_settled hh ha g)]
  rfl

/-- With nothing left to do, such a call leaves the array as it is. -/
theorem perform_idle (hh : a.handle = some h) (hpacked : a.host.Packed) (ha : a.Settled)
    {call : Call α} (hidle : call.Idle) (g : Gate MemoryDevice) :
    (perform call (a, g)).state.1 = a := by
  cases call with
  | array call =>
    rw [perform, performArray_of_some hh]
    cases call with
    | get i =>
      rw [HostArray.perform, Op.map_apply]
      by_cases hi : i < a.host.count
      · rw [HostArray.get_of_lt hpacked hi]
        rfl
      · rw [HostArray.get_of_ge (Nat.not_lt.mp hi)]
        rfl
    | elements =>
      rw [HostArray.perform, Op.map_apply, HostArray.elements_eq hpacked]
      rfl
    | walk steps =>
      rw [HostArray.perform, Op.map_apply, HostArray.walk_eq hpacked]
      rfl
    | set _ _ | append _ | appendAll _ | insert _ _ | removeAt _ | truncate _ | resize _ _ | clear
    | setCapacity _ | reserve _ => exact absurd hidle id
  | flush => rw [perform, Op.map_apply, flush_of_settled hh ha]
  | bind =>
    rw [perform, Op.map_apply, bind_of_settled hh ha]
    obtain ⟨-, hrun⟩ | ⟨-, -, hrun⟩ | ⟨-, -, hrun⟩ := bindCurrent_cases hh g
    · rw [hrun]
    · rw [hrun]
    · rw [hrun]
  | unbind =>
    rw [perform, Op.map_apply]
    obtain ⟨-, hrun⟩ | ⟨-, hrun⟩ := unbind_cases hh g
    · rw [hrun]
    · rw [hrun]
  | dispose => exact absurd hidle id

end SyncedArray

namespace Scene

variable {s : Scene} {k : Nat} {m : Member} {h : Handle} {action : Action}

open SyncedArray (calm settled rebound Ready Flushed)

/-! ## Until the array is changed -/

/-- The action neither changes array `k` nor ends it. -/
def Action.Leaves (k : Nat) : Action → Prop
  | .drop i => i ≠ k
  | .call i _ asked => i = k → asked.Idle
  | _ => True

/-- The action leaves array `k` alone and makes no request that names a handle of it. -/
structure Idle (k : Nat) (s : Scene) (action : Action) : Prop where
  /-- No request names a handle of the array. -/
  spares : Spares k s action
  /-- The array is not changed. -/
  leaves : action.Leaves k

/-- Array `k` is `m`, which is on the allocation `h` with nothing left to do. -/
structure Rests (k : Nat) (m : Member) (h : Handle) (s : Scene) : Prop where
  /-- Nobody has disturbed the array. -/
  undisturbed : s.Undisturbed k
  /-- The array is there. -/
  member : s.member? k = some m
  /-- It has an allocation. -/
  handle : m.array.handle = some h
  /-- Nothing is left to do. -/
  settled : m.array.Settled

theorem Rests.step (hs : Rests k m h s) (hidle : Idle k s action) :
    Rests k m h (step action s).state := by
  refine ⟨hs.undisturbed.step hidle.spares, ?_, hs.handle, hs.settled⟩
  have hleaves := hidle.leaves
  by_cases habout : About k s action
  · cases action with
    | create f config vs => exact absurd habout (Nat.ne_of_gt (lt_of_member? hs.member))
    | drop i => exact absurd habout hleaves
    | call i f asked =>
      obtain rfl : i = k := habout
      obtain habsent | ⟨m', hm', rfl⟩ := step_call_cases s i f asked
      · rw [habsent]
        exact hs.member
      · obtain rfl := Option.some.inj (hs.member.symm.trans hm')
        rw [member?_step_call hm', SyncedArray.perform_idle hs.handle
          (hs.undisturbed.synced m hs.member).packed hs.settled (hleaves rfl)]
    | request _ | arm _ | forgetEvents => exact absurd habout id
  · rw [member?_step hs.undisturbed.sound habout]
    exact hs.member

theorem Rests.run (hs : Rests k m h s) {rest : List Action} (hidle : Along (Idle k) s rest) :
    Rests k m h (run s rest) :=
  run_invariant (I := Rests k m h) (fun _ _ hs hidle => hs.step hidle) hs hidle

/-- At rest, a flush does nothing. -/
theorem Rests.step_flush (hs : Rests k m h s) :
    Scene.step (.call k m.format .flush) s =
      { outcome := .ok (.reply m.format .done), state := s, log := [] } := by
  rw [step_call hs.member, SyncedArray.perform, Op.map_apply,
    SyncedArray.flush_of_settled hs.handle hs.settled]
  exact congrArg (fun t => Run.mk _ t _) (placed_self hs.member)

/-- At rest, a bind makes the allocation the active one, unless the gate turns it away. -/
theorem Rests.gate_step_bind (hs : Rests k m h s) :
    (Scene.step (.call k m.format .bind) s).state.gate =
      if s.gate.refuseBind then { s.gate with refuseBind := false }
      else SyncedArray.afterBind s.gate h := by
  have hlive : s.gate.Live h :=
    hs.undisturbed.live h (mem_heldBy_of_handle hs.member hs.handle)
  rw [gate_step_call hs.member, SyncedArray.perform, Op.map_apply,
    SyncedArray.bind_of_settled hs.handle hs.settled]
  obtain ⟨hr, hrun⟩ | ⟨-, hl, -⟩ | ⟨hr, -, hrun⟩ :=
    SyncedArray.bindCurrent_cases hs.handle s.gate
  · rw [hrun, if_pos hr]
  · exact absurd hlive hl
  · rw [hrun, if_neg (by rw [hr]; exact Bool.false_ne_true)]

theorem Rests.recorded_bind (hs : Rests k m h s) :
    recorded (.call k m.format .bind) s = if s.gate.refuseBind then [] else [.bound h] := by
  apply recorded_eq
  rw [device, hs.gate_step_bind]
  cases s.gate.refuseBind with
  | false => exact MemoryDevice.events_boundTo _ _
  | true => exact (List.append_nil _).symm

theorem Rests.trace_binds (hs : Rests k m h s) (hpasses : s.gate.refuseBind = false) (n : Nat) :
    trace s (List.replicate n (.call k m.format .bind)) = List.replicate n (.bound h) := by
  induction n generalizing s with
  | zero => rfl
  | succ n ih =>
    have hidle : Idle k s (.call k m.format .bind) :=
      ⟨fun _ _ heq => (by cases heq), fun _ => trivial⟩
    have hrest : (Scene.step (.call k m.format .bind) s).state.gate.refuseBind = false := by
      rw [hs.gate_step_bind, hpasses]
      exact hpasses
    rw [List.replicate_succ, trace, hs.recorded_bind, hpasses, ih (hs.step hidle) hrest]
    rfl

/-! ## A flush or a bind of any array -/

/-- The call on array `k` ends well, leaves `m` in its place and has `new` recorded. -/
structure Traced (k : Nat) (m : Member) (call : SyncedArray.Call m.format.Element) (s : Scene)
    (new : List Device.Event) : Prop where
  /-- The call ends well. -/
  outcome : (step (.call k m.format call) s).outcome = .ok (.reply m.format .done)
  /-- The array that is left. -/
  member : (step (.call k m.format call) s).state.member? k = some m
  /-- The requests that were granted. -/
  events : (step (.call k m.format call) s).state.device.events = s.device.events ++ new
  /-- No fault is armed. -/
  calm : (step (.call k m.format call) s).state.gate.calm =
    (step (.call k m.format call) s).state.gate

theorem Traced.rests {call : SyncedArray.Call m.format.Element} {new : List Device.Event}
    (ht : Traced k m call s new) (hs : s.Undisturbed k) (hh : m.array.handle = some h)
    (hsettled : m.array.Settled) : Rests k m h (step (.call k m.format call) s).state :=
  ⟨hs.step (by rintro r h ⟨⟩), ht.member, hh, hsettled⟩

theorem traced_flush (hm : s.member? k = some m) (hready : Ready (m.array, s.gate))
    (hcalm : s.gate.calm = s.gate) {new : List Device.Event}
    (hevents : (settled (m.array, s.gate)).2.inner.events = s.device.events ++ new) :
    Traced k { m with array := (settled (m.array, s.gate)).1 } .flush s new := by
  have hcalm' : calm (settled (m.array, s.gate)) = settled (m.array, s.gate) := by
    rw [SyncedArray.calm_settled, calm, hcalm]
  obtain ⟨l, hrun⟩ := SyncedArray.flush_of_calm hready (Prod.ext rfl hcalm)
  have hperform : SyncedArray.perform .flush (m.array, s.gate) =
      { outcome := .ok .done, state := settled (m.array, s.gate), log := l } := by
    rw [SyncedArray.perform, Op.map_apply, hrun]
    rfl
  refine ⟨?_, ?_, ?_, ?_⟩
  · rw [step_call hm, hperform]
    rfl
  · rw [member?_step_call hm, hperform]
  · rw [device, gate_step_call hm, hperform]
    exact hevents
  · rw [gate_step_call hm, hperform]
    exact congrArg Prod.snd hcalm'

theorem traced_bind (hm : s.member? k = some m) (hready : Ready (m.array, s.gate))
    (hcalm : s.gate.calm = s.gate) (hh : (settled (m.array, s.gate)).1.handle = some h)
    {new : List Device.Event}
    (hevents : (settled (m.array, s.gate)).2.inner.events = s.device.events ++ new) :
    Traced k { m with array := (settled (m.array, s.gate)).1 } .bind s (new ++ [.bound h]) := by
  have hcalm' : calm (settled (m.array, s.gate)) = settled (m.array, s.gate) := by
    rw [SyncedArray.calm_settled, calm, hcalm]
  obtain ⟨l, hrun⟩ := SyncedArray.bind_of_calm hready (Prod.ext rfl hcalm)
  rw [SyncedArray.rebound_of_some hh] at hrun
  have hperform : SyncedArray.perform .bind (m.array, s.gate) =
      { outcome := .ok .done
        state := ((settled (m.array, s.gate)).1,
          SyncedArray.afterBind (settled (m.array, s.gate)).2 h)
        log := l } := by
    rw [SyncedArray.perform, Op.map_apply, hrun]
    rfl
  refine ⟨?_, ?_, ?_, ?_⟩
  · rw [step_call hm, hperform]
    rfl
  · rw [member?_step_call hm, hperform]
  · rw [device, gate_step_call hm, hperform, ← List.append_assoc, ← hevents]
    exact MemoryDevice.events_boundTo _ _
  · rw [gate_step_call hm, hperform]
    exact congrArg (fun p => SyncedArray.afterBind p.2 h) hcalm'

/-- Without faults, a flush of an array that nobody has tampered with ends well, leaves nothing to
do and has exactly its own trace recorded.  A bind does the same and has one binding recorded on
top.  As long as the array is left alone afterwards, a flush does nothing, and a bind has nothing
but the binding recorded, however often it is made. -/
theorem sync_traced (hs : Untampered k s) (hm : s.member? k = some m)
    (hlive : m.array.isDisposed = false) (hcalm : s.gate.calm = s.gate) :
    ∃ b h, Flushed m.array b ∧ b.handle = some h ∧
      Traced k { m with array := b } .flush s (m.array.flushTrace h) ∧
      Traced k { m with array := b } .bind s (m.array.flushTrace h ++ [.bound h]) ∧
      (∀ call, call = .flush ∨ call = .bind → ∀ rest t,
        run (step (.call k m.format call) s).state rest = t →
        Along (Idle k) (step (.call k m.format call) s).state rest →
          step (.call k m.format .flush) t =
              { outcome := .ok (.reply m.format .done), state := t, log := [] } ∧
            recorded (.call k m.format .bind) t =
              if t.gate.refuseBind then [] else [.bound h]) ∧
      ∀ n, trace (step (.call k m.format .bind) s).state
        (List.replicate n (.call k m.format .bind)) = List.replicate n (.bound h) := by
  have hready := hs.ready hm hlive
  obtain ⟨h, hflushed, hh, hevents⟩ := SyncedArray.exists_settled hready (Prod.ext rfl hcalm)
  have hflush := traced_flush hm hready hcalm hevents
  have hbind := traced_bind hm hready hcalm hh hevents
  obtain ⟨actions, hspares, rfl⟩ := hs
  have hundisturbed := (undisturbed_empty k).run hspares
  refine ⟨_, h, hflushed, hh, hflush, hbind, ?_, ?_⟩
  · rintro call hcall rest t rfl hidle
    have hrests : Rests k { m with array := (settled (m.array, (Scene.run {} actions).gate)).1 } h
        (step (.call k m.format call) (Scene.run {} actions)).state := by
      rcases hcall with rfl | rfl
      · exact hflush.rests hundisturbed hh hflushed.settled
      · exact hbind.rests hundisturbed hh hflushed.settled
    exact ⟨(hrests.run hidle).step_flush, (hrests.run hidle).recorded_bind⟩
  · intro n
    exact (hbind.rests hundisturbed hh hflushed.settled).trace_binds
      (congrArg Gate.refuseBind hbind.calm).symm n

/-- An array that has outgrown its allocation again while its first one is still pending. -/
def overdue : List Action :=
  [.create .uint8 { capacity := 1 } [7], .call 0 .uint8 (.array (.append 9)), .arm .release,
    .call 0 .uint8 .flush, .call 0 .uint8 (.array (.append 5))]

theorem sync_traced_overdue :
    Untampered 0 (Scene.run {} overdue) ∧
      ∃ h, (step (.call 0 .uint8 .bind) (Scene.run {} overdue)).state.device.events =
          (Scene.run {} overdue).device.events ++
            [.released ⟨1, 1⟩, .allocated h 4, .released ⟨2, 1⟩, .uploaded h 0 3, .bound h] ∧
        trace (step (.call 0 .uint8 .bind) (Scene.run {} overdue)).state
          (List.replicate 3 (.call 0 .uint8 .bind)) = [.bound h, .bound h, .bound h] := by
  have hs : Untampered 0 (Scene.run {} overdue) := by
    refine ⟨overdue, ⟨?_, ?_, ?_, ?_, ?_, trivial⟩, rfl⟩
    · rintro r h ⟨⟩
    · rintro r h ⟨⟩
    · rintro r h ⟨⟩
    · rintro r h ⟨⟩
    · rintro r h ⟨⟩
  obtain ⟨b, h, -, -, -, hbind, -, hbinds⟩ := sync_traced hs rfl rfl rfl
  exact ⟨hs, h, hbind.events, hbinds 3⟩

end Scene

end BufferSync
