import BufferSync.Proofs.Interruptions
import BufferSync.Proofs.Retries
import BufferSync.Proofs.Upkeep
import Mathlib.Data.List.Induction

/-!
# Disposal is the end

A live array stays live through every call but a disposal that ends well: the other calls never take
its allocation away without putting a new one in its place (`isSome_handle_perform`), and a disposal
that is refused leaves the allocation with the array.  So an array is disposed exactly if a disposal
of it has ended well (`exists_dispose`).

From then on nothing happens to it.  A disposed array has nothing pending either, so every call is
refused before it reaches the host array or the device, a further disposal has nothing to give back,
and neither has the end of the array.  This holds on any device, so it cannot depend on what the
device would answer: the device is not asked.
-/

namespace BufferSync

namespace SyncedArray

variable {α : Type} {c : Codec α} {D : Type} [Device D] {a : SyncedArray c}

/-! ## Staying live -/

/-- No request and no change but a disposal takes the allocation from the array. -/
theorem steady_live : Steady True fun p : SyncedArray c × D => p.1.handle.isSome = true where
  change _ _ _ hhandle hp := hhandle trivial hp
  allocate _ _ _ hp := ⟨hp, fun _ _ => trivial⟩
  upload _ _ _ _ hp := ⟨hp, fun _ _ => trivial⟩
  release _ _ hp := ⟨hp, fun _ _ => trivial⟩

theorem isSome_handle_perform {p : SyncedArray c × D} (hp : p.1.handle.isSome = true)
    {call : Call α} (hcall : call ≠ .dispose) :
    (perform call p).state.1.handle.isSome = true := by
  cases call with
  | array call =>
    obtain ⟨h, hh⟩ := Option.isSome_iff_exists.mp hp
    obtain ⟨marks, heq⟩ := afterCall_eq call p.1 (HostArray.perform call p.1.host)
    rw [perform, show p = (p.1, p.2) from rfl, performArray_of_some hh, heq]
    exact hp
  | flush =>
    rw [perform, Op.map_apply]
    exact (steady_live.flush p hp).1
  | bind =>
    rw [perform, Op.map_apply]
    exact (steady_live.bind (fun _ _ hq => ⟨hq, fun _ _ => trivial⟩) p hp).1
  | unbind =>
    rw [perform, Op.map_apply]
    have hunbind : Sustains (fun q : SyncedArray c × D => q.1.handle.isSome = true) unbind :=
      sustains_unbind fun _ _ hq => ⟨hq, fun _ _ => trivial⟩
    exact (hunbind p hp).1
  | dispose => exact absurd rfl hcall

/-! ## Disposed arrays -/

theorem Coherent.released (ha : a.Coherent) (hdisposed : a.isDisposed = true) : a.Released := by
  have hh : a.handle = none := Option.isNone_iff_eq_none.mp hdisposed
  exact ⟨hh, ha.disposed hh⟩

end SyncedArray

namespace Scene

variable {s : Scene} {k : Nat} {m : Member}

/-! ## Being disposed -/

/-- A disposal of array `k` that ends well. -/
def DisposedBy (k : Nat) (f : Format) (s : Scene) : Prop :=
  (step (.call k f .dispose) s).outcome = .ok (.reply f .done)

theorem exists_member_of_disposedBy {f : Format} (hby : DisposedBy k f s) :
    ∃ a, s.member? k = some ⟨f, a⟩ := by
  obtain habsent | ⟨m, hm, rfl⟩ := step_call_cases s k f .dispose
  · rw [DisposedBy, habsent] at hby
    cases hby
  · exact ⟨m.array, hm⟩

/-- A disposed array was disposed before, or the action disposes of it and ends well. -/
theorem disposed_step (hs : s.Sound) (hcoherent : ∀ m, s.member? k = some m → m.array.Coherent)
    (action : Action) (hm : (step action s).state.member? k = some m)
    (hdisposed : m.array.handle = none) :
    s.member? k = some m ∨ action = .call k m.format .dispose ∧ DisposedBy k m.format s := by
  obtain hsame | hgone | ⟨f, config, vs, rfl, rfl, hmember⟩ | ⟨m', call, hm', rfl, hmember⟩ :=
    member?_step_cases hs action k
  · exact .inl (hsame.symm.trans hm)
  · rw [hgone] at hm
    cases hm
  · -- a new array has the allocation that was made for it
    obtain rfl := Option.some.inj (hmember.symm.trans hm)
    obtain ⟨host, marks, heq⟩ := SyncedArray.filled_eq (c := f.codec) config vs
      s.gate.inner.table.nextHandle
    rw [heq] at hdisposed
    cases hdisposed
  · obtain rfl := Option.some.inj (hmember.symm.trans hm)
    cases hh : m'.array.handle with
    | none =>
      have hreleased : m'.array.Released := ⟨hh, (hcoherent m' hm').disposed hh⟩
      rw [hreleased.perform_state]
      exact .inl hm'
    | some h =>
      have hlive : m'.array.handle.isSome = true := by rw [hh]; rfl
      by_cases hcall : call = .dispose
      · subst hcall
        refine .inr ⟨rfl, ?_⟩
        have hends := SyncedArray.ends_dispose (p := (m'.array, s.gate)) (hs.array_held hm')
          (hcoherent m' hm')
        rw [DisposedBy, step_call hm']
        rw [SyncedArray.perform, Op.map_apply] at hdisposed ⊢
        rcases hrun : SyncedArray.dispose (m'.array, s.gate) with ⟨⟨⟩ | e | t, p', l⟩
        · rfl
        · rw [hrun] at hends hdisposed
          have hkept : p'.1.handle = m'.array.handle := hends.2.1
          rw [show p'.1.handle = none from hdisposed, hh] at hkept
          cases hkept
        · rw [hrun] at hends
          exact False.elim hends
      · have hstill := SyncedArray.isSome_handle_perform (p := (m'.array, s.gate)) hlive hcall
        rw [show (SyncedArray.perform call (m'.array, s.gate)).state.1.handle = none from hdisposed]
          at hstill
        cases hstill

/-- A disposed array was disposed of by a call that ended well. -/
theorem exists_dispose (actions : List Action) (hm : (run {} actions).member? k = some m)
    (hdisposed : m.array.handle = none) :
    ∃ past later, actions = past ++ .call k m.format .dispose :: later ∧
      DisposedBy k m.format (run {} past) := by
  -- from the last action backwards: it was this one, or the array was disposed before
  induction actions using List.reverseRecOn with
  | nil => cases hm
  | append_singleton actions action ih =>
    rw [run_append] at hm
    obtain hbefore | ⟨rfl, hby⟩ := disposed_step (sound_empty.run actions)
      (coherent_run actions k) action hm hdisposed
    · obtain ⟨past, later, rfl, hby⟩ := ih hbefore
      exact ⟨past, later ++ [action], by simp, hby⟩
    · exact ⟨actions, [], rfl, hby⟩

/-! ## Staying disposed -/

/-- An action leaves a disposed array as it is or drops it. -/
theorem released_step (hs : s.Sound) (hm : s.member? k = some m) (hreleased : m.array.Released)
    (action : Action) :
    (step action s).state.member? k = some m ∨ Dropped k (step action s).state := by
  obtain hsame | hgone | ⟨f, config, vs, rfl, rfl, -⟩ | ⟨m', call, hm', rfl, hmember⟩ :=
    member?_step_cases hs action k
  · exact .inl (hsame.trans hm)
  · exact .inr ⟨Nat.lt_of_lt_of_le (lt_of_member? hm) (le_length_step hs action), hgone⟩
  · exact absurd (lt_of_member? hm) (Nat.lt_irrefl _)
  · obtain rfl := Option.some.inj (hm'.symm.trans hm)
    rw [hreleased.perform_state] at hmember
    exact .inl hmember

theorem released_run (hs : s.Sound) (hm : s.member? k = some m) (hreleased : m.array.Released)
    (actions : List Action) :
    (run s actions).member? k = some m ∨ Dropped k (run s actions) := by
  have hrun : (run s actions).Sound ∧
      ((run s actions).member? k = some m ∨ Dropped k (run s actions)) := by
    refine run_invariant (P := fun _ _ => True)
      (I := fun s => s.Sound ∧ (s.member? k = some m ∨ Dropped k s)) ?_ ⟨hs, .inl hm⟩
      (along_of_forall (fun _ _ => trivial) _ _)
    rintro s action ⟨hs, hm | hdropped⟩ -
    · exact ⟨hs.step action, released_step hs hm hreleased action⟩
    · exact ⟨hs.step action, .inr (hdropped.step hs action)⟩
  exact hrun.2

/-- Since a disposal that ended well an array has been what it was before, without allocations. -/
theorem array_since_dispose {f : Format} {a b : SyncedArray f.codec} {past later : List Action}
    (hpast : (run {} past).member? k = some ⟨f, a⟩) (hby : DisposedBy k f (run {} past))
    (hm : (run {} (past ++ .call k f .dispose :: later)).member? k = some ⟨f, b⟩) :
    b = { a with handle := none, pending := none } := by
  have hok : (SyncedArray.perform .dispose (a, (run {} past).gate) :
      Run _ (Reply f.Element)).outcome.isOk = true := by
    have hcall := step_call hpast .dispose
    rw [DisposedBy, hcall] at hby
    obtain ⟨v, hv, -⟩ := Outcome.exists_of_map hby
    rw [hv]
    rfl
  have hmember := member?_step_call hpast .dispose
  rw [SyncedArray.array_of_dispose_ok hok] at hmember
  rw [run_append, run_cons] at hm
  obtain hsame | hdropped := released_run ((sound_empty.run past).step _) hmember ⟨rfl, rfl⟩ later
  · cases Option.some.inj (hsame.symm.trans hm)
    rfl
  · rw [hdropped.2] at hm
    cases hm

/-- A call on a disposed array leaves the scene as it is. -/
theorem step_call_released (hm : s.member? k = some m) (hreleased : m.array.Released)
    (call : SyncedArray.Call m.format.Element) :
    step (.call k m.format call) s =
      { outcome := (SyncedArray.refused m.array.label call).map (.reply m.format)
        state := s
        log := SyncedArray.refusedLog m.array.label call } := by
  rw [step_call hm, hreleased.perform_eq]
  exact congrArg (fun s' => Run.mk _ s' _) (placed_self hm)

/-- The end of a disposed array is not noticed by the device. -/
theorem step_drop_released (hm : s.member? k = some m) (hreleased : m.array.Released) :
    step (.drop k) s =
      { outcome := .ok .done, state := s.withMember k none s.gate, log := [] } := by
  have hdrop := hreleased.drop_eq s.gate
  rw [step_drop hm (by rw [hdrop]), hdrop]

/-- In every run, whatever faults strike and whatever else is done to the device and to other
arrays: an array is disposed if and only if a disposal of it has ended well.  Since then it has been
the array that it was before that call, without its allocations.  Every call on it is refused, with
its label, except for a disposal, which ends well; no call changes anything in the scene, and the
end of the array does not touch the device.  All this is so on any other device as well, which is
not asked for anything. -/
theorem disposed_for_good (actions : List Action) (k : Nat)
    (hm : (run {} actions).member? k = some m) :
    (m.array.isDisposed = true ↔
      ∃ past later, actions = past ++ .call k m.format .dispose :: later ∧
        DisposedBy k m.format (run {} past)) ∧
    (∀ past later, ∀ a : SyncedArray m.format.codec,
      actions = past ++ .call k m.format .dispose :: later →
      (run {} past).member? k = some ⟨m.format, a⟩ → DisposedBy k m.format (run {} past) →
      m.array = { a with handle := none, pending := none }) ∧
    (m.array.isDisposed = true →
      (∀ call : SyncedArray.Call m.format.Element,
        step (.call k m.format call) (run {} actions) =
          { outcome := (SyncedArray.refused m.array.label call).map (.reply m.format)
            state := run {} actions
            log := SyncedArray.refusedLog m.array.label call }) ∧
      step (.drop k) (run {} actions) =
        { outcome := .ok .done
          state := (run {} actions).withMember k none (run {} actions).gate
          log := [] } ∧
      ∀ (D : Type) [Device D] (d : D),
        (∀ call : SyncedArray.Call m.format.Element,
          SyncedArray.perform call (m.array, d) =
            { outcome := SyncedArray.refused m.array.label call
              state := (m.array, d)
              log := SyncedArray.refusedLog m.array.label call }) ∧
        SyncedArray.drop (m.array, d) =
          { outcome := .ok (), state := (m.array, d), log := [] }) := by
  have hcoherent := coherent_run actions k m hm
  refine ⟨⟨?_, ?_⟩, ?_, ?_⟩
  · intro hdisposed
    exact exists_dispose actions hm (hcoherent.released hdisposed).handle
  · rintro ⟨past, later, rfl, hby⟩
    obtain ⟨a, hpast⟩ := exists_member_of_disposedBy hby
    rw [array_since_dispose hpast hby hm]
    rfl
  · rintro past later a rfl hpast hby
    exact array_since_dispose hpast hby hm
  · intro hdisposed
    have hreleased := hcoherent.released hdisposed
    exact ⟨step_call_released hm hreleased, step_drop_released hm hreleased,
      fun D _ d => ⟨fun call => hreleased.perform_eq call d, hreleased.drop_eq d⟩⟩

/-- An array that has moved to a larger allocation, whose disposal is refused twice: the first time
the old allocation is not taken back, the second time its own. -/
def refusedTwice : List Action :=
  [.create .uint8 { label := "points", capacity := 1 } [7], .call 0 .uint8 (.array (.append 9)),
    .arm .release, .call 0 .uint8 .flush, .arm .release, .call 0 .uint8 .dispose,
    .call 0 .uint8 .flush, .arm .release, .call 0 .uint8 .dispose, .call 0 .uint8 .dispose,
    .arm .release, .call 0 .uint8 (.array .clear)]

theorem disposed_for_good_refused_twice :
    (run {} refusedTwice).device.faults.release = true ∧
    ∃ m, (run {} refusedTwice).member? 0 = some m ∧ m.array.isDisposed = true ∧
      m.array.host.count = 2 ∧
      (∀ call : SyncedArray.Call m.format.Element,
        step (.call 0 m.format call) (run {} refusedTwice) =
          { outcome := (SyncedArray.refused "points" call).map (.reply m.format)
            state := run {} refusedTwice
            log := SyncedArray.refusedLog "points" call }) ∧
      (step (.drop 0) (run {} refusedTwice)).state.gate = (run {} refusedTwice).gate := by
  have hstate : ((run {} refusedTwice).member? 0).map
      (fun m => (m.array.isDisposed, m.array.host.count, m.array.label)) =
        some (true, 2, "points") := by
    decide +kernel
  obtain ⟨m, hm, hvalues⟩ := Option.map_eq_some_iff.mp hstate
  obtain ⟨hdisposed, hrest⟩ := Prod.mk.inj hvalues
  obtain ⟨hcount, hlabel⟩ := Prod.mk.inj hrest
  obtain ⟨hcalls, hdrop, -⟩ := (disposed_for_good refusedTwice 0 hm).2.2 hdisposed
  rw [hlabel] at hcalls
  refine ⟨by decide +kernel, m, hm, hdisposed, hcount, hcalls, ?_⟩
  rw [hdrop]
  rfl

end Scene

end BufferSync
