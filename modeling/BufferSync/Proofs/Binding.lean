import BufferSync.Proofs.Disposal

/-!
# Binding

A binding looks first whether there is anything to flush: marks, an outgrown allocation, or a
replaced allocation that the device did not take back.  If there is none of these, it goes on
without a flush.  This is a shortcut and nothing else: such a flush asks nothing of the device, and
ends well.  A binding therefore is a flush and then, if that ended well, a request to bind the
allocation that the array has by now.
-/

namespace BufferSync.SyncedArray

variable {α : Type} {c : Codec α} {D : Type} [Device D]

/-- Has the allocation of the array bound, if there is one, and reports it. -/
def bindHeld : Op (SyncedArray c × D) Unit := do
  let a ← self
  match a.handle with
  | some h =>
    onDevice (Device.bind h)
    Op.report (a.bindEntry h)
  | none => pure ()

/-- Flushes in any case and, if that ends well, has the allocation bound. -/
def flushAndBind : Op (SyncedArray c × D) Unit := do
  flush
  bindHeld

/-- A flush that ends well leaves the array with an allocation to bind. -/
theorem isSome_handle_of_flush {p : SyncedArray c × D} (hok : (flush p).outcome.isOk = true) :
    (flush p).state.1.handle.isSome = true := by
  cases hh : p.1.handle with
  | none =>
    have hrun : flush p = Op.raise source (.useAfterDispose p.1.label) p := by
      rw [flush, Op.bind_of_error (liveHandle_of_none hh p.2)]
      rfl
    rw [hrun] at hok
    cases hok
  | some h => exact (steady_live.flush p (by simp [hh])).1

theorem bindCurrent_eq_bindHeld {a : SyncedArray c} (ha : a.handle.isSome = true) (d : D) :
    bindCurrent (a, d) = bindHeld (a, d) := by
  obtain ⟨h, hh⟩ := Option.isSome_iff_exists.mp ha
  rw [bindCurrent, Op.bind_of_ok (liveHandle_of_some hh d), bindHeld, self_bind]
  simp only [hh]
  rfl

/-- A binding is the same operation as a flush in any case with a binding behind it.

From every array, disposed or not and whatever it holds, and every state of any device, both have
the same outcome, leave the same array and the same device, records included, and report the same
entries.  Behind a flush that ended well there always is an allocation to bind. -/
theorem bind_eq_flushAndBind :
    (SyncedArray.bind : Op (SyncedArray c × D) Unit) = flushAndBind ∧
      ∀ p : SyncedArray c × D, (flush p).outcome.isOk = true →
        (flush p).state.1.handle.isSome = true := by
  refine ⟨?_, fun p => isSome_handle_of_flush⟩
  funext ⟨a, d⟩
  cases hh : a.handle with
  | none =>
    rw [bind_of_none hh, flushAndBind, flush, Op.bind_assoc,
      Op.bind_of_error (liveHandle_of_none hh d)]
    rfl
  | some h =>
    rw [bind_of_some hh, flushAndBind]
    apply Op.bind_congr_of_ok
    intro _ hflush
    have hheld : (flush (a, d)).state.1.handle.isSome = true :=
      isSome_handle_of_flush (by rw [hflush]; rfl)
    exact bindCurrent_eq_bindHeld hheld _

/-- An array without marks whose replaced allocation is still pending.  The flush in front of the
binding has that allocation taken back. -/
theorem bind_eq_flushAndBind_pending :
    let d := ((do
      let _ ← MemoryDevice.allocate 2 .vertex
      MemoryDevice.allocate 4 .vertex : Op MemoryDevice Handle) {}).state
    let a : SyncedArray Format.uint8Codec :=
      { host := { storage := [1, 2, 3, 0], capacity := 4, count := 3 }
        marks := .clean
        handle := some ⟨2, 1⟩
        pending := some ⟨1, 1⟩
        deviceCapacity := 4
        label := "bytes"
        usage := .vertex }
    SyncedArray.bind (a, d) = flushAndBind (a, d) ∧
      (flush (a, d)).state.1.handle.isSome = true ∧
      (flushAndBind (a, d)).state.2.events =
        d.events ++ [.released ⟨1, 1⟩, .bound ⟨2, 1⟩] := by
  intro d a
  obtain ⟨hbind, hheld⟩ := bind_eq_flushAndBind (c := Format.uint8Codec) (D := MemoryDevice)
  exact ⟨congrFun hbind _, hheld _ (by decide), by decide⟩

end BufferSync.SyncedArray
