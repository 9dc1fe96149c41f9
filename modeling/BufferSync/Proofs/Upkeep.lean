import BufferSync.Proofs.ElementCalls

/-!
# What the operations of a synced array keep

The operations that reach the device are made of requests to it and of changes to the array that
leave the host array alone.  A property of the array and its device that survives each of these
survives the operations, however they end.  `Steady` lists what has to be shown; the device can be
any.

Only `dispose` and `drop` take the allocation from the array.  A property that depends on the
allocation is kept by the other operations: this is `Steady live` where `live` holds.

A first property of this kind is that the host array is the same and the array is not disposed
(`Anchored`).  So the host array behind a call is the one before it, or what a call on the elements
made of it (`host_perform_cases`).
-/

namespace BufferSync.SyncedArray

variable {α : Type} {c : Codec α} {D β : Type} {live : Prop} {I : SyncedArray c × D → Prop}
  {b : HostArray c}

open Op

/-- The operation keeps the property, whatever it reports. -/
def Sustains (I : SyncedArray c × D → Prop) (x : Op (SyncedArray c × D) β) : Prop :=
  x.Keeps I fun _ => True

/-- An operation on the device keeps what is said about the device alone. -/
theorem sustains_onDevice {J : D → Prop} {x : Op D β} (hx : x.Keeps J fun _ => True) :
    Sustains (fun p : SyncedArray c × D => J p.2) (onDevice x) :=
  hx.focus (fun _ hp => hp) fun _ _ _ hd => hd

theorem sustains_self : Sustains I (self : Op (SyncedArray c × D) _) :=
  keeps_state.bind fun _ => keeps_pure _

theorem sustains_liveHandle : Sustains I (liveHandle : Op (SyncedArray c × D) _) := by
  refine Keeps.bind sustains_self fun a => ?_
  cases a.handle with
  | some h => exact keeps_pure h
  | none => exact keeps_raise trivial

/-- The host array is `b`, and the array is not disposed, as long as `live` holds. -/
def Anchored (live : Prop) (b : HostArray c) (p : SyncedArray c × D) : Prop :=
  p.1.host = b ∧ (live → p.1.handle.isSome = true)

/-- The operation leaves the host array alone, and if `live` holds it does not dispose of the
array. -/
def Anchors (live : Prop) (b : HostArray c) (x : Op (SyncedArray c × D) β) : Prop :=
  x.Keeps (Anchored live b) fun _ => True

theorem anchors_onDevice (x : Op D β) : Anchors live b (onDevice x) :=
  keeps_focus x fun _ _ hp => hp

variable [Device D]

/-- The last stage of a flush keeps what does not depend on the marks. -/
theorem sustains_uploadSpan
    (hmarks : ∀ f : Marks → Marks, Sustains I (change fun a => { a with marks := f a.marks }))
    (hupload : ∀ h offset bytes, Sustains I (onDevice (Device.upload h offset bytes))) (h : Handle)
    (s : Span) : Sustains I (uploadSpan h s) := by
  refine Keeps.bind sustains_self fun a => Keeps.bind (keeps_ofOutcome _) fun bytes => ?_
  refine keeps_word_bind fun _ => Keeps.ite ?_ (keeps_trap _)
  refine Keeps.bind ?_ fun _ => keeps_report trivial
  exact Keeps.undoing (hupload _ _ _) (hmarks fun marks => marks.mark s)

theorem sustains_uploadMarked
    (hmarks : ∀ f : Marks → Marks, Sustains I (change fun a => { a with marks := f a.marks }))
    (hupload : ∀ h offset bytes, Sustains I (onDevice (Device.upload h offset bytes))) :
    Sustains I uploadMarked := by
  refine Keeps.bind sustains_liveHandle fun h => Keeps.bind sustains_self fun a => ?_
  refine Keeps.bind (hmarks fun _ => .clean) fun _ => ?_
  cases a.marks.span with
  | none => exact keeps_pure ()
  | some s => exact sustains_uploadSpan hmarks hupload h s

theorem sustains_bindCurrent (hbind : ∀ h, Sustains I (onDevice (Device.bind h))) :
    Sustains I bindCurrent :=
  Keeps.bind sustains_liveHandle fun h => Keeps.bind (hbind h) fun _ =>
    Keeps.bind sustains_self fun _ => keeps_report trivial

/-- The property survives requests and changes of the array that leave the host array alone and, if
`live` holds, do not dispose of the array. -/
structure Steady (live : Prop) (I : SyncedArray c × D → Prop) : Prop where
  /-- The array changes. -/
  change : ∀ (f : SyncedArray c → SyncedArray c) p, (f p.1).host = p.1.host →
    (live → p.1.handle.isSome = true → (f p.1).handle.isSome = true) → I p → I (f p.1, p.2)
  /-- An allocation is asked for. -/
  allocate : ∀ size usage, Sustains I (onDevice (Device.allocate size usage))
  /-- Bytes are sent. -/
  upload : ∀ h offset bytes, Sustains I (onDevice (Device.upload h offset bytes))
  /-- An allocation is offered back. -/
  release : ∀ h, Sustains I (onDevice (Device.release h))

namespace Steady

theorem sustains_change (hI : Steady live I) {f : SyncedArray c → SyncedArray c}
    (hhost : ∀ a, (f a).host = a.host)
    (hhandle : live → ∀ a, a.handle.isSome = true → (f a).handle.isSome = true) :
    Sustains I (SyncedArray.change f) :=
  keeps_update fun p hp => hI.change f p (hhost p.1) (fun hl => hhandle hl p.1) hp

theorem releasePending (hI : Steady live I) : Sustains I releasePending := by
  refine Keeps.bind sustains_self fun a => ?_
  cases a.pending with
  | none => exact keeps_pure ()
  | some h =>
    refine Keeps.bind (hI.sustains_change (fun _ => rfl) fun _ _ hh => hh) fun _ => ?_
    exact Keeps.undoing (hI.release h) (hI.sustains_change (fun _ => rfl) fun _ _ hh => hh)

theorem syncAllocation (hI : Steady live I) : Sustains I syncAllocation := by
  refine Keeps.bind sustains_self fun a => Keeps.ite ?_ (keeps_pure ())
  refine Keeps.bind (hI.allocate _ _) fun h => ?_
  refine Keeps.bind (hI.sustains_change (fun _ => rfl) fun _ _ _ => rfl) fun _ => ?_
  refine Keeps.bind (keeps_report trivial) fun _ => ?_
  refine Keeps.bind (hI.sustains_change (fun _ => rfl) fun _ _ hh => hh) fun _ => ?_
  exact hI.releasePending

theorem flush (hI : Steady live I) : Sustains I flush := by
  rw [flush_eq]
  refine Keeps.bind sustains_liveHandle fun _ => Keeps.bind hI.releasePending fun _ => ?_
  refine Keeps.bind hI.syncAllocation fun _ => sustains_uploadMarked (fun f => ?_) hI.upload
  exact hI.sustains_change (fun _ => rfl) fun _ _ hh => hh

theorem bind (hI : Steady live I) (hbind : ∀ h, Sustains I (onDevice (Device.bind h))) :
    Sustains I SyncedArray.bind := by
  have hrest := sustains_bindCurrent hbind
  refine Keeps.bind sustains_liveHandle fun _ => Keeps.bind sustains_self fun a => ?_
  split
  · exact Keeps.bind hI.flush fun _ => hrest
  · exact hrest

theorem dispose (hI : Steady False I) : Sustains I dispose := by
  refine Keeps.bind hI.releasePending fun _ => Keeps.bind sustains_self fun a => ?_
  cases a.handle with
  | none => exact keeps_pure ()
  | some h =>
    refine Keeps.bind (hI.sustains_change (fun _ => rfl) False.elim) fun _ => ?_
    refine Keeps.bind ?_ fun _ => keeps_report trivial
    exact Keeps.undoing (hI.release h) (hI.sustains_change (fun _ => rfl) False.elim)

theorem drop (hI : Steady False I) : Sustains I drop := by
  refine Keeps.bind sustains_self fun a => ?_
  refine Keeps.bind (Keeps.handle hI.releasePending fun _ => keeps_report trivial) fun _ => ?_
  cases a.handle with
  | none => exact keeps_pure ()
  | some h =>
    refine Keeps.bind (hI.sustains_change (fun _ => rfl) False.elim) fun _ => ?_
    exact Keeps.handle (hI.release h) fun _ => keeps_report trivial

end Steady

theorem sustains_unbind (hunbind : ∀ usage, Sustains I (onDevice (Device.unbind usage))) :
    Sustains I unbind :=
  Keeps.bind sustains_liveHandle fun _ => Keeps.bind sustains_self fun a =>
    Keeps.bind (hunbind a.usage) fun _ => keeps_report trivial

/-! ## Operations that leave the host array alone -/

/-- No request and no change on the way to the device touches the host array. -/
theorem steady_anchored : Steady live (Anchored live b : SyncedArray c × D → Prop) where
  change _ _ hhost hhandle hp := ⟨hhost.trans hp.1, fun hl => hhandle hl (hp.2 hl)⟩
  allocate _ _ := anchors_onDevice _
  upload _ _ _ := anchors_onDevice _
  release _ := anchors_onDevice _

/-- A call leaves the host array alone, or it is one on the elements and is made on the host
array. -/
theorem host_perform_cases (call : Call α) (a : SyncedArray c) (d : D) :
    (perform call (a, d)).state.1.host = a.host ∨
      ∃ asked, call = .array asked ∧
        (perform call (a, d)).state.1.host = (HostArray.perform asked a.host).state := by
  have hsame : Anchors False a.host (perform call : Op (SyncedArray c × D) _) →
      (perform call (a, d)).state.1.host = a.host :=
    fun hanchors => (hanchors (a, d) ⟨rfl, False.elim⟩).1.1
  cases call with
  | array asked =>
    rw [perform]
    cases hh : a.handle with
    | none =>
      rw [performArray_of_none hh, Op.raise_apply]
      exact .inl rfl
    | some h =>
      obtain ⟨marks, hafter⟩ := afterCall_eq asked a (HostArray.perform asked a.host)
      rw [performArray_of_some hh, hafter]
      exact .inr ⟨asked, rfl, rfl⟩
  | flush => exact .inl (hsame (Keeps.bind steady_anchored.flush fun _ => keeps_pure _))
  | bind =>
    exact .inl (hsame (Keeps.bind (steady_anchored.bind fun _ => anchors_onDevice _) fun _ =>
      keeps_pure _))
  | unbind =>
    exact .inl (hsame (Keeps.bind (sustains_unbind fun _ => anchors_onDevice _) fun _ =>
      keeps_pure _))
  | dispose => exact .inl (hsame (Keeps.bind steady_anchored.dispose fun _ => keeps_pure _))

end BufferSync.SyncedArray
