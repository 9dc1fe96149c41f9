import BufferSync.HostArray.Call
import BufferSync.Proofs.Runs

/-!
# Under which name a host array reports

All entries of a call on a host array stand under the name of host arrays, however the call ends.
The operations are run through one part after another, with the laws for `Op.Keeps`; accesses to the
storage report nothing.
-/

namespace BufferSync.HostArray

variable {α β : Type} {c : Codec α}

open Op

/-- The entries of the operation stand under the name of host arrays. -/
def Reports {σ : Type} (x : Op σ β) : Prop :=
  x.Keeps (fun _ => True) fun e => e.source = source

theorem reports_update {σ : Type} (f : σ → σ) : Reports (update f) :=
  keeps_update fun _ _ => trivial

theorem reports_refuse (e : Error) : Reports (raise source e : Op (HostArray c) β) :=
  keeps_raise rfl

/-! ## Storage -/

theorem reports_reallocate (n : Nat) : Reports (reallocate n : Op (HostArray c) Unit) :=
  keeps_word_bind fun _ => keeps_word_bind fun _ => keeps_state.bind fun _ =>
    Keeps.bind (keeps_report rfl) fun _ => (keeps_roomFor _).bind fun _ => reports_update _

theorem reports_reserve (n : Nat) : Reports (reserve n : Op (HostArray c) Unit) :=
  keeps_state.bind fun _ => Keeps.ite (reports_reallocate n) (keeps_pure ())

theorem reports_setCapacity (n : Nat) : Reports (setCapacity n : Op (HostArray c) Unit) :=
  keeps_state.bind fun _ =>
    Keeps.ite (reports_refuse _) (Keeps.ite (reports_reallocate n) (keeps_pure ()))

theorem reports_makeRoom : Reports (makeRoom : Op (HostArray c) Unit) :=
  keeps_state.bind fun _ =>
    Keeps.ite (keeps_word_bind fun _ => reports_reallocate _) (keeps_pure ())

theorem reports_onStorage {x : Op Bytes β} (hx : Reports x) :
    Reports (onStorage x : Op (HostArray c) β) :=
  Keeps.focus hx (fun _ _ => trivial) fun _ _ _ _ => trivial

theorem reports_putAll (strings : List Bytes) (offset : Nat) :
    Reports (Region.putAll offset strings) := by
  induction strings generalizing offset with
  | nil => exact keeps_pure offset
  | cons new rest ih =>
    have hput : Reports (Region.put offset new) :=
      keeps_state.bind fun _ => (keeps_require _ _).bind fun _ =>
        Keeps.bind (reports_update _) fun _ => keeps_pure _
    exact Keeps.bind hput ih

theorem reports_encode (c : Codec α) (v : α) (offset : Nat) : Reports (c.encode v offset) := by
  rw [c.encode_eq]
  exact Keeps.bind (reports_putAll _ _) fun _ => keeps_difference _ _

theorem reports_copyWithin (start stop target : Nat) :
    Reports (Region.copyWithin start stop target) :=
  keeps_state.bind fun _ => (keeps_require _ _).bind fun _ => (keeps_require _ _).bind fun _ =>
    (keeps_require _ _).bind fun _ => reports_update _

theorem reports_writeAt (i : Nat) (v : α) : Reports (writeAt i v : Op (HostArray c) Unit) :=
  keeps_word_bind fun _ => Keeps.bind (reports_onStorage (reports_encode c v _)) fun _ =>
    keeps_require _ _

theorem reports_readAt (i : Nat) : Reports (readAt i : Op (HostArray c) α) :=
  keeps_state.bind fun _ => keeps_word_bind fun _ => (keeps_ofOutcome _).bind fun _ =>
    (keeps_require _ _).bind fun _ => keeps_pure _

theorem reports_moveElements (start stop target : Nat) :
    Reports (moveElements start stop target : Op (HostArray c) Unit) :=
  keeps_word_bind fun _ => keeps_word_bind fun _ => keeps_word_bind fun _ =>
    reports_onStorage (reports_copyWithin _ _ _)

theorem reports_countUp : Reports (countUp : Op (HostArray c) Unit) :=
  keeps_state.bind fun _ => keeps_word_bind fun _ => reports_update _

theorem reports_countDown : Reports (countDown : Op (HostArray c) Unit) :=
  keeps_state.bind fun _ => (keeps_difference _ _).bind fun _ => reports_update _

/-! ## Elements -/

theorem reports_checkIndex (i : Nat) : Reports (checkIndex i : Op (HostArray c) Unit) :=
  keeps_state.bind fun _ => Keeps.ite (reports_refuse _) (keeps_pure ())

theorem reports_append (v : α) : Reports (append v : Op (HostArray c) Nat) := by
  refine Keeps.bind reports_makeRoom fun _ => keeps_state.bind fun _ => ?_
  refine Keeps.bind (reports_writeAt _ v) fun _ => ?_
  exact Keeps.bind reports_countUp fun _ => keeps_pure _

theorem reports_appendAll (vs : List α) : Reports (appendAll vs : Op (HostArray c) Bounds) := by
  refine keeps_state.bind fun _ => keeps_word_bind fun _ => ?_
  refine Keeps.bind (reports_reserve _) fun _ => ?_
  refine Keeps.bind (keeps_each (fun v => ?_) vs) fun _ => ?_
  · exact Keeps.bind (reports_append v) fun _ => keeps_pure ()
  · exact keeps_state.bind fun _ => keeps_pure _

theorem reports_insert (i : Nat) (v : α) : Reports (insert i v : Op (HostArray c) Unit) := by
  refine keeps_state.bind fun _ => Keeps.ite (reports_refuse _) ?_
  refine Keeps.bind reports_makeRoom fun _ => keeps_state.bind fun _ => keeps_word_bind fun _ => ?_
  refine Keeps.bind (reports_moveElements _ _ _) fun _ => ?_
  exact Keeps.bind (reports_writeAt i v) fun _ => reports_countUp

theorem reports_removeAt (i : Nat) : Reports (removeAt i : Op (HostArray c) α) := by
  refine Keeps.bind (reports_checkIndex i) fun _ => Keeps.bind (reports_readAt i) fun _ => ?_
  refine keeps_state.bind fun _ => keeps_word_bind fun _ => ?_
  refine Keeps.bind (reports_moveElements _ _ _) fun _ => ?_
  exact Keeps.bind reports_countDown fun _ => keeps_pure _

theorem reports_resize (n : Nat) (v : α) : Reports (resize n v : Op (HostArray c) Unit) := by
  refine keeps_state.bind fun a => Keeps.ite (reports_update _) ?_
  refine Keeps.bind (reports_reserve n) fun _ => keeps_times (keeps_state.bind fun _ => ?_) _
  exact Keeps.bind (reports_writeAt _ v) fun _ => reports_countUp

theorem reports_advance (k : Cursor) (steps : Nat) :
    Reports (k.advance steps : Op (HostArray c) (List (Option α) × Cursor)) := by
  induction steps generalizing k with
  | zero => exact keeps_pure _
  | succ steps ih =>
    have hnext : Reports (k.next : Op (HostArray c) (Option α × Cursor)) := by
      refine keeps_state.bind fun _ => Keeps.ite ?_ (keeps_pure _)
      exact Keeps.bind (reports_readAt _) fun _ => keeps_word_bind fun _ => keeps_pure _
    exact Keeps.bind hnext fun _ => Keeps.bind (ih _) fun _ => keeps_pure _

theorem reports_remaining (k : Cursor) : Reports (k.remaining : Op (HostArray c) Nat) :=
  keeps_state.bind fun _ => keeps_difference _ _

theorem reports_walk (steps : Nat) : Reports (walk steps : Op (HostArray c) (Walk α)) :=
  Keeps.bind (reports_remaining _) fun _ => Keeps.bind (reports_advance _ _) fun _ =>
    Keeps.bind (reports_remaining _) fun _ => keeps_pure _

/-- A call reports under the name of host arrays. -/
theorem reports_perform (call : ArrayCall α) :
    Reports (perform call : Op (HostArray c) (Reply α)) := by
  cases call with
  | get i =>
    exact Keeps.bind (Keeps.bind (reports_checkIndex i) fun _ => reports_readAt i) fun _ =>
      keeps_pure _
  | set i v =>
    exact Keeps.bind (Keeps.bind (reports_checkIndex i) fun _ => reports_writeAt i v) fun _ =>
      keeps_pure _
  | append v => exact Keeps.bind (reports_append v) fun _ => keeps_pure _
  | appendAll vs => exact Keeps.bind (reports_appendAll vs) fun _ => keeps_pure _
  | insert i v => exact Keeps.bind (reports_insert i v) fun _ => keeps_pure _
  | removeAt i => exact Keeps.bind (reports_removeAt i) fun _ => keeps_pure _
  | truncate length => exact Keeps.bind (reports_update _) fun _ => keeps_pure _
  | resize length v => exact Keeps.bind (reports_resize length v) fun _ => keeps_pure _
  | clear => exact Keeps.bind (reports_update _) fun _ => keeps_pure _
  | setCapacity capacity => exact Keeps.bind (reports_setCapacity capacity) fun _ => keeps_pure _
  | reserve capacity => exact Keeps.bind (reports_reserve capacity) fun _ => keeps_pure _
  | elements =>
    refine Keeps.bind (keeps_state.bind fun _ => ?_) fun _ => keeps_pure _
    exact Keeps.bind (reports_advance _ _) fun _ => keeps_pure _
  | walk steps => exact Keeps.bind (reports_walk steps) fun _ => keeps_pure _

end BufferSync.HostArray
