import BufferSync.HostArray.Call
import BufferSync.Proofs.HostRuns

/-!
# How many elements a call leaves

The number of elements after a call follows from the number before it, for every host array, packed
or not, and for every codec.  Only the last part of an operation changes the number, behind
everything that can break down; the two loops that add elements one by one can stop in between.  So
a call that does not end well never leaves fewer elements than there were.
-/

namespace BufferSync

/-- What a call that ends well makes of the number of elements: `n` before, `n'` after. -/
def ArrayCall.Tally {α : Type} : ArrayCall α → Reply α → Nat → Nat → Prop
  | .set i _, _, n, n' => i < n ∧ n' = n
  | .append _, reply, n, n' => reply = .position n ∧ n' = n + 1
  | .appendAll vs, reply, n, n' =>
      reply = .positions { start := n, stop := n' } ∧ n' = n + vs.length
  | .insert i _, _, n, n' => i ≤ n ∧ n' = n + 1
  | .removeAt i, _, n, n' => i < n ∧ n' + 1 = n
  | .truncate length, _, n, n' => n' = min n length
  | .resize length _, _, _, n' => n' = length
  | .clear, _, _, n' => n' = 0
  | _, _, n, n' => n' = n

namespace HostArray

variable {α β : Type} {c : Codec α} {a : HostArray c} {n : Nat}

open Op

/-! ## Parts that leave the number alone -/

/-- From `n` elements the operation leads to `n` elements, however it ends. -/
def KeepsCount (n : Nat) (x : Op (HostArray c) β) : Prop :=
  x.Keeps (fun a => a.count = n) fun _ => True

/-- The run ends well as `Q` says of the value and the number of elements, and otherwise with at
least `n` elements. -/
def Counts (n : Nat) (Q : β → Nat → Prop) (r : Run (HostArray c) β) : Prop :=
  r.Ends (fun v b => Q v b.count) (fun b => n ≤ b.count) fun b => n ≤ b.count

theorem KeepsCount.counts {x : Op (HostArray c) β} (hx : KeepsCount n x) (ha : a.count = n) :
    Counts n (fun _ k => k = n) (x a) := by
  have hcount := (hx a ha).1
  rcases hrun : x a with ⟨v | e | t, b, l⟩
  · rw [hrun] at hcount
    exact hcount
  · rw [hrun] at hcount
    exact Nat.le_of_eq hcount.symm
  · rw [hrun] at hcount
    exact Nat.le_of_eq hcount.symm

theorem keepsCount_word (k : Nat) : KeepsCount n (word k : Op (HostArray c) Nat) :=
  keeps_word k

theorem keepsCount_reallocate (capacity : Nat) :
    KeepsCount n (reallocate capacity : Op (HostArray c) Unit) :=
  keeps_word_bind fun _ => keeps_word_bind fun _ => keeps_state.bind fun _ =>
    Keeps.bind (keeps_report trivial) fun _ =>
      (keeps_roomFor _).bind fun _ => keeps_update fun _ ha => ha

theorem keepsCount_reserve (capacity : Nat) :
    KeepsCount n (reserve capacity : Op (HostArray c) Unit) :=
  keeps_state.bind fun _ => (keepsCount_reallocate capacity).ite (keeps_pure ())

theorem keepsCount_setCapacity (capacity : Nat) :
    KeepsCount n (setCapacity capacity : Op (HostArray c) Unit) :=
  keeps_state.bind fun _ =>
    Keeps.ite (keeps_raise trivial) ((keepsCount_reallocate capacity).ite (keeps_pure ()))

theorem keepsCount_makeRoom : KeepsCount n (makeRoom : Op (HostArray c) Unit) :=
  keeps_state.bind fun _ =>
    Keeps.ite (keeps_word_bind fun _ => keepsCount_reallocate _) (keeps_pure ())

/-- An operation on the storage counts nothing. -/
theorem keepsCount_onStorage (x : Op Bytes β) :
    KeepsCount n (onStorage x : Op (HostArray c) β) :=
  keeps_focus x fun _ _ ha => ha

theorem keepsCount_writeAt (i : Nat) (v : α) :
    KeepsCount n (writeAt i v : Op (HostArray c) Unit) :=
  keeps_word_bind fun _ => (keepsCount_onStorage _).bind fun _ => keeps_require _ _

theorem keepsCount_readAt (i : Nat) : KeepsCount n (readAt i : Op (HostArray c) α) :=
  keeps_state.bind fun _ => keeps_word_bind fun _ => (keeps_ofOutcome _).bind fun _ =>
    (keeps_require _ _).bind fun _ => keeps_pure _

theorem keepsCount_moveElements (start stop target : Nat) :
    KeepsCount n (moveElements start stop target : Op (HostArray c) Unit) :=
  keeps_word_bind fun _ => keeps_word_bind fun _ => keeps_word_bind fun _ =>
    keepsCount_onStorage _

theorem keepsCount_advance (k : Cursor) (steps : Nat) :
    KeepsCount n (k.advance steps : Op (HostArray c) (List (Option α) × Cursor)) := by
  induction steps generalizing k with
  | zero => exact keeps_pure _
  | succ steps ih =>
    have hnext : KeepsCount n (k.next : Op (HostArray c) (Option α × Cursor)) := by
      refine keeps_state.bind fun _ => Keeps.ite ?_ (keeps_pure _)
      exact (keepsCount_readAt _).bind fun _ => keeps_word_bind fun _ => keeps_pure _
    exact hnext.bind fun _ => (ih _).bind fun _ => keeps_pure _

theorem keepsCount_remaining (k : Cursor) : KeepsCount n (k.remaining : Op (HostArray c) Nat) :=
  keeps_state.bind fun _ => keeps_difference _ _

/-- Behind the check the position is one of the elements. -/
theorem counts_checkIndex (i : Nat) (a : HostArray c) :
    Counts a.count (fun _ k => i < a.count ∧ k = a.count) (checkIndex i a) := by
  by_cases hi : i < a.count
  · rw [checkIndex_of_lt hi]
    exact ⟨hi, rfl⟩
  · rw [checkIndex_of_ge (Nat.not_lt.mp hi)]
    exact Nat.le_refl a.count

/-! ## Operations that change it -/

theorem counts_countUp (a : HostArray c) :
    Counts a.count (fun _ k => k = a.count + 1 ∧ k < wordLimit) (countUp a) := by
  rw [countUp, state_bind]
  by_cases hword : a.count + 1 < wordLimit
  · rw [word_bind_of_lt hword]
    exact ⟨rfl, hword⟩
  · rw [word_bind_of_ge (Nat.not_lt.mp hword)]
    exact Nat.le_refl a.count

theorem counts_countDown (a : HostArray c) :
    Counts a.count (fun _ k => k + 1 = a.count) (countDown a) := by
  rw [countDown, state_bind]
  by_cases hpos : 1 ≤ a.count
  · rw [difference_of_le hpos, Op.pure_bind]
    exact Nat.sub_add_cancel hpos
  · rw [difference, Op.bind_assoc, require_bind_of_not hpos]
    exact Nat.le_refl a.count

theorem counts_append (v : α) (a : HostArray c) :
    Counts a.count (fun i k => i = a.count ∧ k = a.count + 1 ∧ k < wordLimit) (append v a) := by
  rw [append]
  apply ends_bind (keepsCount_makeRoom.counts rfl)
  intro _ b hb
  rw [state_bind]
  apply ends_bind ((keepsCount_writeAt b.count v).counts hb)
  intro _ b' hb'
  have hup := counts_countUp b'
  rw [hb'] at hup
  exact ends_bind hup fun _ _ hk => ⟨hb, hk⟩

theorem counts_each_append (vs : List α) (a : HostArray c) :
    Counts a.count (fun _ k => k = a.count + vs.length)
      (each (fun v => do let _ ← append v) vs a) := by
  induction vs generalizing a with
  | nil => exact rfl
  | cons v rest ih =>
    rw [each]
    have hfirst : Counts a.count (fun _ k => k = a.count + 1)
        ((append v >>= fun _ => pure PUnit.unit) a) :=
      ends_bind (counts_append v a) fun _ _ hb => hb.2.1
    apply ends_bind hfirst
    intro _ b hb
    refine (ih b).mono ?_ ?_ ?_
    · intro _ b' hb'
      rw [hb', hb, List.length_cons]
      omega
    · intro b' hb'
      omega
    · intro b' hb'
      omega

theorem counts_appendAll (vs : List α) (a : HostArray c) :
    Counts a.count (fun b k => b = { start := a.count, stop := k } ∧ k = a.count + vs.length)
      (appendAll vs a) := by
  rw [appendAll, state_bind]
  by_cases hword : a.count + vs.length < wordLimit
  · rw [word_bind_of_lt hword]
    apply ends_bind ((keepsCount_reserve _).counts rfl)
    intro _ b hb
    have hloop := counts_each_append vs b
    rw [hb] at hloop
    apply ends_bind hloop
    intro _ b' hb'
    exact ⟨rfl, hb'⟩
  · rw [word_bind_of_ge (Nat.not_lt.mp hword)]
    exact Nat.le_refl a.count

theorem counts_insert (i : Nat) (v : α) (a : HostArray c) :
    Counts a.count (fun _ k => i ≤ a.count ∧ k = a.count + 1) (insert i v a) := by
  rw [insert, state_bind]
  by_cases hi : a.count < i
  · rw [if_pos hi]
    exact Nat.le_refl a.count
  · rw [if_neg hi]
    apply ends_bind (keepsCount_makeRoom.counts rfl)
    intro _ b hb
    rw [state_bind]
    apply ends_bind ((keepsCount_word (i + 1)).counts hb)
    intro next b₁ hb₁
    apply ends_bind ((keepsCount_moveElements i b.count next).counts hb₁)
    intro _ b₂ hb₂
    apply ends_bind ((keepsCount_writeAt i v).counts hb₂)
    intro _ b₃ hb₃
    have hup := counts_countUp b₃
    rw [hb₃] at hup
    exact hup.mono (fun _ _ hk => ⟨Nat.not_lt.mp hi, hk.1⟩) (fun _ h => h) fun _ h => h

theorem counts_removeAt (i : Nat) (a : HostArray c) :
    Counts a.count (fun _ k => i < a.count ∧ k + 1 = a.count) (removeAt i a) := by
  rw [removeAt]
  apply ends_bind (counts_checkIndex i a)
  intro _ b hb
  apply ends_bind ((keepsCount_readAt i).counts hb.2)
  intro v b' hb'
  rw [state_bind]
  apply ends_bind ((keepsCount_word (i + 1)).counts hb')
  intro next b₁ hb₁
  apply ends_bind ((keepsCount_moveElements next b'.count i).counts hb₁)
  intro _ b₂ hb₂
  have hdown := counts_countDown b₂
  rw [hb₂] at hdown
  exact ends_bind hdown fun _ _ hk => ⟨hb.1, hk⟩

theorem counts_fill (k : Nat) (v : α) (a : HostArray c) :
    Counts a.count (fun _ j => j = a.count + k) (fill k v a) := by
  rw [fill]
  induction k generalizing a with
  | zero => exact rfl
  | succ k ih =>
    rw [times]
    have hfirst : Counts a.count (fun _ j => j = a.count + 1)
        ((do
          let a ← state
          writeAt a.count v
          countUp : Op (HostArray c) Unit) a) := by
      rw [state_bind]
      apply ends_bind ((keepsCount_writeAt a.count v).counts rfl)
      intro _ b hb
      rw [← hb]
      exact (counts_countUp b).mono (fun _ _ hk => hk.1) (fun _ h => h) fun _ h => h
    apply ends_bind hfirst
    intro _ b hb
    refine (ih b).mono ?_ ?_ ?_
    · intro _ b' hb'
      omega
    · intro b' hb'
      omega
    · intro b' hb'
      omega

theorem counts_resize (length : Nat) (v : α) (a : HostArray c) :
    Counts a.count (fun _ k => k = length) (resize length v a) := by
  rw [resize, state_bind]
  by_cases hle : length ≤ a.count
  · rw [if_pos hle]
    exact Nat.min_eq_right hle
  · rw [if_neg hle]
    apply ends_bind ((keepsCount_reserve length).counts rfl)
    intro _ b hb
    have hfill := counts_fill (length - a.count) v b
    rw [hb] at hfill
    refine hfill.mono ?_ (fun _ h => h) fun _ h => h
    intro _ b' hb'
    omega

/-! ## Calls -/

/-- Giving the value another form does not change the number of elements. -/
theorem Counts.map {x : Op (HostArray c) β} {Q : β → Nat → Prop} (hx : Counts n Q (x a))
    {w : β → Reply α} {R : Reply α → Nat → Prop} (hw : ∀ v k, Q v k → R (w v) k) :
    Counts n R ((x >>= fun v => pure (w v)) a) :=
  ends_bind hx fun v b hb => hw v b.count hb

theorem KeepsCount.map {x : Op (HostArray c) β} (hx : ∀ n, KeepsCount n x) (a : HostArray c)
    (w : β → Reply α) : Counts a.count (fun _ k => k = a.count) ((x >>= fun v => pure (w v)) a) :=
  Counts.map ((hx a.count).counts rfl) fun _ _ hk => hk

/-- The number of elements after a call. -/
theorem counts_perform (call : ArrayCall α) (a : HostArray c) :
    Counts a.count (fun reply k => call.Tally reply a.count k) (perform call a) := by
  cases call with
  | get i =>
    have hget : Counts a.count (fun _ k => k = a.count) (get i a) :=
      ends_bind (counts_checkIndex i a) fun _ _ hb => (keepsCount_readAt i).counts hb.2
    exact hget.map fun _ _ hk => hk
  | set i v =>
    have hset : Counts a.count (fun _ k => i < a.count ∧ k = a.count) (set i v a) :=
      ends_bind (counts_checkIndex i a) fun _ _ hb =>
        ((keepsCount_writeAt i v).counts hb.2).mono (fun _ _ hk => ⟨hb.1, hk⟩) (fun _ h => h)
          fun _ h => h
    exact hset.map fun _ _ hk => hk
  | append v => exact (counts_append v a).map fun _ _ hk => ⟨congrArg _ hk.1, hk.2.1⟩
  | appendAll vs => exact (counts_appendAll vs a).map fun _ _ hk => ⟨congrArg _ hk.1, hk.2⟩
  | insert i v => exact (counts_insert i v a).map fun _ _ hk => hk
  | removeAt i => exact (counts_removeAt i a).map fun _ _ hk => hk
  | truncate length => exact rfl
  | resize length v => exact (counts_resize length v a).map fun _ _ hk => hk
  | clear => exact rfl
  | setCapacity capacity => exact KeepsCount.map (fun _ => keepsCount_setCapacity capacity) a _
  | reserve capacity => exact KeepsCount.map (fun _ => keepsCount_reserve capacity) a _
  | elements =>
    exact KeepsCount.map (fun _ => keeps_state.bind fun _ =>
      (keepsCount_advance _ _).bind fun _ => keeps_pure _) a _
  | walk steps =>
    exact KeepsCount.map (fun _ => (keepsCount_remaining _).bind fun _ =>
      (keepsCount_advance _ _).bind fun _ => (keepsCount_remaining _).bind fun _ =>
        keeps_pure _) a _

end HostArray

end BufferSync
