import BufferSync.Proofs.Counts
import BufferSync.Proofs.SyncRuns
import BufferSync.SyncedArray.Call

/-!
# Calls on the elements of a synced array

A call on the elements of a live array does to the host array what the same call does to a host
array alone, with the same answer and the same entries.  If it ends well, the array then marks what
was changed; what is marked depends on the call, on its answer and on the number of elements before.
The device is not reached, and what the array knows about the device stays.
-/

namespace BufferSync.SyncedArray

variable {α : Type} {c : Codec α} {D β : Type} {a : SyncedArray c} {h : Handle}

/-- The array with marks for what a call that ended well has changed; `before` is the number of
elements in front of the call. -/
def marking (call : ArrayCall α) (reply : Reply α) (before : Nat) (a : SyncedArray c) :
    SyncedArray c :=
  match call, reply with
  | .set i _, _ => { a with marks := a.marks.markIndex i }
  | .append _, .position i => a.markWritten i (i + 1)
  | .appendAll _, .positions b => a.markWritten b.start b.stop
  | .insert i _, _ => a.markWritten i a.host.count
  | .removeAt i, _ => (a.truncateMarks a.host.count).markWritten i a.host.count
  | .truncate length, _ => a.truncateMarks length
  | .resize length _, _ =>
      if before < length then a.markWritten before length else a.truncateMarks length
  | .clear, _ => a.unmarked
  | .setCapacity _, _ => a.markOutgrown
  | .reserve _, _ => a.markOutgrown
  | _, _ => a

/-- The array behind a call whose run on the host array is `r`. -/
def afterCall (call : ArrayCall α) (a : SyncedArray c) (r : Run (HostArray c) (Reply α)) :
    SyncedArray c :=
  match r.outcome with
  | .ok reply => marking call reply a.host.count { a with host := r.state }
  | _ => { a with host := r.state }

/-! ## Marks touch nothing else -/

theorem markWritten_marks (start stop : Nat) (a : SyncedArray c) :
    ∃ marks, a.markWritten start stop = { a with marks } := by
  rw [markWritten]
  split
  · exact ⟨a.marks, rfl⟩
  · split
    · exact ⟨_, rfl⟩
    · exact ⟨_, rfl⟩

theorem markOutgrown_marks (a : SyncedArray c) : ∃ marks, a.markOutgrown = { a with marks } := by
  rw [markOutgrown]
  split
  · exact ⟨_, rfl⟩
  · exact ⟨a.marks, rfl⟩

theorem marking_marks (call : ArrayCall α) (reply : Reply α) (before : Nat) (a : SyncedArray c) :
    ∃ marks, marking call reply before a = { a with marks } := by
  unfold marking
  split
  · exact ⟨_, rfl⟩
  · exact a.markWritten_marks _ _
  · exact a.markWritten_marks _ _
  · exact a.markWritten_marks _ _
  · exact (a.truncateMarks a.host.count).markWritten_marks _ _
  · exact ⟨_, rfl⟩
  · split
    · exact a.markWritten_marks _ _
    · exact ⟨_, rfl⟩
  · exact ⟨_, rfl⟩
  · exact a.markOutgrown_marks
  · exact a.markOutgrown_marks
  · exact ⟨a.marks, rfl⟩

/-- Behind a call only the host array and the marks are new. -/
theorem afterCall_eq (call : ArrayCall α) (a : SyncedArray c) (r : Run (HostArray c) (Reply α)) :
    ∃ marks, afterCall call a r = { a with host := r.state, marks } := by
  unfold afterCall
  split
  · exact marking_marks call _ _ { a with host := r.state }
  · exact ⟨a.marks, rfl⟩

/-! ## Runs -/

/-- A call that runs `x` on the host array and then only marks is the call on the host array, with
marks; how it marks matters only for the values with which `x` can end well. -/
theorem run_of_onHost {call : ArrayCall α} {x : Op (HostArray c) β}
    {k : β → Op (SyncedArray c × D) (Reply α)} {w : β → Reply α} {d : D}
    (hcall : performArray call (a, d) = (onHost x >>= k) (a, d))
    (hperform : HostArray.perform call = x >>= fun v => pure (w v))
    (hk : ∀ v b, (x a.host).outcome = .ok v → k v ({ a with host := b }, d) =
      { outcome := .ok (w v)
        state := (marking call (w v) a.host.count { a with host := b }, d)
        log := [] }) :
    performArray call (a, d) =
      { outcome := (HostArray.perform call a.host).outcome
        state := (afterCall call a (HostArray.perform call a.host), d)
        log := (HostArray.perform call a.host).log } := by
  rw [hcall, hperform, Op.map_apply]
  rcases hrun : x a.host with ⟨v | e | t, b, l⟩
  · rw [Op.bind_of_ok (onHost_of_eq hrun d), hk v b (by rw [hrun])]
    simp [Run.after, Outcome.map, afterCall]
  · rw [Op.bind_of_error (onHost_of_eq hrun d)]
    rfl
  · rw [Op.bind_of_trapped (onHost_of_eq hrun d)]
    rfl

/-- A call on the elements of a live array is the call on its host array, with marks. -/
theorem performArray_of_some (hh : a.handle = some h) (call : ArrayCall α) (d : D) :
    performArray call (a, d) =
      { outcome := (HostArray.perform call a.host).outcome
        state := (afterCall call a (HostArray.perform call a.host), d)
        log := (HostArray.perform call a.host).log } := by
  have hlive := liveHandle_of_some hh d
  have hstart : ∀ {γ : Type} (f : Handle → Op (SyncedArray c × D) γ),
      (liveHandle >>= f) (a, d) = f h (a, d) := by
    intro γ f
    rw [Op.bind_of_ok hlive]
    rfl
  cases call with
  | get i =>
    exact run_of_onHost (by rw [performArray, get, Op.bind_assoc, hstart]) rfl (by intros; rfl)
  | set i v =>
    exact run_of_onHost (by rw [performArray, set, Op.bind_assoc, hstart, Op.bind_assoc]) rfl
      (by intros; rfl)
  | append v =>
    -- the position of the new element was counted already, so the one behind it is a machine word
    refine run_of_onHost (by rw [performArray, append, Op.bind_assoc, hstart, Op.bind_assoc]) rfl ?_
    intro i b hi
    obtain ⟨hposition, hcount, hword⟩ := (HostArray.counts_append v a.host).of_ok hi
    rw [Op.bind_assoc, Op.word_bind_of_lt (by omega)]
    rfl
  | appendAll vs =>
    exact run_of_onHost (by rw [performArray, appendAll, Op.bind_assoc, hstart, Op.bind_assoc]) rfl
      (by intros; rfl)
  | insert i v =>
    exact run_of_onHost (by rw [performArray, insert, Op.bind_assoc, hstart, Op.bind_assoc]) rfl
      (by intros; rfl)
  | removeAt i =>
    exact run_of_onHost (by rw [performArray, removeAt, Op.bind_assoc, hstart, Op.bind_assoc]) rfl
      (by intros; rfl)
  | truncate length =>
    exact run_of_onHost (by rw [performArray, truncate, Op.bind_assoc, hstart, Op.bind_assoc]) rfl
      (by intros; rfl)
  | resize length v =>
    -- what is marked depends on the number of elements that the array had before
    refine run_of_onHost (x := HostArray.resize length v)
      (k := fun _ => (if a.host.count < length then change (markWritten a.host.count length)
        else change (truncateMarks length)) >>= fun _ => pure .done) ?_ rfl fun v b _ => ?_
    · rw [performArray, resize, Op.bind_assoc, hstart, Op.bind_assoc, self_bind, Op.bind_assoc]
    · by_cases hlt : a.host.count < length
      · simp only [marking, if_pos hlt]
        rfl
      · simp only [marking, if_neg hlt]
        rfl
  | clear =>
    exact run_of_onHost (by rw [performArray, clear, Op.bind_assoc, hstart, Op.bind_assoc]) rfl
      (by intros; rfl)
  | setCapacity capacity =>
    exact run_of_onHost (by rw [performArray, setCapacity, Op.bind_assoc, hstart, Op.bind_assoc])
      rfl (by intros; rfl)
  | reserve capacity =>
    exact run_of_onHost (by rw [performArray, reserve, Op.bind_assoc, hstart, Op.bind_assoc]) rfl
      (by intros; rfl)
  | elements =>
    exact run_of_onHost (by rw [performArray, elements, Op.bind_assoc, hstart]) rfl (by intros; rfl)
  | walk steps =>
    exact run_of_onHost (by rw [performArray, walk, Op.bind_assoc, hstart]) rfl (by intros; rfl)

/-- A disposed array refuses every call on its elements. -/
theorem performArray_of_none (hh : a.handle = none) (call : ArrayCall α) (d : D) :
    performArray call (a, d) = Op.raise source (.useAfterDispose a.label) (a, d) := by
  have hstart : ∀ {γ : Type} (f : Handle → Op (SyncedArray c × D) γ),
      (liveHandle >>= f) (a, d) = Op.raise source (.useAfterDispose a.label) (a, d) := by
    intro γ f
    rw [Op.bind_of_error ((liveHandle_of_none hh d).trans (Op.raise_apply _ _ _))]
    rfl
  cases call with
  | get i => rw [performArray, get, Op.bind_assoc, hstart]
  | set i v => rw [performArray, set, Op.bind_assoc, hstart]
  | append v => rw [performArray, append, Op.bind_assoc, hstart]
  | appendAll vs => rw [performArray, appendAll, Op.bind_assoc, hstart]
  | insert i v => rw [performArray, insert, Op.bind_assoc, hstart]
  | removeAt i => rw [performArray, removeAt, Op.bind_assoc, hstart]
  | truncate length => rw [performArray, truncate, Op.bind_assoc, hstart]
  | resize length v => rw [performArray, resize, Op.bind_assoc, hstart]
  | clear => rw [performArray, clear, Op.bind_assoc, hstart]
  | setCapacity capacity => rw [performArray, setCapacity, Op.bind_assoc, hstart]
  | reserve capacity => rw [performArray, reserve, Op.bind_assoc, hstart]
  | elements => rw [performArray, elements, Op.bind_assoc, hstart]
  | walk steps => rw [performArray, walk, Op.bind_assoc, hstart]

end BufferSync.SyncedArray
