import BufferSync.Proofs.ElementCalls
import Mathlib.Data.List.Forall2

/-!
# Errors are reported once

Every error that an operation ends with was reported just before: its last entry, and no other, is a
located one of the highest severity, and says what the error says.  An operation that ends well
makes no such entry.

Errors are raised in three layers, spans, host arrays and devices, and pass through the operations
above them, so each of these must neither report again nor stay silent.  `Op.Candid` is what passes
through: a sequence of candid operations is candid, because only its last part can end with an
error, and whatever ran before it ended well and made no loud entry (`Run.Candid.bind`).

The end of an array is the exception, since it never fails: what the device refuses is reported by
the device and then once more, as a warning, by the array.
-/

namespace BufferSync

/-! ## Candid runs -/

namespace Log.Entry

/-- The entry reports no error. -/
def Quiet (entry : Log.Entry) : Prop :=
  entry.severity ≠ .error ∧ entry.located = false

/-- The entry reports the error and the place that raised it: a refusal of the device by its bare
reason, any other error by its sentence. -/
def Tells (entry : Log.Entry) (e : Error) : Prop :=
  entry.severity = .error ∧ entry.located = true ∧
    match e with
    | .device reason => entry.message = reason
    | e => entry.message = e.message

end Log.Entry

namespace Run

variable {σ τ α β : Type} {r : Run σ α}

/-- The run reports the error that it ends with, last and once, and no other. -/
structure Candid (r : Run σ α) : Prop where
  /-- If all is well, no error is reported. -/
  quiet : ∀ v, r.outcome = .ok v → ∀ entry ∈ r.log, entry.Quiet
  /-- The last entry reports the error, and no other one reports any. -/
  told : ∀ e, r.outcome = .error e → ∃ before entry, r.log = before ++ [entry] ∧
    (∀ earlier ∈ before, earlier.Quiet) ∧ entry.Tells e

theorem candid_of_quiet (hne : ∀ e, r.outcome ≠ .error e) (hlog : ∀ entry ∈ r.log, entry.Quiet) :
    r.Candid :=
  ⟨fun _ _ => hlog, fun e he => absurd he (hne e)⟩

theorem candid_trapped (t : Trap) (s : σ) (l : List Log.Entry) :
    ({ outcome := .trapped t, state := s, log := l } : Run σ α).Candid where
  quiet _ hv := by cases hv
  told _ he := by cases he

/-- Of a run that ends with an error only the entries count. -/
theorem Candid.of_error {e : Error} {s : σ} {l : List Log.Entry}
    (hr : ({ outcome := .error e, state := s, log := l } : Run σ α).Candid) (s' : τ) :
    ({ outcome := .error e, state := s', log := l } : Run τ β).Candid where
  quiet _ hv := by cases hv
  told _ he := by
    cases he
    exact hr.told e rfl

/-- Quiet entries in front do no harm. -/
theorem Candid.after (hr : r.Candid) {l : List Log.Entry} (hl : ∀ entry ∈ l, entry.Quiet) :
    (r.after l).Candid where
  quiet v hv entry hmem := (List.mem_append.mp hmem).elim (hl entry) (hr.quiet v hv entry)
  told e he := by
    obtain ⟨before, entry, hlog, hquiet, htells⟩ := hr.told e he
    refine ⟨l ++ before, entry, ?_, ?_, htells⟩
    · rw [Run.after, hlog, List.append_assoc]
    · intro earlier hmem
      exact (List.mem_append.mp hmem).elim (hl earlier) (hquiet earlier)

/-- The state and the form of the value do not count. -/
theorem Candid.map (hr : r.Candid) (f : α → β) (s : τ) :
    ({ outcome := r.outcome.map f, state := s, log := r.log } : Run τ β).Candid where
  quiet w hw := by
    obtain ⟨v, hv, -⟩ := Outcome.exists_of_map hw
    exact hr.quiet v hv
  told e he := hr.told e (Outcome.error_of_map he)

/-- What runs at the end of a breakdown is not the report of an error. -/
theorem Candid.finishing {x : Op σ α} {s : σ} (hx : (x s).Candid)
    (hne : ∀ e, (x s).outcome ≠ .error e) (last : Op σ Unit) : (x.finishing last s).Candid := by
  rcases hrun : x s with ⟨v | e | t, s', l⟩
  · rw [Op.finishing_of_ok hrun, ← hrun]
    exact hx
  · exact absurd (by rw [hrun]) (hne e)
  · rw [Op.finishing_of_trapped hrun]
    exact candid_trapped _ _ _

/-- An operation that goes on after a candid one has only quiet entries in front of its own. -/
theorem Candid.bind {x : Op σ α} {f : α → Op σ β} {s : σ} (hx : (x s).Candid)
    (hf : ∀ v, (x s).outcome = .ok v → (f v (x s).state).Candid) : ((x >>= f) s).Candid := by
  rcases hrun : x s with ⟨v | e | t, s', l⟩
  · rw [hrun] at hx hf
    rw [Op.bind_of_ok hrun]
    exact (hf v rfl).after (hx.quiet v rfl)
  · rw [hrun] at hx
    rw [Op.bind_of_error hrun]
    exact hx.of_error s'
  · rw [Op.bind_of_trapped hrun]
    exact candid_trapped t s' l

end Run

namespace Op

variable {σ τ α β : Type} {refuses : Prop} {x y : Op σ α}

/-- All runs are candid, and none ends with an error unless `refuses` holds. -/
def Candid (refuses : Prop) (x : Op σ α) : Prop :=
  ∀ s, (x s).Candid ∧ ∀ e, (x s).outcome = .error e → refuses

theorem candid_of_silent (hne : ∀ s e, (x s).outcome ≠ .error e) (hlog : ∀ s, (x s).log = []) :
    x.Candid refuses := by
  intro s
  refine ⟨Run.candid_of_quiet (hne s) ?_, fun e he => absurd he (hne s e)⟩
  intro entry hmem
  rw [hlog] at hmem
  cases hmem

theorem candid_pure (a : α) : (pure a : Op σ α).Candid refuses :=
  candid_of_silent (fun _ _ h => by cases h) fun _ => rfl

theorem candid_state : (state : Op σ σ).Candid refuses :=
  candid_of_silent (fun _ _ h => by cases h) fun _ => rfl

theorem candid_update (f : σ → σ) : (update f).Candid refuses :=
  candid_of_silent (fun _ _ h => by cases h) fun _ => rfl

theorem candid_trap (t : Trap) : (trap t : Op σ α).Candid refuses :=
  candid_of_silent (fun _ _ h => by cases h) fun _ => rfl

theorem candid_ofOutcome {o : Outcome α} (ho : ∀ e, o ≠ .error e) :
    (ofOutcome o : Op σ α).Candid refuses :=
  candid_of_silent (fun _ e => ho e) fun _ => rfl

theorem candid_note {severity : Log.Severity} (h : severity ≠ .error) (source message : String) :
    (note severity source message : Op σ Unit).Candid refuses := by
  intro s
  refine ⟨Run.candid_of_quiet (fun e he => by cases he) ?_, fun e he => by cases he⟩
  intro entry hmem
  obtain rfl := List.mem_singleton.mp hmem
  exact ⟨h, rfl⟩

theorem candid_raise (hrefuses : refuses) (source : String) (e : Error) :
    (raise source e : Op σ α).Candid refuses := by
  intro s
  refine ⟨⟨fun v hv => (by cases hv), fun e' he => ?_⟩, fun _ _ => hrefuses⟩
  cases he
  refine ⟨[], _, rfl, fun _ h => (List.not_mem_nil h).elim, rfl, rfl, ?_⟩
  cases e <;> rfl

theorem Candid.bind {f : α → Op σ β} (hx : x.Candid refuses) (hf : ∀ a, (f a).Candid refuses) :
    (x >>= f).Candid refuses := by
  intro s
  refine ⟨(hx s).1.bind fun v _ => (hf v _).1, ?_⟩
  rcases hrun : x s with ⟨v | e | t, s', l⟩
  · rw [bind_of_ok hrun]
    exact (hf v s').2
  · exact fun _ _ => (hx s).2 e (by rw [hrun])
  · rw [bind_of_trapped hrun]
    exact fun _ he => by cases he

theorem Candid.ite {p : Prop} [Decidable p] (hx : x.Candid refuses) (hy : y.Candid refuses) :
    (if p then x else y).Candid refuses := by
  split
  · exact hx
  · exact hy

theorem Candid.focus {z : Op τ α} (hz : z.Candid refuses) (part : σ → τ) (put : τ → σ → σ) :
    (Op.focus part put z).Candid refuses := by
  intro s
  obtain ⟨hrun, hrefuses⟩ := hz (part s)
  exact ⟨⟨hrun.quiet, hrun.told⟩, hrefuses⟩

/-- Undoing a change leaves nothing in the log. -/
theorem Candid.undoing (hx : x.Candid refuses) (f : σ → σ) :
    (x.undoing (update f)).Candid refuses := by
  intro s
  have hfirst := hx s
  rcases hrun : x s with ⟨v | e | t, s', l⟩
  · rw [hrun] at hfirst
    rw [undoing_of_ok hrun]
    exact hfirst
  · rw [hrun] at hfirst
    rw [undoing_of_error hrun]
    exact ⟨hfirst.1.of_error _, hfirst.2⟩
  · rw [hrun] at hfirst
    rw [Op.undoing, Op.handle, hrun]
    exact hfirst

theorem candid_word (n : Nat) : (word n : Op σ Nat).Candid refuses :=
  (candid_pure n).ite (candid_trap _)

theorem candid_roomFor (n : Nat) : (roomFor n : Op σ Unit).Candid refuses :=
  (candid_pure ()).ite (candid_trap _)

theorem candid_require (p : Prop) [Decidable p] (t : Trap) :
    (require p t : Op σ Unit).Candid refuses :=
  (candid_pure ()).ite (candid_trap t)

theorem candid_difference (m n : Nat) : (difference m n : Op σ Nat).Candid refuses :=
  (candid_require _ _).bind fun _ => candid_pure _

theorem candid_each {f : α → Op σ Unit} (hf : ∀ a, (f a).Candid refuses) (as : List α) :
    (each f as).Candid refuses := by
  induction as with
  | nil => exact candid_pure ()
  | cons a rest ih => exact (hf a).bind fun _ => ih

theorem candid_times {x : Op σ Unit} (hx : x.Candid refuses) (n : Nat) :
    (times n x).Candid refuses := by
  induction n with
  | zero => exact candid_pure ()
  | succ n ih => exact hx.bind fun _ => ih

theorem Candid.beside {z : Op (τ × σ) α} (hz : z.Candid refuses) (a : τ) :
    (Op.beside a z).Candid refuses := by
  intro s
  obtain ⟨hrun, hrefuses⟩ := hz (a, s)
  exact ⟨hrun.map _ _, fun e he => hrefuses e (Outcome.error_of_map he)⟩

end Op

open Op

/-! ## Spans and marks -/

theorem Span.candid_between {σ : Type} (first last : Nat) :
    (Span.between first last : Op σ Span).Candid True := by
  rw [Span.between]
  split
  · exact candid_pure _
  · exact candid_raise trivial _ _

theorem Marks.candid_markBetween (first last : Nat) :
    (Marks.markBetween first last).Candid True :=
  (Span.candid_between first last).bind fun _ => candid_update _

/-! ## Host arrays -/

namespace HostArray

variable {α : Type} {c : Codec α} {refuses : Prop}

theorem candid_withCapacity {σ : Type} (n : Nat) :
    (withCapacity n : Op σ (HostArray c)).Candid refuses :=
  (candid_word _).bind fun _ => (candid_word _).bind fun _ => (candid_roomFor _).bind fun _ =>
    candid_pure _

theorem candid_reallocate (n : Nat) : (reallocate n : Op (HostArray c) Unit).Candid refuses :=
  (candid_word _).bind fun _ => (candid_word _).bind fun _ => candid_state.bind fun _ =>
    (candid_note (by decide) _ _).bind fun _ => (candid_roomFor _).bind fun _ => candid_update _

theorem candid_reserve (n : Nat) : (reserve n : Op (HostArray c) Unit).Candid refuses :=
  candid_state.bind fun _ => (candid_reallocate n).ite (candid_pure ())

theorem candid_makeRoom : (makeRoom : Op (HostArray c) Unit).Candid refuses :=
  candid_state.bind fun _ =>
    ((candid_word _).bind fun _ => candid_reallocate _).ite (candid_pure ())

theorem candid_putAll (strings : List Bytes) (offset : Nat) :
    (Region.putAll offset strings).Candid refuses := by
  induction strings generalizing offset with
  | nil => exact candid_pure offset
  | cons new rest ih =>
    have hput : (Region.put offset new).Candid refuses :=
      candid_state.bind fun _ => (candid_require _ _).bind fun _ => (candid_update _).bind fun _ =>
        candid_pure _
    exact hput.bind ih

theorem candid_encode (c : Codec α) (v : α) (offset : Nat) :
    (c.encode v offset).Candid refuses := by
  rw [c.encode_eq]
  exact (candid_putAll _ _).bind fun _ => candid_difference _ _

theorem candid_copyWithin (start stop target : Nat) :
    (Region.copyWithin start stop target).Candid refuses :=
  candid_state.bind fun _ => (candid_require _ _).bind fun _ => (candid_require _ _).bind fun _ =>
    (candid_require _ _).bind fun _ => candid_update _

theorem candid_writeAt (i : Nat) (v : α) : (writeAt i v : Op (HostArray c) Unit).Candid refuses :=
  (candid_word _).bind fun _ => ((candid_encode c v _).focus _ _).bind fun _ => candid_require _ _

theorem candid_readAt (i : Nat) : (readAt i : Op (HostArray c) α).Candid refuses := by
  refine candid_state.bind fun a => (candid_word _).bind fun offset => ?_
  refine (candid_ofOutcome ?_).bind fun _ => (candid_require _ _).bind fun _ => candid_pure _
  intro e
  by_cases hroom : offset + c.size ≤ a.storage.length
  · rw [Codec.decode_of_le hroom]
    exact fun h => by cases h
  · rw [Codec.decode_of_gt (Nat.not_le.mp hroom)]
    exact fun h => by cases h

theorem candid_moveElements (start stop target : Nat) :
    (moveElements start stop target : Op (HostArray c) Unit).Candid refuses :=
  (candid_word _).bind fun _ => (candid_word _).bind fun _ => (candid_word _).bind fun _ =>
    (candid_copyWithin _ _ _).focus _ _

theorem candid_countUp : (countUp : Op (HostArray c) Unit).Candid refuses :=
  candid_state.bind fun _ => (candid_word _).bind fun _ => candid_update _

theorem candid_countDown : (countDown : Op (HostArray c) Unit).Candid refuses :=
  candid_state.bind fun _ => (candid_difference _ _).bind fun _ => candid_update _

theorem candid_checkIndex (i : Nat) : (checkIndex i : Op (HostArray c) Unit).Candid True :=
  candid_state.bind fun _ => (candid_raise trivial _ _).ite (candid_pure ())

theorem candid_append (v : α) : (append v : Op (HostArray c) Nat).Candid refuses :=
  candid_makeRoom.bind fun _ => candid_state.bind fun _ => (candid_writeAt _ v).bind fun _ =>
    candid_countUp.bind fun _ => candid_pure _

/-- Elements that find no room make the operation break down; it is never refused. -/
theorem candid_appendAll (vs : List α) :
    (appendAll vs : Op (HostArray c) Bounds).Candid refuses :=
  candid_state.bind fun _ => (candid_word _).bind fun _ => (candid_reserve _).bind fun _ =>
    (candid_each (fun v => (candid_append v).bind fun _ => candid_pure ()) vs).bind fun _ =>
      candid_state.bind fun _ => candid_pure _

theorem candid_insert (i : Nat) (v : α) : (insert i v : Op (HostArray c) Unit).Candid True :=
  candid_state.bind fun _ => (candid_raise trivial _ _).ite <|
    candid_makeRoom.bind fun _ => candid_state.bind fun _ => (candid_word _).bind fun _ =>
      (candid_moveElements _ _ _).bind fun _ => (candid_writeAt i v).bind fun _ => candid_countUp

theorem candid_removeAt (i : Nat) : (removeAt i : Op (HostArray c) α).Candid True :=
  (candid_checkIndex i).bind fun _ => (candid_readAt i).bind fun _ => candid_state.bind fun _ =>
    (candid_word _).bind fun _ => (candid_moveElements _ _ _).bind fun _ =>
      candid_countDown.bind fun _ => candid_pure _

theorem candid_resize (n : Nat) (v : α) : (resize n v : Op (HostArray c) Unit).Candid refuses := by
  refine candid_state.bind fun _ => Candid.ite (candid_update _) ?_
  refine (candid_reserve n).bind fun _ => candid_times (candid_state.bind fun _ => ?_) _
  exact (candid_writeAt _ v).bind fun _ => candid_countUp

theorem candid_setCapacity (n : Nat) : (setCapacity n : Op (HostArray c) Unit).Candid True :=
  candid_state.bind fun _ => (candid_raise trivial _ _).ite <|
    (candid_reallocate n).ite (candid_pure ())

theorem candid_advance (k : Cursor) (steps : Nat) :
    (k.advance steps : Op (HostArray c) (List (Option α) × Cursor)).Candid refuses := by
  induction steps generalizing k with
  | zero => exact candid_pure _
  | succ steps ih =>
    have hnext : (k.next : Op (HostArray c) (Option α × Cursor)).Candid refuses := by
      refine candid_state.bind fun _ => Candid.ite ?_ (candid_pure _)
      exact (candid_readAt _).bind fun _ => (candid_word _).bind fun _ => candid_pure _
    exact hnext.bind fun _ => (ih _).bind fun _ => candid_pure _

theorem candid_remaining (k : Cursor) : (k.remaining : Op (HostArray c) Nat).Candid refuses :=
  candid_state.bind fun _ => candid_difference _ _

theorem candid_perform (call : ArrayCall α) :
    (perform call : Op (HostArray c) (Reply α)).Candid True := by
  cases call with
  | get i => exact ((candid_checkIndex i).bind fun _ => candid_readAt i).bind fun _ => candid_pure _
  | set i v =>
    exact ((candid_checkIndex i).bind fun _ => candid_writeAt i v).bind fun _ => candid_pure _
  | append v => exact (candid_append v).bind fun _ => candid_pure _
  | appendAll vs => exact (candid_appendAll vs).bind fun _ => candid_pure _
  | insert i v => exact (candid_insert i v).bind fun _ => candid_pure _
  | removeAt i => exact (candid_removeAt i).bind fun _ => candid_pure _
  | truncate length => exact (candid_update _).bind fun _ => candid_pure _
  | resize length v => exact (candid_resize length v).bind fun _ => candid_pure _
  | clear => exact (candid_update _).bind fun _ => candid_pure _
  | setCapacity capacity => exact (candid_setCapacity capacity).bind fun _ => candid_pure _
  | reserve capacity => exact (candid_reserve capacity).bind fun _ => candid_pure _
  | elements =>
    exact (candid_state.bind fun _ => (candid_advance _ _).bind fun _ => candid_pure _).bind
      fun _ => candid_pure _
  | walk steps =>
    refine Candid.bind ?_ fun _ => candid_pure _
    exact (candid_remaining _).bind fun _ => (candid_advance _ _).bind fun _ =>
      (candid_remaining _).bind fun _ => candid_pure _

theorem candid_ofList {σ : Type} (vs : List α) : (ofList vs : Op σ (HostArray c)).Candid True :=
  (candid_withCapacity 0).bind fun fresh =>
    (((candid_appendAll vs).focus _ _).beside fresh).bind fun _ => candid_pure _

end HostArray

/-! ## The device in memory -/

namespace MemoryDevice

theorem candid_allocate (size : Nat) (usage : Usage) : (allocate size usage).Candid True :=
  candid_state.bind fun _ => ((candid_update _).bind fun _ => candid_raise trivial _ _).ite <|
    (candid_roomFor size).bind fun _ => (candid_update _).bind fun _ =>
      (candid_note (by decide) _ _).bind fun _ => candid_pure _

theorem candid_upload (h : Handle) (offset : Nat) (bytes : Bytes) :
    (upload h offset bytes).Candid True := by
  refine candid_state.bind fun d =>
    ((candid_update _).bind fun _ => candid_raise trivial _ _).ite ?_
  cases d.table.find? h with
  | none => exact candid_raise trivial _ _
  | some a =>
    exact (candid_raise trivial _ _).ite ((candid_raise trivial _ _).ite (candid_update _))

theorem candid_bind (h : Handle) : (bind h).Candid True :=
  candid_state.bind fun _ => (candid_update _).ite (candid_raise trivial _ _)

theorem candid_unbind (usage : Usage) : (unbind usage).Candid True :=
  candid_update _

theorem candid_release (h : Handle) : (release h).Candid True :=
  candid_state.bind fun _ => ((candid_update _).bind fun _ => candid_raise trivial _ _).ite <|
    ((candid_update _).bind fun _ => candid_note (by decide) _ _).ite (candid_raise trivial _ _)

theorem candid_perform (request : Device.Request) :
    (Device.perform request : Op MemoryDevice Device.Answer).Candid True := by
  cases request with
  | allocate size usage => exact (candid_allocate size usage).bind fun _ => candid_pure _
  | upload h offset bytes => exact (candid_upload h offset bytes).bind fun _ => candid_pure _
  | bind h => exact (candid_bind h).bind fun _ => candid_pure _
  | unbind usage => exact (candid_unbind usage).bind fun _ => candid_pure _
  | release h => exact (candid_release h).bind fun _ => candid_pure _

end MemoryDevice

/-! ## Synced arrays on the device in memory -/

namespace SyncedArray

variable {α : Type} {c : Codec α}

theorem candid_self {D : Type} {refuses : Prop} :
    (self : Op (SyncedArray c × D) _).Candid refuses :=
  candid_state.bind fun _ => candid_pure _

theorem candid_liveHandle {D : Type} : (liveHandle : Op (SyncedArray c × D) _).Candid True := by
  refine candid_self.bind fun a => ?_
  cases a.handle with
  | some h => exact candid_pure h
  | none => exact candid_raise trivial _ _

theorem candid_releasePending :
    (releasePending : Op (SyncedArray c × MemoryDevice) Unit).Candid True := by
  refine candid_self.bind fun a => ?_
  cases a.pending with
  | none => exact candid_pure ()
  | some h =>
    refine (candid_update _).bind fun _ => ?_
    exact ((MemoryDevice.candid_release h).focus _ _).undoing _

theorem candid_syncAllocation :
    (syncAllocation : Op (SyncedArray c × MemoryDevice) Unit).Candid True := by
  refine candid_self.bind fun a => Candid.ite ?_ (candid_pure ())
  refine ((MemoryDevice.candid_allocate _ _).focus _ _).bind fun _ => ?_
  refine (candid_update _).bind fun _ => (candid_note (by decide) _ _).bind fun _ => ?_
  exact (candid_update _).bind fun _ => candid_releasePending

theorem candid_uploadSpan (h : Handle) (s : Span) :
    (uploadSpan h s : Op (SyncedArray c × MemoryDevice) Unit).Candid True := by
  refine candid_self.bind fun a => (candid_ofOutcome ?_).bind fun bytes => ?_
  · intro e
    rw [Span.byteBounds]
    split
    · exact fun h => by cases h
    · exact fun h => by cases h
  · refine (candid_word _).bind fun _ => ?_
    refine Candid.ite (Candid.bind ?_ fun _ => candid_note (by decide) _ _) (candid_trap _)
    exact ((MemoryDevice.candid_upload _ _ _).focus _ _).undoing _

theorem candid_flush : (flush : Op (SyncedArray c × MemoryDevice) Unit).Candid True := by
  refine candid_liveHandle.bind fun _ => candid_releasePending.bind fun _ => ?_
  refine candid_syncAllocation.bind fun _ => candid_liveHandle.bind fun h => ?_
  refine candid_self.bind fun a => (candid_update _).bind fun _ => ?_
  cases a.marks.span with
  | none => exact candid_pure ()
  | some s => exact candid_uploadSpan h s

theorem candid_bind :
    (SyncedArray.bind : Op (SyncedArray c × MemoryDevice) Unit).Candid True := by
  have hrest : (bindCurrent : Op (SyncedArray c × MemoryDevice) Unit).Candid True :=
    candid_liveHandle.bind fun h => ((MemoryDevice.candid_bind h).focus _ _).bind fun _ =>
      candid_self.bind fun _ => candid_note (by decide) _ _
  refine candid_liveHandle.bind fun _ => candid_self.bind fun a => ?_
  split
  · exact candid_flush.bind fun _ => hrest
  · exact hrest

theorem candid_unbind : (unbind : Op (SyncedArray c × MemoryDevice) Unit).Candid True :=
  candid_liveHandle.bind fun _ => candid_self.bind fun a =>
    ((MemoryDevice.candid_unbind a.usage).focus _ _).bind fun _ => candid_note (by decide) _ _

theorem candid_dispose : (dispose : Op (SyncedArray c × MemoryDevice) Unit).Candid True := by
  refine candid_releasePending.bind fun _ => candid_self.bind fun a => ?_
  cases a.handle with
  | none => exact candid_pure ()
  | some h =>
    refine (candid_update _).bind fun _ => Candid.bind ?_ fun _ => candid_note (by decide) _ _
    exact ((MemoryDevice.candid_release h).focus _ _).undoing _

/-- A call on the elements reports what the call on the host array reports. -/
theorem candid_performArray {D : Type} (call : ArrayCall α) :
    (performArray call : Op (SyncedArray c × D) (Reply α)).Candid True := by
  rintro ⟨a, d⟩
  refine ⟨?_, fun _ _ => trivial⟩
  cases hh : a.handle with
  | none =>
    rw [performArray_of_none hh]
    exact (candid_raise trivial _ _ _).1
  | some h =>
    rw [performArray_of_some hh]
    have hhost := (HostArray.candid_perform call a.host).1
    exact ⟨hhost.quiet, hhost.told⟩

theorem candid_perform (call : Call α) :
    (perform call : Op (SyncedArray c × MemoryDevice) (Reply α)).Candid True := by
  cases call with
  | array call => exact candid_performArray call
  | flush => exact candid_flush.bind fun _ => candid_pure _
  | bind => exact candid_bind.bind fun _ => candid_pure _
  | unbind => exact candid_unbind.bind fun _ => candid_pure _
  | dispose => exact candid_dispose.bind fun _ => candid_pure _

theorem candid_create (config : ArrayConfig) :
    (create config : Op MemoryDevice (SyncedArray c)).Candid True :=
  (HostArray.candid_withCapacity _).bind fun _ => (MemoryDevice.candid_allocate _ _).bind fun _ =>
    (candid_note (by decide) _ _).bind fun _ => candid_pure _

theorem handle_of_create {D : Type} [Device D] {config : ArrayConfig} {d : D} {a : SyncedArray c}
    (ha : (create config d).outcome = .ok a) : ∃ h, a.handle = some h := by
  have hends : (create config d).Ends (fun a : SyncedArray c => fun _ => ∃ h, a.handle = some h)
      (fun _ => True) fun _ => True := by
    refine Op.ends_bind (Q := fun _ _ => True) ?_ fun host d _ => ?_
    · rcases (HostArray.withCapacity config.capacity : Op D (HostArray c)) d with ⟨_ | _ | _, _, _⟩
      · trivial
      · trivial
      · trivial
    · refine Op.ends_bind (Q := fun _ _ => True) ?_ fun h d _ => Run.ends_ok ⟨h, rfl⟩
      rcases (Device.allocate host.storage.length config.usage : Op D Handle) d with
        ⟨_ | _ | _, _, _⟩
      · trivial
      · trivial
      · trivial
  rw [Run.Ends, ha] at hends
  exact hends

/-- A live array takes up elements or breaks down. -/
theorem candid_appendAll {D : Type} {a : SyncedArray c} {h : Handle} (hh : a.handle = some h)
    (vs : List α) (d : D) :
    (appendAll vs (a, d)).Candid ∧ ∀ e, (appendAll vs (a, d)).outcome ≠ .error e := by
  have hrest : (onHost (HostArray.appendAll vs) >>= fun b =>
      change (markWritten b.start b.stop) >>= fun _ => pure b :
        Op (SyncedArray c × D) Bounds).Candid False :=
    ((HostArray.candid_appendAll vs).focus _ _).bind fun _ =>
      (candid_update _).bind fun _ => candid_pure _
  rw [appendAll, Op.bind_of_ok (liveHandle_of_some hh d), Run.after_nil]
  exact hrest (a, d)

theorem candid_ofList (config : ArrayConfig) (vs : List α) (d : MemoryDevice) :
    ((ofList config vs : Op MemoryDevice (SyncedArray c)) d).Candid := by
  refine (candid_create config d).1.bind fun fresh hfresh => ?_
  obtain ⟨h, hh⟩ := handle_of_create hfresh
  obtain ⟨hcandid, hne⟩ := candid_appendAll hh vs (create config d : Run _ (SyncedArray c)).state
  have hfill : (beside fresh ((appendAll vs).finishing drop)
      (create config d : Run _ (SyncedArray c)).state).Candid :=
    (hcandid.finishing hne drop).map _ _
  exact hfill.bind fun p _ => ((candid_pure p.2 : Op.Candid True _) _).1

end SyncedArray

/-! ## The end of an array -/

namespace MemoryDevice

/-- The device after releases that were asked for one after another. -/
def afterReleases (d : MemoryDevice) (handles : List Handle) : MemoryDevice :=
  handles.foldl (fun d h => (release h d).state) d

theorem afterReleases_append (d : MemoryDevice) (handles more : List Handle) :
    d.afterReleases (handles ++ more) = (d.afterReleases handles).afterReleases more :=
  List.foldl_append

/-- The runs of these releases. -/
def releases (d : MemoryDevice) : List Handle → List (Run MemoryDevice Unit)
  | [] => []
  | h :: rest => release h d :: (release h d).state.releases rest

theorem releases_append (d : MemoryDevice) (handles more : List Handle) :
    d.releases (handles ++ more) =
      d.releases handles ++ (d.afterReleases handles).releases more := by
  induction handles generalizing d with
  | nil => rfl
  | cons h rest ih =>
    rw [List.cons_append, releases, releases, ih]
    rfl

/-- A release is refused by an error of the device or granted. -/
theorem release_cases (d : MemoryDevice) (h : Handle) :
    (∃ reason d', release h d =
      { outcome := .error (.device reason), state := d', log := [refusal reason] }) ∨
    release h d = { outcome := .ok (), state := d.released h, log := [releaseEntry h] } := by
  cases hf : d.faults.release with
  | true => exact .inl ⟨_, _, release_of_fault hf h⟩
  | false =>
    cases hk : d.table.contains h with
    | true => exact .inr (release_of_known hf hk)
    | false => exact .inl ⟨_, _, release_of_unknown hf hk⟩

end MemoryDevice

namespace SyncedArray

variable {α : Type} {c : Codec α} {h : Handle} {d : MemoryDevice}

/-- What the end of an array says about a release: nothing of weight if it was granted; if it was
refused, the report of the error and then one warning. -/
def LastWords (r : Run MemoryDevice Unit) (l : List Log.Entry) : Prop :=
  match r.outcome with
  | .ok _ => ∀ entry ∈ l, entry.Quiet ∧ entry.severity ≠ .warn
  | .error e => ∃ told warning, l = [told, warning] ∧ told.Tells e ∧
      warning.severity = .warn ∧ warning.located = false
  | .trapped _ => False

/-- An operation that does what a release does says its last words if its refusal is dealt with by a
warning. -/
theorem lastWords_handle {x : Op (SyncedArray c × MemoryDevice) Unit}
    {p : SyncedArray c × MemoryDevice} {b : SyncedArray c}
    (hx : x p =
      { outcome := (MemoryDevice.release h d).outcome
        state := (b, (MemoryDevice.release h d).state)
        log := (MemoryDevice.release h d).log })
    (text : Error → String) :
    ∃ l, (x.handle fun e => note .warn source (text e)) p =
        { outcome := .ok (), state := (b, (MemoryDevice.release h d).state), log := l } ∧
      LastWords (MemoryDevice.release h d) l := by
  obtain ⟨reason, d', hrun⟩ | hrun := MemoryDevice.release_cases d h
  · rw [hrun] at hx
    rw [handle_of_error hx, hrun]
    exact ⟨_, rfl, _, _, rfl, ⟨rfl, rfl, rfl⟩, rfl, rfl⟩
  · rw [hrun] at hx
    rw [handle_of_ok hx, hrun]
    refine ⟨_, rfl, ?_⟩
    intro entry hmem
    obtain rfl := List.mem_singleton.mp hmem
    exact ⟨⟨by simp [MemoryDevice.releaseEntry], rfl⟩, by simp [MemoryDevice.releaseEntry]⟩

/-- A pending allocation is offered back, and the array forgets it or keeps it. -/
theorem exists_releasePending {a : SyncedArray c} (hp : a.pending = some h) (d : MemoryDevice) :
    ∃ b, releasePending (a, d) =
      { outcome := (MemoryDevice.release h d).outcome
        state := (b, (MemoryDevice.release h d).state)
        log := (MemoryDevice.release h d).log } := by
  have hstart : releasePending (a, d) = (onDevice (MemoryDevice.release h)).undoing
      (change fun a => { a with pending := some h }) ({ a with pending := none }, d) := by
    rw [releasePending, self_bind, hp]
    rfl
  rw [hstart, change]
  obtain ⟨reason, d', hrun⟩ | hrun := MemoryDevice.release_cases d h
  · exact ⟨_, by rw [undoing_of_error (onDevice_of_eq hrun _), hrun]⟩
  · exact ⟨_, by rw [undoing_of_ok (onDevice_of_eq hrun _), hrun]⟩

theorem lastWords_dropPending (a : SyncedArray c) (d : MemoryDevice) :
    ∃ b blocks, dropPending a (a, d) =
        { outcome := .ok ()
          state := (b, d.afterReleases a.pending.toList)
          log := blocks.flatten } ∧
      List.Forall₂ LastWords (d.releases a.pending.toList) blocks := by
  cases hp : a.pending with
  | none => exact ⟨a, [], handle_of_ok (releasePending_of_none hp d) _, .nil⟩
  | some h =>
    obtain ⟨b, hrun⟩ := exists_releasePending hp d
    obtain ⟨l, hdrop, hwords⟩ := lastWords_handle hrun _
    exact ⟨b, [l], by rw [List.flatten_singleton]; exact hdrop, .cons hwords .nil⟩

theorem lastWords_dropHandle (a b : SyncedArray c) (d : MemoryDevice) :
    ∃ b' blocks, dropHandle a (b, d) =
        { outcome := .ok ()
          state := (b', d.afterReleases a.handle.toList)
          log := blocks.flatten } ∧
      List.Forall₂ LastWords (d.releases a.handle.toList) blocks := by
  rw [dropHandle]
  cases hh : a.handle with
  | none => exact ⟨b, [], rfl, .nil⟩
  | some h =>
    simp only [change_bind]
    obtain ⟨l, hdrop, hwords⟩ :=
      lastWords_handle (onDevice_of_eq (x := MemoryDevice.release h) (d := d) rfl
        { b with handle := none }) _
    exact ⟨_, [l], by rw [List.flatten_singleton]; exact hdrop, .cons hwords .nil⟩

/-- The end of an array offers a pending allocation back and then its own, and says last words about
each. -/
theorem lastWords_drop (a : SyncedArray c) (d : MemoryDevice) :
    ∃ b blocks, drop (a, d) =
        { outcome := .ok ()
          state := (b, d.afterReleases (a.pending.toList ++ a.handle.toList))
          log := blocks.flatten } ∧
      List.Forall₂ LastWords (d.releases (a.pending.toList ++ a.handle.toList)) blocks := by
  obtain ⟨b, first, hfirst, hpending⟩ := lastWords_dropPending a d
  obtain ⟨b', second, hsecond, hhandle⟩ :=
    lastWords_dropHandle a b (d.afterReleases a.pending.toList)
  refine ⟨b', first ++ second, ?_, ?_⟩
  · rw [drop_eq, Op.bind_of_ok hfirst, hsecond, Run.after, List.flatten_append,
      MemoryDevice.afterReleases_append]
  · rw [MemoryDevice.releases_append]
    exact List.rel_append hpending hhandle

end SyncedArray

/-! ## All operations -/

/-- Whatever is asked of spans, marks, host arrays, the device in memory and synced arrays on it, in
whatever state, an error is reported once, last and with its place, and nothing else is reported as
an error.  Dropping an array always ends well; for each release that is refused then, the error is
reported and one warning behind it. -/
theorem errors_reported_once {α σ : Type} (c : Codec α) :
    (∀ (first last : Nat) (s : σ), (Span.between first last s).Candid) ∧
    (∀ (first last : Nat) (m : Marks), (Marks.markBetween first last m).Candid) ∧
    (∀ (capacity : Nat) (s : σ),
      ((HostArray.withCapacity capacity : Op σ (HostArray c)) s).Candid) ∧
    (∀ (vs : List α) (s : σ), ((HostArray.ofList vs : Op σ (HostArray c)) s).Candid) ∧
    (∀ (call : ArrayCall α) (a : HostArray c), (HostArray.perform call a).Candid) ∧
    (∀ (request : Device.Request) (d : MemoryDevice), (Device.perform request d).Candid) ∧
    (∀ (config : ArrayConfig) (d : MemoryDevice),
      ((SyncedArray.create config : Op MemoryDevice (SyncedArray c)) d).Candid) ∧
    (∀ (config : ArrayConfig) (vs : List α) (d : MemoryDevice),
      ((SyncedArray.ofList config vs : Op MemoryDevice (SyncedArray c)) d).Candid) ∧
    (∀ (call : SyncedArray.Call α) (a : SyncedArray c) (d : MemoryDevice),
      (SyncedArray.perform call (a, d)).Candid) ∧
    (∀ (a : SyncedArray c) (d : MemoryDevice), ∃ blocks : List (List Log.Entry),
      (SyncedArray.drop (a, d)).outcome = .ok () ∧
      (SyncedArray.drop (a, d)).log = blocks.flatten ∧
      List.Forall₂ SyncedArray.LastWords
        (d.releases (a.pending.toList ++ a.handle.toList)) blocks) := by
  refine ⟨fun first last s => (Span.candid_between first last s).1,
    fun first last m => (Marks.candid_markBetween first last m).1,
    fun n s => ((HostArray.candid_withCapacity n : Op.Candid True _) s).1,
    fun vs s => (HostArray.candid_ofList vs s).1,
    fun call a => (HostArray.candid_perform call a).1,
    fun request d => (MemoryDevice.candid_perform request d).1,
    fun config d => (SyncedArray.candid_create config d).1,
    fun config vs d => SyncedArray.candid_ofList config vs d,
    fun call a d => (SyncedArray.candid_perform call (a, d)).1, fun a d => ?_⟩
  obtain ⟨b, blocks, hrun, hwords⟩ := SyncedArray.lastWords_drop a d
  exact ⟨blocks, by rw [hrun], by rw [hrun], hwords⟩

end BufferSync
