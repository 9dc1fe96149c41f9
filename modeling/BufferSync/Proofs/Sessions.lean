import BufferSync.Proofs.DeviceRuns

/-!
# Sessions of a device

A session is any list of calls to one device in memory: requests, on whatever handles, calls that
arm a fault, and calls that let the device forget its records.  What happened in it is kept as a
list of exchanges, each with the call, its outcome and the device that it left behind.

*Failures.*  A call that did not end well, or that only armed a fault, leaves the device as it was
apart from the faults; a call that ended well does the same to a device without faults
(`serve_cases`).  Hence these calls can be left out of a session, and all others go on as they did
(`failures_untraced`).

*Handles.*  The allocations made and given back in a session are those of its chronicle, so what
`Chronicle` says about new handles holds of sessions (`handles_never_reused`).
-/

namespace BufferSync

open Device (made gone)

namespace MemoryDevice

/-! ## Calls and exchanges -/

/-- A kind of request that can be made to fail once. -/
inductive Fault where
  /-- The next allocation fails. -/
  | allocate
  /-- The next upload fails. -/
  | upload
  /-- The next release fails. -/
  | release
deriving DecidableEq, Repr

/-- The device with a fault armed. -/
def armed (fault : Fault) (d : MemoryDevice) : MemoryDevice :=
  match fault with
  | .allocate => { d with faults.allocate := true }
  | .upload => { d with faults.upload := true }
  | .release => { d with faults.release := true }

/-- A call to the device. -/
inductive Call where
  /-- Make a request. -/
  | request (r : Device.Request)
  /-- Arm a fault. -/
  | arm (fault : Fault)
  /-- Forget the records. -/
  | forgetEvents
deriving DecidableEq, Repr

/-- Runs a call. -/
def serve : Call → Op MemoryDevice Device.Answer
  | .request r => Device.perform r
  | .arm fault => do
    Op.update (armed fault)
    pure .done
  | .forgetEvents => do
    Op.update forgetEvents
    pure .done

/-- A call that was made, and what came of it. -/
structure Exchange where
  /-- The call. -/
  call : Call
  /-- How it ended. -/
  outcome : Outcome Device.Answer
  /-- The device afterwards, faults aside. -/
  left : MemoryDevice
deriving DecidableEq, Repr

/-- The exchanges when calls are made one after another, whatever their outcomes. -/
def session (d : MemoryDevice) : List Call → List Exchange
  | [] => []
  | call :: rest =>
      { call, outcome := (serve call d).outcome, left := (serve call d).state.disarmed } ::
        session (serve call d).state rest

/-- The device after these calls. -/
def after (d : MemoryDevice) (calls : List Call) : MemoryDevice :=
  calls.foldl (fun d call => (serve call d).state) d

/-- The call ended well, and it was more than the arming of a fault. -/
def Exchange.lasting (x : Exchange) : Bool :=
  match x.call with
  | .arm _ => false
  | _ => x.outcome.isOk

/-- The handle that an allocation returned. -/
def Exchange.returned? (x : Exchange) : Option Handle :=
  match x.call, x.outcome with
  | .request (.allocate _ _), .ok (.handle h) => some h
  | _, _ => none

/-- The handle that was released. -/
def Exchange.givenBack? (x : Exchange) : Option Handle :=
  match x.call, x.outcome with
  | .request (.release h), .ok _ => some h
  | _, _ => none

/-- The handles that allocations returned, in order. -/
def returned (xs : List Exchange) : List Handle := xs.filterMap Exchange.returned?

/-- The handles that were released, in order. -/
def givenBack (xs : List Exchange) : List Handle := xs.filterMap Exchange.givenBack?

/-! ## Failures -/

/-- A request that is granted is granted in the same way when no fault is armed. -/
theorem Granted.disarmed {d d' : MemoryDevice} {r : Device.Request} {answer : Device.Answer}
    {event : Device.Event} (h : Granted d r answer event d') :
    Granted d.disarmed r answer event d'.disarmed := by
  cases h with
  | allocate usage room => exact .allocate usage room
  | upload known room => exact .upload known room
  | bind known => exact .bind known
  | unbind usage => exact .unbind usage
  | release known => exact .release known

/-- When no fault is armed, a request that can be granted is granted. -/
theorem Granted.perform {d d' : MemoryDevice} {r : Device.Request} {answer : Device.Answer}
    {event : Device.Event} (h : Granted d.disarmed r answer event d') :
    ∃ l, Device.perform r d.disarmed = { outcome := .ok answer, state := d', log := l } := by
  cases h with
  | allocate usage room =>
    rw [perform_of_eq rfl (allocate_of_le rfl room usage)]
    exact ⟨_, rfl⟩
  | upload known room =>
    rw [perform_of_eq rfl (upload_of_le rfl known room.1 room.2)]
    exact ⟨_, rfl⟩
  | bind known =>
    rw [perform_of_eq rfl (bind_of_known known)]
    exact ⟨_, rfl⟩
  | unbind usage =>
    rw [perform_of_eq rfl (unbind_eq usage _)]
    exact ⟨_, rfl⟩
  | release known =>
    rw [perform_of_eq rfl (release_of_known rfl known)]
    exact ⟨_, rfl⟩

/-- A call either lasts, and then it has the same outcome and the same effect on a device without
faults, or it changes nothing but the faults. -/
theorem serve_cases (call : Call) (d : MemoryDevice) :
    (Exchange.lasting ⟨call, (serve call d).outcome, (serve call d).state.disarmed⟩ = true ∧
      (serve call d.disarmed).outcome = (serve call d).outcome ∧
      (serve call d.disarmed).state = (serve call d).state.disarmed) ∨
    (Exchange.lasting ⟨call, (serve call d).outcome, (serve call d).state.disarmed⟩ = false ∧
      (serve call d).state.disarmed = d.disarmed) := by
  cases call with
  | request r =>
    have hserved := served r d
    rw [serve]
    generalize Device.perform r d = run at hserved
    cases hserved with
    | granted hgranted =>
      obtain ⟨l, hrun⟩ := hgranted.disarmed.perform
      rw [hrun]
      exact .inl ⟨rfl, rfl, rfl⟩
    | refused same => exact .inr ⟨rfl, same⟩
    | trapped asked excess => exact .inr ⟨rfl, rfl⟩
  | arm fault =>
    right
    cases fault with
    | allocate => exact ⟨rfl, rfl⟩
    | upload => exact ⟨rfl, rfl⟩
    | release => exact ⟨rfl, rfl⟩
  | forgetEvents => exact .inl ⟨rfl, rfl, rfl⟩

/-- The calls that last make, on a device without faults, the same exchanges alone. -/
theorem session_lasting (d : MemoryDevice) (calls : List Call) :
    session d.disarmed (((session d calls).filter Exchange.lasting).map Exchange.call) =
        (session d calls).filter Exchange.lasting ∧
      after d.disarmed (((session d calls).filter Exchange.lasting).map Exchange.call) =
        (after d calls).disarmed := by
  induction calls generalizing d with
  | nil => exact ⟨rfl, rfl⟩
  | cons call rest ih =>
    obtain ⟨hsession, hafter⟩ := ih (serve call d).state
    rw [session]
    obtain ⟨hlasts, houtcome, hstate⟩ | ⟨hfades, hsame⟩ := serve_cases call d
    · -- The call is made in both sessions, and the devices it leaves differ in their faults only.
      rw [List.filter_cons_of_pos hlasts, List.map_cons, session, after, List.foldl_cons,
        houtcome, hstate, hsession]
      exact ⟨rfl, hafter⟩
    · rw [List.filter_cons_of_neg (by rw [hfades]; exact Bool.false_ne_true), ← hsame]
      exact ⟨hsession, hafter⟩

/-- Failed calls leave no trace: without them and without the arming of faults, every other call of
a session ends as it did and leaves the same device behind, faults aside, and so do the calls of
every session that follows. -/
theorem failures_untraced (calls later : List Call) :
    let kept := (session {} calls).filter Exchange.lasting
    let onward := (session (after {} calls) later).filter Exchange.lasting
    session {} (kept.map Exchange.call) = kept ∧
      after {} (kept.map Exchange.call) = (after {} calls).disarmed ∧
      session (after {} (kept.map Exchange.call)) (onward.map Exchange.call) = onward := by
  intro kept onward
  obtain ⟨hsession, hafter⟩ := session_lasting {} calls
  have honward := (session_lasting (after {} calls) later).1
  rw [← hafter] at honward
  exact ⟨hsession, hafter, honward⟩

/-- An allocation that meets a fault, one that no region has room for, and a release of a handle
from nowhere leave a session with one allocation. -/
example :
    ((session {} [.arm .allocate, .request (.allocate 4 .vertex),
      .request (.allocate (regionLimit + 1) .vertex), .request (.release .null),
      .request (.allocate 4 .vertex)]).filter Exchange.lasting).map
        (fun x => (x.call, x.outcome)) =
      [(.request (.allocate 4 .vertex), .ok (.handle ⟨1, 1⟩))] := by decide

/-! ## Handles -/

/-- The device has nothing under the handle, and refuses every request about it. -/
structure Defunct (d : MemoryDevice) (h : Handle) : Prop where
  /-- It has no bytes. -/
  contents : d.contents? h = none
  /-- It has no size. -/
  size : d.size? h = none
  /-- It has no usage. -/
  usage : d.usage? h = none
  /-- Nothing can be copied to it. -/
  upload : ∀ offset bytes,
    ∃ reason, (Device.upload h offset bytes d).outcome = .error (.device reason)
  /-- It cannot be bound. -/
  bind : ∃ reason, (Device.bind h d).outcome = .error (.device reason)
  /-- It cannot be released. -/
  release : ∃ reason, (Device.release h d).outcome = .error (.device reason)

/-- A handle that is not known is defunct, whatever faults are armed. -/
theorem defunct_of_unknown {d : MemoryDevice} {h : Handle} (hk : d.table.contains h = false) :
    d.Defunct h := by
  have hfind := HandleTable.find?_of_not_contains hk
  have hcontents : d.contents? h = none := by rw [contents?, hfind]; rfl
  refine ⟨hcontents, by rw [size?, hcontents]; rfl, by rw [usage?, hfind]; rfl, ?_, ?_, ?_⟩
  · intro offset bytes
    cases hf : d.faults.upload with
    | true => exact ⟨_, congrArg Run.outcome (upload_of_fault hf h offset bytes)⟩
    | false =>
      obtain ⟨reason, -, hrun⟩ | ⟨a, ha, -⟩ := upload_cases hf h offset bytes
      · exact ⟨reason, congrArg Run.outcome hrun⟩
      · rw [hfind] at ha
        cases ha
  · exact ⟨_, congrArg Run.outcome (bind_of_unknown hk)⟩
  · cases hf : d.faults.release with
    | true => exact ⟨_, congrArg Run.outcome (release_of_fault hf h)⟩
    | false => exact ⟨_, congrArg Run.outcome (release_of_unknown hf hk)⟩

/-- What an exchange says about handles is what the chronicle of its call says. -/
theorem exists_chronicle_serve {d : MemoryDevice} (hd : d.table.Sound) (call : Call) :
    ∃ new, Chronicle { inner := d } { inner := (serve call d).state } new ∧
      ∀ left, made new = (Exchange.returned? ⟨call, (serve call d).outcome, left⟩).toList ∧
        gone new = (Exchange.givenBack? ⟨call, (serve call d).outcome, left⟩).toList := by
  cases call with
  | request r =>
    have hserved := served r d
    rw [serve]
    generalize Device.perform r d = run at hserved
    cases hserved with
    | granted hgranted =>
      refine ⟨_, (Recorded.of_granted (g := { inner := d }) hd hgranted).toChronicle, ?_⟩
      intro left
      cases hgranted with
      | allocate usage room => exact ⟨rfl, rfl⟩
      | upload known room => exact ⟨rfl, rfl⟩
      | bind known => exact ⟨rfl, rfl⟩
      | unbind usage => exact ⟨rfl, rfl⟩
      | release known => exact ⟨rfl, rfl⟩
    | refused same =>
      refine ⟨[], (Recorded.of_disarmed_eq (g := { inner := d }) hd same).toChronicle, ?_⟩
      intro left
      cases r <;> exact ⟨rfl, rfl⟩
    | trapped asked excess =>
      refine ⟨[], .refl hd, ?_⟩
      intro left
      cases r <;> exact ⟨rfl, rfl⟩
  | arm fault =>
    refine ⟨[], .of_table_eq hd ?_ rfl rfl rfl, fun left => ⟨rfl, rfl⟩⟩
    cases fault with
    | allocate => rfl
    | upload => rfl
    | release => rfl
  | forgetEvents => exact ⟨[], .of_table_eq hd rfl rfl rfl rfl, fun left => ⟨rfl, rfl⟩⟩

/-- The handles of a session are those of a chronicle. -/
theorem exists_chronicle_session {d : MemoryDevice} (hd : d.table.Sound) (calls : List Call) :
    ∃ new, Chronicle { inner := d } { inner := after d calls } new ∧
      made new = returned (session d calls) ∧ gone new = givenBack (session d calls) := by
  induction calls generalizing d with
  | nil => exact ⟨[], .refl hd, rfl, rfl⟩
  | cons call rest ih =>
    obtain ⟨new, hnew, hhandles⟩ := exists_chronicle_serve hd call
    obtain ⟨hmade, hgone⟩ := hhandles (serve call d).state.disarmed
    obtain ⟨later, hlater, hmades, hgones⟩ := ih hnew.sound
    refine ⟨new ++ later, hnew.trans hlater, ?_, ?_⟩
    · rw [Device.made_append, hmade, hmades, returned, returned, session, List.filterMap_cons]
      split
      next hnone => rw [hnone]; rfl
      next h hsome => rw [hsome]; rfl
    · rw [Device.gone_append, hgone, hgones, givenBack, givenBack, session, List.filterMap_cons]
      split
      next hnone => rw [hnone]; rfl
      next h hsome => rw [hsome]; rfl

/-- Handles are never used again: no two allocations of a session return the same handle, and a
handle that was released stays defunct. -/
theorem handles_never_reused (calls : List Call) :
    (returned (session {} calls)).Nodup ∧
      ∀ h ∈ givenBack (session {} calls), (after {} calls).Defunct h := by
  obtain ⟨new, hnew, hmade, hgone⟩ :=
    exists_chronicle_session (d := {}) HandleTable.sound_empty calls
  refine ⟨hmade ▸ hnew.made_nodup, ?_⟩
  intro h hh
  have hdead : ¬ (after {} calls).table.contains h = true := fun hlive =>
    ((hnew.live h).mp hlive).2 (hgone ▸ hh)
  exact defunct_of_unknown (Bool.eq_false_iff.mpr hdead)

/-- The slot of a released handle is used again, the handle is not. -/
theorem handles_never_reused_recycled :
    let calls := [.request (.allocate 4 .vertex), .request (.release ⟨1, 1⟩),
      .request (.allocate 8 .index)]
    returned (session {} calls) = [⟨1, 1⟩, ⟨1, 3⟩] ∧ ⟨1, 1⟩ ∈ givenBack (session {} calls) ∧
      (after {} calls).Defunct ⟨1, 1⟩ :=
  ⟨by decide, by decide, (handles_never_reused _).2 ⟨1, 1⟩ (by decide)⟩

end MemoryDevice

end BufferSync
