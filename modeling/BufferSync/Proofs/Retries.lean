import BufferSync.Proofs.Settling

/-!
# Trying again after faults

A flush or a bind that a fault has stopped can be tried again, with other faults armed before each
attempt.  When an attempt ends well at last, everything is as if the call had been made once and
without faults: the same requests were granted in the same order, the array is the same, and the
device is.  A bind that ends well is recorded each time, also when an earlier one had ended well.
-/

namespace BufferSync

namespace SyncedArray

variable {α : Type} {c : Codec α} {h : Handle} {p : SyncedArray c × Gate MemoryDevice}

theorem rebound_fst (p : SyncedArray c × Gate MemoryDevice) : (rebound p).1 = p.1 := by
  rw [rebound]
  split
  · rfl
  · rfl

/-- A binding that is made again and again is recorded again and again; nothing else happens. -/
theorem iterate_rebound (hh : p.1.handle = some h) (n : Nat) :
    rebound^[n] (rebound p) =
      (p.1,
        { p.2 with
          inner :=
            { p.2.inner with
              bound := some h
              history := List.replicate (n + 1) (.bound h) ++ p.2.inner.history } }) := by
  induction n with
  | zero =>
    rw [Function.iterate_zero_apply, rebound_of_some hh]
    rfl
  | succ n ih =>
    rw [Function.iterate_succ_apply', ih]
    exact rebound_of_some hh

end SyncedArray

namespace Scene

variable {s : Scene} {k : Nat} {m : Member} {p : SyncedArray m.format.codec × Gate MemoryDevice}

open SyncedArray (calm settled crowned Ready)

/-! ## Attempts -/

/-- One attempt at a call on array `k`: faults are armed, then the call is made. -/
def attempt (k : Nat) (f : Format) (call : SyncedArray.Call f.Element) (faults : List Fault) :
    List Action :=
  faults.map .arm ++ [.call k f call]

/-- One attempt after another. -/
def attempts (k : Nat) (f : Format) (call : SyncedArray.Call f.Element)
    (rounds : List (List Fault)) : List Action :=
  rounds.flatMap (attempt k f call)

/-- Whether an attempt ends well. -/
def succeeds (k : Nat) (f : Format) (call : SyncedArray.Call f.Element) (s : Scene)
    (faults : List Fault) : Bool :=
  (step (.call k f call) (run s (faults.map .arm))).outcome.isOk

/-- Number of attempts that end well. -/
def granted (k : Nat) (f : Format) (call : SyncedArray.Call f.Element) :
    Scene → List (List Fault) → Nat
  | _, [] => 0
  | s, faults :: rest =>
      granted k f call (run s (attempt k f call faults)) rest +
        if succeeds k f call s faults then 1 else 0

/-! ## The array in its scene -/

/-- The scene in which array `k`, which is `m` otherwise, and the gate are those of `p`. -/
def placed (s : Scene) (k : Nat) (m : Member) (p : SyncedArray m.format.codec × Gate MemoryDevice) :
    Scene :=
  s.withMember k (some { m with array := p.1 }) p.2

theorem placed_self (hm : s.member? k = some m) : s.placed k m (m.array, s.gate) = s := by
  have hset : s.members.set k (some m) = s.members := by
    obtain ⟨hlt, hget⟩ := List.getElem?_eq_some_iff.mp (getElem?_of_member? hm)
    rw [← hget, List.set_getElem_self]
  rw [placed, withMember]
  exact congrArg (fun members => { s with members }) hset

theorem member?_placed (hk : k < s.members.length) :
    (s.placed k m p).member? k = some { m with array := p.1 } :=
  member?_withMember_self hk _ _

/-- A call is made on the array and its gate; the rest of the scene stays. -/
theorem step_call_placed (hk : k < s.members.length) (call : SyncedArray.Call m.format.Element) :
    step (.call k m.format call) (s.placed k m p) =
      { outcome := (SyncedArray.perform call p).outcome.map (.reply m.format)
        state := s.placed k m (SyncedArray.perform call p).state
        log := (SyncedArray.perform call p).log } := by
  refine (step_call (member?_placed hk) call).trans ?_
  rw [placed, placed, withMember, withMember, withMember, List.set_set]

theorem run_arm_placed (s : Scene) (k : Nat) (m : Member)
    (p : SyncedArray m.format.codec × Gate MemoryDevice) (faults : List Fault) :
    ∃ g, g.calm = p.2.calm ∧ run (s.placed k m p) (faults.map .arm) = s.placed k m (p.1, g) := by
  induction faults generalizing p with
  | nil => exact ⟨p.2, rfl, rfl⟩
  | cons fault rest ih =>
    obtain ⟨g, hcalm, hrun⟩ := ih (p.1, armed fault p.2)
    refine ⟨g, ?_, hrun⟩
    rw [hcalm]
    cases fault <;> rfl

/-- The array and its gate after an attempt: if it ends well, the call is done; if not, what is left
to do leads to the same place. -/
theorem exists_attempt (hk : k < s.members.length) (hready : Ready p)
    {call : SyncedArray.Call m.format.Element} (hsyncs : call.Syncs) (faults : List Fault) :
    ∃ p', run (s.placed k m p) (attempt k m.format call faults) = s.placed k m p' ∧ Ready p' ∧
      (succeeds k m.format call (s.placed k m p) faults = true →
        calm p' = crowned call (settled (calm p)) ∧ settled (calm p') = calm p') ∧
      (succeeds k m.format call (s.placed k m p) faults = false →
        settled (calm p') = settled (calm p)) := by
  obtain ⟨g, hcalm, hrun⟩ := run_arm_placed s k m p faults
  have hsame : calm (p.1, g) = calm p := Prod.ext rfl hcalm
  have hready' : Ready (p.1, g) := hready.of_calm_eq hcalm
  have hnears := SyncedArray.nears_perform hready' hsyncs
  obtain ⟨hafter, hsettled⟩ := hready'.perform hsyncs
  have hsucceeds : succeeds k m.format call (s.placed k m p) faults =
      (SyncedArray.perform call (p.1, g)).outcome.isOk := by
    rw [succeeds, hrun, step_call_placed hk, Outcome.isOk_map]
  rw [hsame] at hnears
  refine ⟨(SyncedArray.perform call (p.1, g)).state, ?_, hafter, ?_, ?_⟩
  · rw [attempt, run_append, hrun, run_cons, step_call_placed hk]
    rfl
  · intro hok
    rw [hsucceeds] at hok
    exact ⟨hnears.done hok, SyncedArray.settled_of_settled (hsettled hok)⟩
  · intro hfail
    rw [hsucceeds] at hfail
    exact hnears.rest hfail

/-- After any number of attempts, what is left to do leads to where the call alone leads, apart from
what the attempts that ended well have added. -/
theorem exists_attempts (hk : k < s.members.length) (hready : Ready p)
    {call : SyncedArray.Call m.format.Element} (hsyncs : call.Syncs) (rounds : List (List Fault)) :
    ∃ p', run (s.placed k m p) (attempts k m.format call rounds) = s.placed k m p' ∧ Ready p' ∧
      settled (calm p') =
        (crowned call)^[granted k m.format call (s.placed k m p) rounds] (settled (calm p)) := by
  induction rounds generalizing p with
  | nil => exact ⟨p, rfl, hready, rfl⟩
  | cons faults rest ih =>
    obtain ⟨p₁, hrun₁, hready₁, hdone, hrest⟩ := exists_attempt hk hready hsyncs faults
    obtain ⟨p₂, hrun₂, hready₂, hsettled₂⟩ := ih hready₁
    refine ⟨p₂, ?_, hready₂, ?_⟩
    · rw [attempts, List.flatMap_cons, run_append, hrun₁]
      exact hrun₂
    · rw [hsettled₂, granted, hrun₁, Function.iterate_add_apply]
      congr 1
      cases hs : succeeds k m.format call (s.placed k m p) faults with
      | true =>
        obtain ⟨hcalm, hsame⟩ := hdone hs
        rw [hsame, hcalm]
        rfl
      | false => exact hrest hs

/-- If the last attempt ends well, the attempts have done what the call alone does without faults,
and what the earlier ones that ended well have added. -/
theorem exists_final (hk : k < s.members.length) (hready : Ready p) (hcalm : calm p = p)
    {call : SyncedArray.Call m.format.Element} (hsyncs : call.Syncs) (rounds : List (List Fault))
    (last : List Fault)
    (hok : succeeds k m.format call (run (s.placed k m p) (attempts k m.format call rounds)) last =
      true) :
    (SyncedArray.perform call p).outcome.isOk = true ∧
      ∃ p', run (s.placed k m p) (attempts k m.format call (rounds ++ [last])) = s.placed k m p' ∧
        calm p' = (crowned call)^[granted k m.format call (s.placed k m p) rounds]
          (calm (SyncedArray.perform call p).state) := by
  have hended := SyncedArray.isOk_of_calm hready hcalm hsyncs
  have halone := (SyncedArray.nears_perform hready hsyncs).done hended
  obtain ⟨p₁, hrun₁, hready₁, hsettled₁⟩ := exists_attempts hk hready hsyncs rounds
  obtain ⟨p₂, hrun₂, -, hlast, -⟩ := exists_attempt hk hready₁ hsyncs last
  rw [hrun₁] at hok
  refine ⟨hended, p₂, ?_, ?_⟩
  · rw [attempts, List.flatMap_append, run_append, List.flatMap_singleton]
    exact (congrArg (fun t => run t _) hrun₁).trans hrun₂
  · rw [(hlast hok).1, hsettled₁, halone]
    exact (Function.iterate_succ_apply' _ _ _).symm.trans (Function.iterate_succ_apply _ _ _)

/-! ## All attempts together -/

/-- The scene is reached by a run in which no request to the device names a handle of array `k`. -/
def Untampered (k : Nat) (s : Scene) : Prop :=
  ∃ actions, Along (Spares k) {} actions ∧ run {} actions = s

theorem Undisturbed.ready (hs : s.Undisturbed k) (hm : s.member? k = some m)
    (hlive : m.array.isDisposed = false) : Ready (m.array, s.gate) := by
  refine ⟨hs.sound.array_held hm, hs.synced m hm, ?_, ?_⟩
  · rw [← heldBy_of_member? hm]
    exact hs.live
  · cases hh : m.array.handle with
    | none =>
      rw [SyncedArray.isDisposed, hh] at hlive
      cases hlive
    | some h => rfl

theorem Untampered.ready (hs : Untampered k s) (hm : s.member? k = some m)
    (hlive : m.array.isDisposed = false) : Ready (m.array, s.gate) := by
  obtain ⟨actions, hspares, rfl⟩ := hs
  exact ((undisturbed_empty k).run hspares).ready hm hlive

/-- Apart from armed faults, the scene `t` is the scene `s` with `again` recorded on top. -/
structure Agrees (t s : Scene) (again : List Device.Event) : Prop where
  /-- The arrays are the same. -/
  members : t.members = s.members
  /-- The allocations are the same, and so are the handles to be issued. -/
  table : t.device.table = s.device.table
  /-- The active allocation is the same. -/
  bound : t.device.bound = s.device.bound
  /-- The requests that were granted. -/
  events : t.device.events = s.device.events ++ again

theorem agrees_placed {p' : SyncedArray m.format.codec × Gate MemoryDevice}
    {again : List Device.Event} (harray : p'.1 = p.1)
    (htable : p'.2.inner.table = p.2.inner.table) (hbound : p'.2.inner.bound = p.2.inner.bound)
    (hevents : p'.2.inner.events = p.2.inner.events ++ again) :
    Agrees (s.placed k m p') (s.placed k m p) again where
  members := by
    rw [placed, placed, withMember, withMember, harray]
  table := htable
  bound := hbound
  events := hevents

/-- Further bindings of the active allocation are recorded and change nothing else. -/
theorem agrees_of_rebound {p' q : SyncedArray m.format.codec × Gate MemoryDevice} {h : Handle}
    {n : Nat} (hh : p.1.handle = some h) (hp : calm p = SyncedArray.rebound q)
    (hp' : calm p' = SyncedArray.rebound^[n] (calm p)) :
    Agrees (s.placed k m p') (s.placed k m p) (List.replicate n (.bound h)) := by
  have hq : q.1.handle = some h := by
    rw [← SyncedArray.rebound_fst q, ← hp]
    exact hh
  rw [hp, SyncedArray.iterate_rebound hq] at hp'
  rw [SyncedArray.rebound_of_some hq] at hp
  refine agrees_placed ?_ ?_ ?_ ?_
  · exact (congrArg (fun r => r.1) hp').trans (congrArg (fun r => r.1) hp).symm
  · exact (congrArg (fun r => r.2.inner.table) hp').trans
      (congrArg (fun r => r.2.inner.table) hp).symm
  · exact (congrArg (fun r => r.2.inner.bound) hp').trans
      (congrArg (fun r => r.2.inner.bound) hp).symm
  · have hevents : p'.2.inner.events = _ := congrArg (fun r => r.2.inner.events) hp'
    have hevents' : p.2.inner.events = _ := congrArg (fun r => r.2.inner.events) hp
    rw [hevents, hevents']
    simp [MemoryDevice.events, SyncedArray.afterBind, MemoryDevice.boundTo, MemoryDevice.record,
      List.replicate_succ']

/-- Attempts at a flush or a bind, each after arming faults, end where the call alone ends as soon
as the last of them ends well: the arrays, the allocations, the active allocation and the granted
requests are the same.  Of a bind there is one more record for each earlier attempt that had already
ended well. -/
theorem attempts_agree (hs : Untampered k s) (hm : s.member? k = some m)
    (hlive : m.array.isDisposed = false) (hcalm : s.gate.calm = s.gate)
    {call : SyncedArray.Call m.format.Element} (hcall : call = .flush ∨ call = .bind)
    (rounds : List (List Fault)) (last : List Fault)
    (hok : succeeds k m.format call (run s (attempts k m.format call rounds)) last = true) :
    (step (.call k m.format call) s).outcome.isOk = true ∧
    (call = .flush → Agrees (run s (attempts k m.format call (rounds ++ [last])))
      (step (.call k m.format call) s).state []) ∧
    (call = .bind → Agrees (run s (attempts k m.format call (rounds ++ [last])))
      (step (.call k m.format call) s).state
      (List.replicate (granted k m.format call s rounds)
        (.bound ((step (.call k m.format call) s).state.handleOf k)))) := by
  have hsyncs : call.Syncs := by
    rcases hcall with rfl | rfl
    · trivial
    · trivial
  have hk := lt_of_member? hm
  have hready := hs.ready hm hlive
  have hself := placed_self hm
  have hstep := step_call_placed (s := s) (p := (m.array, s.gate)) hk call
  rw [← hself] at hok
  obtain ⟨hended, p', hrun, hfinal⟩ :=
    exists_final hk hready (Prod.ext rfl hcalm) hsyncs rounds last hok
  rw [hself] at hstep hrun hfinal
  rw [hstep, hrun]
  refine ⟨(Outcome.isOk_map _ _).trans hended, ?_, ?_⟩
  · rintro rfl
    have hsame : calm p' = calm (SyncedArray.perform .flush (m.array, s.gate)).state :=
      hfinal.trans (congrFun (Function.iterate_id _) _)
    refine agrees_placed (congrArg (fun q => q.1) hsame) (congrArg (fun q => q.2.inner.table) hsame)
      (congrArg (fun q => q.2.inner.bound) hsame) ?_
    rw [List.append_nil]
    exact congrArg (fun q => q.2.inner.events) hsame
  · rintro rfl
    obtain ⟨h, hh⟩ := Option.isSome_iff_exists.mp (hready.perform hsyncs).1.handle
    have halone := (SyncedArray.nears_perform hready hsyncs).done hended
    generalize (SyncedArray.perform .bind (m.array, s.gate)).state = p₁ at *
    have hhandle : (s.placed k m p₁).handleOf k = h := by
      rw [handleOf, member?_placed hk, Option.bind_some, hh]
      rfl
    rw [hhandle]
    exact agrees_of_rebound hh halone hfinal

/-- An array grows past its allocation. -/
def grown : List Action :=
  [.create .uint8 { capacity := 1 } [7], .call 0 .uint8 (.array (.append 9))]

/-- Faults that stop a bind at each of its requests. -/
def faulty : List (List Fault) :=
  [[.allocate], [.release, .upload], [.bind], []]

theorem attempts_agree_grown :
    Untampered 0 (Scene.run {} grown) ∧
      succeeds 0 .uint8 .bind (run (run {} grown) (attempts 0 .uint8 .bind faulty)) [] = true ∧
      Agrees (run (run {} grown) (attempts 0 .uint8 .bind (faulty ++ [[]])))
        (step (.call 0 .uint8 .bind) (run {} grown)).state [] := by
  have hs : Untampered 0 (Scene.run {} grown) := by
    refine ⟨grown, ⟨?_, ?_, trivial⟩, rfl⟩
    · rintro r h ⟨⟩
    · rintro r h ⟨⟩
  have hok : succeeds 0 .uint8 .bind (run (run {} grown) (attempts 0 .uint8 .bind faulty)) [] =
      true := by decide
  have hnone : granted 0 .uint8 .bind (run {} grown) faulty = 0 := by decide
  have hagree := (attempts_agree hs rfl rfl rfl (.inr rfl) faulty [] hok).2.2 rfl
  rw [show granted 0 _ _ _ _ = 0 from hnone] at hagree
  exact ⟨hs, hok, hagree⟩

/-- An array without elements. -/
def lone : List Action :=
  [.create .uint8 { capacity := 1 } []]

/-- A bind that is tried again after it has ended well is recorded again. -/
theorem rebind_recorded :
    Untampered 0 (Scene.run {} lone) ∧
      (Scene.run {} lone).gate.calm = (Scene.run {} lone).gate ∧
      succeeds 0 .uint8 .bind (run (run {} lone) (attempts 0 .uint8 .bind [[]])) [] = true ∧
      (Scene.run (run {} lone) (attempts 0 .uint8 .bind ([[]] ++ [[]]))).device.events ≠
        (step (.call 0 .uint8 .bind) (run {} lone)).state.device.events := by
  refine ⟨⟨lone, ⟨?_, trivial⟩, rfl⟩, rfl, by decide, by decide⟩
  rintro r h ⟨⟩

end Scene

end BufferSync
