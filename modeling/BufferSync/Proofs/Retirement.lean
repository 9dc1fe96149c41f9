import BufferSync.Proofs.Accounting

/-!
# Arrays that have given everything back

An array is retired by a disposal that ends well, and by a drop in which no release is refused.
Then no allocation that it has ever made is live, and none ever will be: a retired array makes
nothing any more, and the device issues no handle twice.

`madeBy` lists what an array has made in a run.  As long as the array is there, it answers for
whatever of this is live (`Answers`).
-/

namespace BufferSync

namespace SyncedArray

variable {α : Type} {c : Codec α} {D : Type} {a : SyncedArray c} {g : Gate MemoryDevice}

/-- The array answers for nothing. -/
structure Released (a : SyncedArray c) : Prop where
  /-- It has no allocation. -/
  handle : a.handle = none
  /-- Nothing is pending. -/
  pending : a.pending = none

theorem Released.owned_eq_nil (ha : a.Released) : a.owned = [] := by
  rw [owned, ha.handle, ha.pending]
  rfl

/-- What a disposed array with this label answers to a call. -/
def refused (label : String) : Call α → Outcome (Reply α)
  | .dispose => .ok .done
  | _ => .error (.useAfterDispose label)

/-- What a disposed array with this label reports about a call. -/
def refusedLog (label : String) : Call α → List Log.Entry
  | .dispose => []
  | _ =>
    [{ severity := .error
       source := source
       message := (Error.useAfterDispose label).report
       located := true }]

/-- An array that answers for nothing refuses everything but its disposal, whatever the device. -/
theorem Released.perform_eq [Device D] (ha : a.Released) (call : Call α) (d : D) :
    perform call (a, d) =
      { outcome := refused a.label call
        state := (a, d)
        log := refusedLog a.label call } := by
  have hlive : ∀ {β : Type} (f : Handle → Op (SyncedArray c × D) β),
      (liveHandle >>= f) (a, d) = Op.raise source (.useAfterDispose a.label) (a, d) := by
    intro β f
    rw [Op.bind_of_error ((liveHandle_of_none ha.handle d).trans (Op.raise_apply _ _ _))]
    rfl
  cases call with
  | array call => exact performArray_of_none ha.handle call d
  | flush =>
    rw [perform, flush_eq, Op.bind_assoc, hlive]
    rfl
  | bind =>
    rw [perform, SyncedArray.bind, Op.bind_assoc, hlive]
    rfl
  | unbind =>
    rw [perform, unbind, Op.bind_assoc, hlive]
    rfl
  | dispose =>
    have hrelease : releaseHandle (a, d) = { outcome := .ok (), state := (a, d), log := [] } := by
      rw [releaseHandle, self_bind, ha.handle]
      rfl
    rw [perform, dispose_eq, Op.bind_assoc, Op.bind_of_ok (releasePending_of_none ha.pending d),
      Op.bind_of_ok hrelease]
    rfl

/-- An array that answers for nothing stays as it is, and so does its device. -/
theorem Released.perform_state (ha : a.Released) (call : Call α) (g : Gate MemoryDevice) :
    (perform call (a, g)).state = (a, g) := by
  rw [ha.perform_eq]

/-- The end of an array that answers for nothing asks nothing of the device. -/
theorem Released.drop_eq [Device D] (ha : a.Released) (d : D) :
    drop (a, d) = { outcome := .ok (), state := (a, d), log := [] } := by
  have hpending : dropPending a (a, d) = { outcome := .ok (), state := (a, d), log := [] } :=
    Op.handle_of_ok (releasePending_of_none ha.pending d) _
  rw [SyncedArray.drop_eq, Op.bind_of_ok hpending, dropHandle, ha.handle]
  rfl

theorem of_releaseHandle_ok (hok : (releaseHandle (a, g)).outcome.isOk = true) :
    (releaseHandle (a, g)).state.1 = { a with handle := none } := by
  obtain ⟨hh, hrun⟩ | ⟨h, -, -, hrun⟩ | ⟨h, -, -, -, hrun⟩ | ⟨h, -, -, -, hrun⟩ :=
    releaseHandle_cases a g
  · rw [hrun, ← hh]
  · rw [hrun] at hok
    cases hok
  · rw [hrun] at hok
    cases hok
  · rw [hrun]

/-- A disposal that ends well takes its allocations from the array and nothing else. -/
theorem array_of_dispose_ok
    (hok : (perform .dispose (a, g) : Run _ (Reply α)).outcome.isOk = true) :
    (perform .dispose (a, g) : Run _ (Reply α)).state.1 =
      { a with handle := none, pending := none } := by
  rw [perform, Op.map_apply, dispose_eq] at hok ⊢
  rw [Outcome.isOk_map] at hok
  obtain ⟨⟨⟩, hfirst, hrun⟩ := Op.exists_of_bind_isOk hok
  rw [hrun] at hok ⊢
  have hpending := of_releasePending_ok hfirst
  have hhandle := of_releaseHandle_ok (a := (releasePending (a, g)).state.1) hok
  exact hhandle.trans (by rw [hpending])

/-- A disposal that ends well gives everything back. -/
theorem released_of_dispose_ok
    (hok : (perform .dispose (a, g) : Run _ (Reply α)).outcome.isOk = true) :
    (perform .dispose (a, g) : Run _ (Reply α)).state.1.Released := by
  rw [array_of_dispose_ok hok]
  exact ⟨rfl, rfl⟩

end SyncedArray

namespace Scene

variable {s : Scene} {k : Nat} {m : Member} {h : Handle} {hs : List Handle} {action : Action}

open Device (made gone named)
open SyncedArray (Unrefused)

/-! ## What an array makes -/

/-- The allocations that array `k` makes in an action. -/
def madeIn (k : Nat) (s : Scene) (action : Action) : List Handle :=
  match action with
  | .create _ _ _ =>
      if s.members.length = k ∧ (step action s).outcome.isOk = true then made (recorded action s)
      else []
  | .call i _ _ => if i = k then made (recorded action s) else []
  | _ => []

/-- The allocations that array `k` makes in a run. -/
def madeBy (k : Nat) : Scene → List Action → List Handle
  | _, [] => []
  | s, action :: rest => madeIn k s action ++ madeBy k (step action s).state rest

theorem madeBy_append (k : Nat) (s : Scene) (first rest : List Action) :
    madeBy k s (first ++ rest) = madeBy k s first ++ madeBy k (run s first) rest := by
  induction first generalizing s with
  | nil => rfl
  | cons action first ih =>
    rw [List.cons_append, madeBy, madeBy, ih, List.append_assoc]
    rfl

theorem mem_made_of_mem_madeIn (hm : h ∈ madeIn k s action) : h ∈ made (recorded action s) := by
  cases action with
  | create f config vs =>
    rw [madeIn] at hm
    split at hm
    · exact hm
    · cases hm
  | call i f call =>
    rw [madeIn] at hm
    split at hm
    · exact hm
    · cases hm
  | drop _ | request _ | arm _ | forgetEvents => cases hm

/-- Only an action about an array makes something for it. -/
theorem madeIn_eq_nil (habout : ¬ About k s action) : madeIn k s action = [] := by
  cases action with
  | create f config vs =>
    rw [madeIn, if_neg]
    exact fun hk => habout hk.1
  | call i f call =>
    rw [madeIn, if_neg]
    exact habout
  | drop _ | request _ | arm _ | forgetEvents => rfl

/-! ## Answering for what was made -/

/-- Array `k` was there and is gone. -/
def Dropped (k : Nat) (s : Scene) : Prop :=
  k < s.members.length ∧ s.member? k = none

/-- Array `k`, unless it was dropped, answers for whatever of the allocations `hs` is live. -/
structure Answers (k : Nat) (s : Scene) (hs : List Handle) : Prop where
  /-- The handles were issued. -/
  issued : ∀ h ∈ hs, s.gate.inner.table.Issued h
  /-- The array has what is live. -/
  live : ∀ h ∈ hs, s.gate.Live h → h ∈ s.heldBy k ∨ Dropped k s

theorem length_step_create (s : Scene) (f : Format) (config : ArrayConfig) (vs : List f.Element) :
    (step (.create f config vs) s).state.members.length =
      if (step (.create f config vs) s).outcome.isOk = true then s.members.length + 1
      else s.members.length := by
  rw [step_create, Outcome.isOk_map, afterCreation]
  rcases (SyncedArray.ofList config vs s.gate : Run _ (SyncedArray f.codec)) with ⟨a | e | t, g, l⟩
  · simp [Outcome.isOk]
  · rfl
  · rfl

theorem length_step (hsound : s.Sound) (hcreate : ∀ f config vs, action ≠ .create f config vs) :
    (step action s).state.members.length = s.members.length := by
  cases action with
  | create f config vs => exact absurd rfl (hcreate f config vs)
  | drop i =>
    cases hm : s.member? i with
    | none => rw [step_drop_absent hm]
    | some m =>
      obtain ⟨new, hdrop⟩ := SyncedArray.exists_surrender_drop (hsound.array_held hm)
      rw [step_drop hm hdrop.outcome]
      exact List.length_set
  | call i f call =>
    obtain habsent | ⟨m, hm, rfl⟩ := step_call_cases s i f call
    · rw [habsent]
    · rw [step_call hm]
      exact List.length_set
  | request r => rw [members_request]
  | arm fault => rfl
  | forgetEvents => rfl

theorem le_length_step (hsound : s.Sound) (action : Action) :
    s.members.length ≤ (step action s).state.members.length := by
  by_cases hcreate : ∃ f config vs, action = .create f config vs
  · obtain ⟨f, config, vs, rfl⟩ := hcreate
    rw [length_step_create]
    split <;> omega
  · refine Nat.le_of_eq (length_step hsound ?_).symm
    intro f config vs heq
    exact hcreate ⟨f, config, vs, heq⟩

/-- A number stays taken after its array was dropped. -/
theorem Dropped.step (hsound : s.Sound) (hdropped : Dropped k s) (action : Action) :
    Dropped k (step action s).state := by
  refine ⟨Nat.lt_of_lt_of_le hdropped.1 (le_length_step hsound action), ?_⟩
  obtain hsame | hgone | ⟨f, config, vs, rfl, rfl, -⟩ | ⟨m, call, hm, rfl, -⟩ :=
    member?_step_cases hsound action k
  · rw [hsame]
    exact hdropped.2
  · exact hgone
  · exact absurd hdropped.1 (Nat.lt_irrefl _)
  · rw [hdropped.2] at hm
    cases hm

/-- A call leaves an array what it had and what it has made, less what was given back. -/
theorem mem_heldBy_step_call (hsound : s.Sound) {f : Format} {call : SyncedArray.Call f.Element} :
    h ∈ (step (.call k f call) s).state.heldBy k ↔
      (h ∈ s.heldBy k ∨ h ∈ made (recorded (.call k f call) s)) ∧
        h ∉ gone (recorded (.call k f call) s) := by
  obtain habsent | ⟨m, hm, rfl⟩ := step_call_cases s k f call
  · have hstate : (step (.call k f call) s).state = s := by rw [habsent]
    rw [recorded_eq_nil (by rw [hstate]), hstate]
    simp
  · obtain ⟨new, hcustody⟩ := (SyncedArray.conduct_perform (hsound.array_held hm) call).custody
    have hnew : recorded (.call k m.format call) s = new := by
      apply recorded_eq
      rw [device, gate_step_call hm]
      exact hcustody.events
    rw [hnew, heldBy_of_member? hm, heldBy_of_member? (member?_step_call hm call)]
    exact hcustody.owned h

/-- A new array has what was made. -/
theorem heldBy_step_create (hsound : s.Sound) {f : Format} {config : ArrayConfig}
    {vs : List f.Element} (hok : (step (.create f config vs) s).outcome.isOk = true) :
    (step (.create f config vs) s).state.heldBy s.members.length =
      made (recorded (.create f config vs) s) := by
  obtain ⟨new, hbirth⟩ :=
    SyncedArray.exists_birth (c := f.codec) hsound.table hsound.unlimited config vs
  rw [recorded_create hbirth]
  rw [step_create, Outcome.isOk_map] at hok
  rcases hrun : (SyncedArray.ofList config vs s.gate : Run _ (SyncedArray f.codec)) with
    ⟨a | e | t, g, l⟩
  · have hmember : (step (.create f config vs) s).state.member? s.members.length =
        some { format := f, array := a } := by
      rw [step_create, hrun]
      exact (member?_append s _ _ _).trans (if_pos rfl)
    rw [heldBy_of_member? hmember]
    exact (hbirth.owned a (by rw [hrun])).1
  · rw [hrun] at hok
    cases hok
  · rw [hrun] at hok
    cases hok

/-- What an array has after an action about it: it keeps and gets what stays live, unless it is
dropped. -/
theorem heldBy_step (hsound : s.Sound) (habout : About k s action)
    (hm : h ∈ s.heldBy k ∨ h ∈ madeIn k s action) (hgone : h ∉ gone (recorded action s)) :
    h ∈ (step action s).state.heldBy k ∨ Dropped k (step action s).state := by
  cases action with
  | create f config vs =>
    obtain rfl : s.members.length = k := habout
    rcases hm with hold | hmade
    · have habsent : s.member? s.members.length = none := by
        rw [member?, List.getElem?_eq_none (Nat.le_refl _)]
        rfl
      rw [heldBy, habsent] at hold
      cases hold
    · rw [madeIn] at hmade
      split at hmade
      next hcreated =>
        rw [heldBy_step_create hsound hcreated.2]
        exact .inl hmade
      next => cases hmade
  | drop i =>
    obtain rfl : i = k := habout
    rcases hm with hold | hmade
    · cases hmember : s.member? i with
      | none =>
        rw [heldBy, hmember] at hold
        cases hold
      | some m =>
        obtain ⟨new, hdrop⟩ := SyncedArray.exists_surrender_drop (hsound.array_held hmember)
        refine .inr ⟨?_, ?_⟩
        · exact Nat.lt_of_lt_of_le (lt_of_member? hmember) (le_length_step hsound _)
        · rw [step_drop hmember hdrop.outcome]
          exact member?_withMember_self (lt_of_member? hmember) _ _
    · cases hmade
  | call i f call =>
    obtain rfl : i = k := habout
    exact .inl ((mem_heldBy_step_call hsound).mpr
      ⟨hm.imp_right mem_made_of_mem_madeIn, hgone⟩)
  | request _ | arm _ | forgetEvents => exact absurd habout id

/-- An array goes on to answer for what it has made. -/
theorem Answers.step (hsound : s.Sound) (ha : Answers k s hs) (action : Action) :
    Answers k (step action s).state (hs ++ madeIn k s action) := by
  obtain ⟨hchronicle, -⟩ := chronicle_step hsound action
  constructor
  · intro h hm
    rcases List.mem_append.mp hm with hold | hmade
    · exact hchronicle.issued h (ha.issued h hold)
    · exact hchronicle.made_issued h (mem_made_of_mem_madeIn hmade)
  · intro h hm hlive
    obtain ⟨hfrom, hgone⟩ := (hchronicle.live h).mp hlive
    have hhad : (h ∈ s.heldBy k ∨ h ∈ madeIn k s action) ∨ Dropped k s := by
      rcases List.mem_append.mp hm with hold | hmade
      · -- an issued handle is not made again
        have hlive' : s.gate.Live h := hfrom.resolve_right fun hnew =>
          hchronicle.made_fresh h hnew (ha.issued h hold)
        exact (ha.live h hold hlive').imp_left .inl
      · exact .inl (.inr hmade)
    rcases hhad with hhad | hdropped
    · by_cases habout : About k s action
      · exact heldBy_step hsound habout hhad hgone
      · rw [madeIn_eq_nil habout] at hhad
        rw [heldBy, member?_step hsound habout]
        exact .inl (hhad.resolve_right List.not_mem_nil)
    · exact .inr (hdropped.step hsound action)

theorem Answers.run (hsound : s.Sound) (ha : Answers k s hs) (actions : List Action) :
    Answers k (run s actions) (hs ++ madeBy k s actions) := by
  induction actions generalizing s hs with
  | nil =>
    rw [madeBy, List.append_nil]
    exact ha
  | cons action rest ih =>
    rw [madeBy, ← List.append_assoc]
    exact ih (hsound.step action) (ha.step hsound action)

/-- What array `k` has made since the scene was empty, it answers for. -/
theorem answers_empty (k : Nat) (actions : List Action) :
    Answers k (Scene.run {} actions) (madeBy k {} actions) :=
  have hnothing : Answers k {} [] :=
    { issued := fun _ hm => absurd hm List.not_mem_nil
      live := fun _ hm => absurd hm List.not_mem_nil }
  hnothing.run sound_empty actions

/-! ## Retirement -/

/-- The action disposes of array `k` and ends well, or it drops the array and no release is
refused. -/
def Retires (k : Nat) (s : Scene) (action : Action) : Prop :=
  ∃ m, s.member? k = some m ∧
    (action = .call k m.format .dispose ∧ (step action s).outcome.isOk = true ∨
      action = .drop k ∧ Unrefused (step action s).log)

/-- Array `k` is there no more, or it answers for nothing. -/
structure Retired (k : Nat) (s : Scene) : Prop where
  /-- The number is taken. -/
  taken : k < s.members.length
  /-- If the array is there, it answers for nothing. -/
  released : ∀ m, s.member? k = some m → m.array.Released

/-- A retired array stays retired. -/
theorem Retired.step (hsound : s.Sound) (hretired : Retired k s) (action : Action) :
    Retired k (step action s).state := by
  refine ⟨Nat.lt_of_lt_of_le hretired.taken (le_length_step hsound action), ?_⟩
  intro m' hm'
  obtain hsame | hgone | ⟨f, config, vs, rfl, rfl, -⟩ | ⟨m, call, hm, rfl, hmember⟩ :=
    member?_step_cases hsound action k
  · exact hretired.released m' (hsame ▸ hm')
  · rw [hgone] at hm'
    cases hm'
  · exact absurd hretired.taken (Nat.lt_irrefl _)
  · rw [hmember, (hretired.released m hm).perform_state] at hm'
    obtain rfl := Option.some.inj hm'
    exact hretired.released m hm

/-- A retired array makes nothing. -/
theorem Retired.madeIn_eq_nil (hretired : Retired k s) (action : Action) :
    madeIn k s action = [] := by
  cases action with
  | create f config vs =>
    rw [madeIn, if_neg]
    rintro ⟨rfl, -⟩
    exact Nat.lt_irrefl _ hretired.taken
  | call i f call =>
    rw [madeIn]
    split
    next hik =>
      obtain rfl : i = k := hik
      have hgate : (Scene.step (.call i f call) s).state.gate = s.gate := by
        obtain habsent | ⟨m, hm, rfl⟩ := step_call_cases s i f call
        · rw [habsent]
        · rw [gate_step_call hm, (hretired.released m hm).perform_state]
      rw [recorded_eq_nil (by rw [device, hgate]; rfl)]
      rfl
    next => rfl
  | drop _ | request _ | arm _ | forgetEvents => rfl

theorem Retired.run (hsound : s.Sound) (hretired : Retired k s) (actions : List Action) :
    madeBy k s actions = [] := by
  induction actions generalizing s with
  | nil => rfl
  | cons action rest ih =>
    rw [madeBy, hretired.madeIn_eq_nil, ih (hsound.step action) (hretired.step hsound action)]
    rfl

/-- A handle that is issued and not live never comes back. -/
theorem not_live_run (hsound : s.Sound) (hissued : s.gate.inner.table.Issued h)
    (hlive : ¬ s.gate.Live h) (actions : List Action) : ¬ (run s actions).gate.Live h := by
  have hchronicle := chronicle_run hsound actions
  intro hback
  rcases ((hchronicle.live h).mp hback).1 with hl | hmade
  · exact hlive hl
  · exact hchronicle.made_fresh h hmade hissued

/-- When an array retires, nothing that it has made is live. -/
theorem Answers.retire {b : Ledger} (hsound : s.Sound) (hb : Balanced s b) (ha : Answers k s hs)
    (hretires : Retires k s action) :
    Retired k (Scene.step action s).state ∧
      ∀ h ∈ hs ++ madeIn k s action, ¬ (Scene.step action s).state.gate.Live h := by
  obtain ⟨m, hm, ⟨rfl, hok⟩ | ⟨rfl, hun⟩⟩ := hretires
  · rw [step_call hm, Outcome.isOk_map] at hok
    have hreleased := SyncedArray.released_of_dispose_ok hok
    have hmember := member?_step_call hm .dispose
    constructor
    · refine ⟨lt_of_member? hmember, ?_⟩
      intro m' hm'
      obtain rfl := Option.some.inj (hmember.symm.trans hm')
      exact hreleased
    · intro h hh hlive
      rcases (ha.step hsound _).live h hh hlive with hheld | hdropped
      · rw [heldBy_of_member? hmember, hreleased.owned_eq_nil] at hheld
        cases hheld
      · rw [hdropped.2] at hmember
        cases hmember
  · obtain ⟨new, hdrop⟩ := SyncedArray.exists_surrender_drop (hsound.array_held hm)
    rw [step_drop hm hdrop.outcome] at hun ⊢
    have habsent := member?_withMember_self (lt_of_member? hm) none
      (SyncedArray.drop (m.array, s.gate)).state.2
    constructor
    · refine ⟨?_, ?_⟩
      · rw [withMember, List.length_set]
        exact lt_of_member? hm
      · intro m' hm'
        rw [habsent] at hm'
        cases hm'
    · intro h hh hlive
      have hnothing : madeIn k s (.drop k) = [] := rfl
      rw [hnothing, List.append_nil] at hh
      obtain ⟨hfrom, hkept⟩ := (hdrop.live h).mp hlive
      rw [hdrop.made_nil, or_iff_left List.not_mem_nil] at hfrom
      rcases ha.live h hh hfrom with hheld | hdropped
      · rw [heldBy_of_member? hm] at hheld
        exact hkept (hdrop.complete (hb.array_live hm) hun h hheld)
      · rw [hdropped.2] at hm
        cases hm

/-- In every run of a scene in which no request to the device gives back what an array holds, the
live allocations are those that the arrays hold, those that requests made and did not give back, and
those that were given up when their array went; the three kinds are apart, and so are the two
allocations of an array.  No allocation is given back twice, no array asks for the release of an
unknown one, and nothing is given up unless a release was refused.  Once an array has retired,
nothing that it ever made is live. -/
theorem allocations_accounted (actions : List Action) (hrespects : Along Respects {} actions) :
    Balanced (run {} actions) (ledger {} {} actions) ∧
    (∀ k m h, (Scene.run {} actions).member? k = some m → m.array.handle = some h →
      m.array.pending ≠ some h) ∧
    (gone (trace {} actions)).Nodup ∧
    ∀ before action after, actions = before ++ action :: after →
      (¬ action.Direct →
        ∀ e ∈ (step action (run {} before)).log, ¬ MemoryDevice.UnknownRelease e) ∧
      (Unrefused (step action (run {} before)).log → (run {} before).givenUp action = []) ∧
      ∀ k, Retires k (run {} before) action →
        ∀ h ∈ madeBy k {} actions, ¬ (run {} actions).gate.Live h := by
  have hsound := sound_empty.run actions
  have hchronicle := chronicle_run sound_empty actions
  refine ⟨balanced_empty.run sound_empty hrespects, ?_, hchronicle.gone_nodup, ?_⟩
  · intro k m h hm hh hp
    have hnodup := (hsound.array_held hm).nodup
    rw [SyncedArray.owned, hh, hp] at hnodup
    simp at hnodup
  · rintro before action after rfl
    obtain ⟨hbefore, -⟩ := along_append.mp hrespects
    have hs := sound_empty.run before
    have hb := balanced_empty.run sound_empty hbefore
    refine ⟨hb.civil hs, hb.givenUp_eq_nil hs, ?_⟩
    intro k hretires h hm
    have hanswers := answers_empty k before
    obtain ⟨hretired, hnone⟩ := hanswers.retire hs hb hretires
    rw [madeBy_append, madeBy, hretired.run (hs.step action), List.append_nil] at hm
    rw [run_append, run_cons]
    exact not_live_run (hs.step action) ((hanswers.step hs action).issued h hm) (hnone h hm) after

/-- The release of a replaced allocation is refused, and so is the first disposal; meanwhile
somebody else takes an allocation. -/
def reluctant : List Action :=
  [.create .uint8 { capacity := 1 } [7], .call 0 .uint8 (.array (.append 9)), .arm .release,
    .call 0 .uint8 .flush, .request (.allocate 4 .vertex), .arm .release, .call 0 .uint8 .dispose]

theorem allocations_accounted_reluctant :
    Along Respects {} (reluctant ++ [.call 0 .uint8 .dispose]) ∧
      (madeBy 0 {} (reluctant ++ [.call 0 .uint8 .dispose])).length = 2 ∧
      ∀ h ∈ madeBy 0 {} (reluctant ++ [.call 0 .uint8 .dispose]),
        ¬ (run {} (reluctant ++ [.call 0 .uint8 .dispose])).gate.Live h := by
  have hrespects : Along Respects {} (reluctant ++ [.call 0 .uint8 .dispose]) := by
    refine ⟨?_, ?_, ?_, ?_, ?_, ?_, ?_, ?_, trivial⟩
    · rintro ⟨⟩
    · rintro ⟨⟩
    · rintro ⟨⟩
    · rintro ⟨⟩
    · intro _
      decide
    · rintro ⟨⟩
    · rintro ⟨⟩
    · rintro ⟨⟩
  refine ⟨hrespects, by decide, ?_⟩
  refine ((allocations_accounted _ hrespects).2.2.2 reluctant _ [] rfl).2.2 0 ?_
  exact ⟨_, rfl, .inl ⟨rfl, by decide⟩⟩

end Scene

end BufferSync
