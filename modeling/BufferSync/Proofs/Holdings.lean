import BufferSync.Proofs.Creation
import BufferSync.Proofs.SceneRuns
import Mathlib.Data.List.Nodup

/-!
# What the arrays of a scene hold

The arrays of a scene hold the allocations they answer for.  No two arrays hold the same one
(`Scene.Sound`), and an action reaches only the allocations of the array that it is about, apart
from those that it makes; a request to the device reaches the one that it names.

*Stewardship.*  After every action that is no request to the device, the arrays hold what they held
before and what was made, less what was given back and less what was given up: at the end of an
array the device can refuse to take an allocation back, and so it can after a creation that failed.
-/

namespace BufferSync

/-- The handle that a request names. -/
def Device.Request.handle? : Device.Request → Option Handle
  | .allocate _ _ => none
  | .upload h _ _ => some h
  | .bind h => some h
  | .unbind _ => none
  | .release h => some h

namespace Scene

variable {s : Scene} {i k : Nat} {m : Member} {h : Handle} {action : Action}

open Device (made gone named)

/-- What an array holds, if it is there. -/
def holdings : Option Member → List Handle
  | some m => m.array.owned
  | none => []

/-- What the arrays hold. -/
def held (s : Scene) : List Handle :=
  s.members.flatMap holdings

/-- What array `k` holds. -/
def heldBy (s : Scene) (k : Nat) : List Handle :=
  holdings (s.member? k)

/-- The allocations that an action is about, apart from new ones. -/
def reach (s : Scene) : Action → List Handle
  | .create _ _ _ => []
  | .drop i => s.heldBy i
  | .call i _ _ => s.heldBy i
  | .request r => r.handle?.toList
  | .arm _ => []
  | .forgetEvents => []

/-- The action is a request to the device, past all arrays. -/
def Action.Direct : Action → Prop
  | .request _ => True
  | _ => False

/-- The allocations that an array had when it went, in an action, and that the device still has. -/
def givenUp (s : Scene) (action : Action) : List Handle :=
  match action with
  | .create _ _ _ =>
      if (step action s).outcome.isOk then []
      else (made (recorded action s)).filter fun h => h ∉ gone (recorded action s)
  | .drop i => (s.heldBy i).filter fun h => h ∉ gone (recorded action s)
  | _ => []

/-- The arrays hold different handles, all issued by the device, which lies open behind its gate. -/
structure Sound (s : Scene) : Prop where
  /-- The table of the device is sound. -/
  table : s.gate.inner.table.Sound
  /-- The gate limits no allocations. -/
  unlimited : s.gate.allocatesLeft = none
  /-- The handles were issued. -/
  issued : ∀ h ∈ s.held, s.gate.inner.table.Issued h
  /-- The handles are different. -/
  nodup : s.held.Nodup

theorem sound_empty : Sound {} where
  table := HandleTable.sound_empty
  unlimited := rfl
  issued h hm := by cases hm
  nodup := List.nodup_nil

/-! ## Holdings of one array -/

theorem heldBy_of_member? (hm : s.member? k = some m) : s.heldBy k = m.array.owned := by
  rw [heldBy, hm]
  rfl

theorem mem_heldBy_of_handle (hm : s.member? k = some m) (hh : m.array.handle = some h) :
    h ∈ s.heldBy k := by
  rw [heldBy_of_member? hm]
  exact SyncedArray.mem_owned_of_handle hh

theorem mem_held_of_mem_heldBy (hm : h ∈ s.heldBy k) : h ∈ s.held := by
  rw [heldBy] at hm
  cases hmember : s.member? k with
  | none =>
    rw [hmember] at hm
    cases hm
  | some m =>
    rw [hmember] at hm
    refine List.mem_flatMap.mpr ⟨some m, ?_, hm⟩
    exact List.mem_of_getElem? (getElem?_of_member? hmember)

theorem held_append (s : Scene) (m : Member) (g : Gate MemoryDevice) :
    held { gate := g, members := s.members ++ [some m] } = s.held ++ m.array.owned := by
  simp [held, holdings]

/-- Different arrays hold different handles. -/
theorem Sound.not_mem_heldBy (hs : s.Sound) (hik : i ≠ k) (hm : h ∈ s.heldBy k) :
    h ∉ s.heldBy i := by
  intro hi
  rw [heldBy] at hm hi
  cases hmk : s.member? k with
  | none =>
    rw [hmk] at hm
    cases hm
  | some mk =>
    cases hmi : s.member? i with
    | none =>
      rw [hmi] at hi
      cases hi
    | some mi =>
      rw [hmk] at hm
      rw [hmi] at hi
      obtain ⟨hltk, hgetk⟩ := List.getElem?_eq_some_iff.mp (getElem?_of_member? hmk)
      obtain ⟨hlti, hgeti⟩ := List.getElem?_eq_some_iff.mp (getElem?_of_member? hmi)
      have hpairs := List.pairwise_iff_getElem.mp (List.nodup_flatMap.mp hs.nodup).2
      rcases Nat.lt_or_gt_of_ne hik with hlt | hlt
      · have hdisjoint := hpairs i k hlti hltk hlt
        rw [hgeti, hgetk] at hdisjoint
        exact hdisjoint hi hm
      · have hdisjoint := hpairs k i hltk hlti hlt
        rw [hgeti, hgetk] at hdisjoint
        exact hdisjoint hm hi

/-- An array of a sound scene holds its allocations. -/
theorem Sound.array_held (hs : s.Sound) (hm : s.member? i = some m) : m.array.Held s.gate where
  sound := hs.table
  unlimited := hs.unlimited
  issued h hh := hs.issued h (mem_held_of_mem_heldBy (k := i) (by rw [heldBy, hm]; exact hh))
  nodup :=
    (List.nodup_flatMap.mp hs.nodup).1 _ (List.mem_of_getElem? (getElem?_of_member? hm))

/-! ## Stewardship -/

/-- What an action that is no request to the device does to the allocations. -/
structure Stewardship (s : Scene) (action : Action) : Prop where
  /-- The events of the action tell about the allocations. -/
  chronicle : Chronicle s.gate (step action s).state.gate (recorded action s)
  /-- No allocation out of reach is touched. -/
  named : ∀ h ∈ named (recorded action s), h ∈ made (recorded action s) ∨ h ∈ s.reach action
  /-- What is held and what is given up is different. -/
  nodup : ((step action s).state.held ++ s.givenUp action).Nodup
  /-- Nothing else is lost, and nothing that was given back is kept. -/
  held : ∀ h, h ∈ (step action s).state.held ++ s.givenUp action ↔
    (h ∈ s.held ∨ h ∈ made (recorded action s)) ∧ h ∉ gone (recorded action s)

/-- An action that leaves the table and the arrays alone. -/
theorem Stewardship.of_quiet (hs : s.Sound)
    (htable : (step action s).state.gate.inner.table = s.gate.inner.table)
    (hleft : (step action s).state.gate.allocatesLeft = s.gate.allocatesLeft)
    (hmembers : (step action s).state.members = s.members) (hnew : recorded action s = [])
    (hgiven : s.givenUp action = []) : Stewardship s action where
  chronicle := by
    rw [hnew]
    exact .of_table_eq hs.table htable hleft rfl rfl
  named h hm := by
    rw [hnew] at hm
    cases hm
  nodup := by
    rw [hgiven, List.append_nil, Scene.held, hmembers]
    exact hs.nodup
  held h := by
    rw [hgiven, List.append_nil, Scene.held, hmembers, hnew]
    simp [Scene.held]

theorem stewardship_arm (hs : s.Sound) (fault : Fault) : Stewardship s (.arm fault) := by
  have hgate : (armed fault s.gate).inner.table = s.gate.inner.table ∧
      (armed fault s.gate).allocatesLeft = s.gate.allocatesLeft ∧
      (armed fault s.gate).inner.events = s.gate.inner.events := by
    cases fault <;> exact ⟨rfl, rfl, rfl⟩
  exact .of_quiet hs hgate.1 hgate.2.1 rfl (recorded_eq_nil hgate.2.2) rfl

theorem stewardship_forgetEvents (hs : s.Sound) : Stewardship s .forgetEvents :=
  .of_quiet hs rfl rfl rfl (List.drop_nil) rfl

theorem recorded_create {f : Format} {config : ArrayConfig} {vs : List f.Element}
    {new : List Device.Event} (hbirth : SyncedArray.Birth s.gate
      (SyncedArray.ofList config vs s.gate : Run _ (SyncedArray f.codec)) new) :
    recorded (.create f config vs) s = new := by
  apply recorded_eq
  rw [device, gate_step_create]
  exact hbirth.events

/-- After a creation the new allocations are held by the new array or given up. -/
theorem exists_kept_create {f : Format} {config : ArrayConfig} {vs : List f.Element}
    {new : List Device.Event} (hbirth : SyncedArray.Birth s.gate
      (SyncedArray.ofList config vs s.gate : Run _ (SyncedArray f.codec)) new) :
    ∃ kept, (step (.create f config vs) s).state.held = s.held ++ kept ∧
      (kept ++ s.givenUp (.create f config vs)).Nodup ∧
      ∀ h, h ∈ kept ++ s.givenUp (.create f config vs) ↔ h ∈ made new ∧ h ∉ gone new := by
  rw [givenUp, recorded_create hbirth, step_create]
  rcases hrun : (SyncedArray.ofList config vs s.gate : Run _ (SyncedArray f.codec)) with
    ⟨a | e | t, g, l⟩
  · obtain ⟨howned, hnil⟩ := hbirth.owned a (by rw [hrun])
    refine ⟨made new, ?_, ?_, ?_⟩
    · exact (held_append s { format := f, array := a } g).trans (by rw [howned])
    · simpa [Outcome.map, Outcome.isOk] using hbirth.made_nodup
    · simp [Outcome.map, Outcome.isOk, hnil]
  · refine ⟨[], (List.append_nil _).symm, hbirth.made_nodup.filter _, ?_⟩
    simp [Outcome.map, Outcome.isOk]
  · refine ⟨[], (List.append_nil _).symm, hbirth.made_nodup.filter _, ?_⟩
    simp [Outcome.map, Outcome.isOk]

theorem stewardship_create (hs : s.Sound) (f : Format) (config : ArrayConfig)
    (vs : List f.Element) : Stewardship s (.create f config vs) := by
  obtain ⟨new, hbirth⟩ := SyncedArray.exists_birth (c := f.codec) hs.table hs.unlimited config vs
  have hgate := gate_step_create s f config vs
  have hnew : recorded (.create f config vs) s = new := recorded_create hbirth
  have hfresh : ∀ h ∈ s.held, h ∉ made new := fun h hh hm =>
    hbirth.made_fresh h hm (hs.issued h hh)
  have hgone : ∀ h ∈ s.held, h ∉ gone new := fun h hh hm =>
    hfresh h hh (hbirth.named h (Device.named_of_gone hm))
  obtain ⟨kept, hheld, hnodup, hmem⟩ := exists_kept_create hbirth
  refine
    { chronicle := by rw [hnew, hgate]; exact hbirth.toChronicle
      named := fun h hm => .inl (by rw [hnew] at *; exact hbirth.named h hm)
      nodup := ?_
      held := ?_ }
  · rw [hheld, List.append_assoc]
    refine List.nodup_append.mpr ⟨hs.nodup, hnodup, ?_⟩
    rintro h hh _ hm rfl
    exact hfresh h hh ((hmem h).mp hm).1
  · intro h
    rw [hheld, List.append_assoc, List.mem_append, hmem, hnew]
    have := hgone h
    grind

theorem exists_held_split (hm : s.member? i = some m) :
    ∃ before after, s.held = before ++ (m.array.owned ++ after) ∧
      ∀ m' g, (s.withMember i m' g).held = before ++ (holdings m' ++ after) := by
  obtain ⟨before, after, hmembers, hset⟩ := exists_split hm
  refine ⟨before.flatMap holdings, after.flatMap holdings, ?_, ?_⟩
  · rw [held, hmembers, List.flatMap_append, List.flatMap_cons]
    rfl
  · intro m' g
    rw [held, hset, List.flatMap_append, List.flatMap_cons]

/-- An action on array `i` that keeps, gives up or gives back what the array had and made leaves the
other arrays what they have. -/
theorem Stewardship.of_member (hs : s.Sound) (hm : s.member? i = some m) {m' : Option Member}
    {g : Gate MemoryDevice} {new : List Device.Event}
    (hstate : (step action s).state = s.withMember i m' g) (hrecord : Recorded s.gate g new)
    (hreach : s.reach action = s.heldBy i)
    (hnamed : ∀ h ∈ Device.named new, h ∈ m.array.owned ∨ h ∈ made new)
    (hnodup : (holdings m' ++ s.givenUp action).Nodup)
    (hmem : ∀ h, h ∈ holdings m' ++ s.givenUp action ↔
      (h ∈ m.array.owned ∨ h ∈ made new) ∧ h ∉ gone new) : Stewardship s action := by
  have hnew : recorded action s = new := by
    apply recorded_eq
    rw [hstate]
    exact hrecord.events
  obtain ⟨before, after, hheld, hheld'⟩ := exists_held_split hm
  have hall := hs.nodup
  rw [hheld, List.nodup_append, List.nodup_append] at hall
  obtain ⟨hbefore, ⟨-, hafter, hapart⟩, hapart'⟩ := hall
  -- the other arrays hold nothing of what array `i` has, and nothing that is new
  have hothers : ∀ h, h ∈ before ∨ h ∈ after → h ∉ m.array.owned ∧ h ∉ made new := by
    intro h hh
    have hissued : s.gate.inner.table.Issued h := by
      apply hs.issued
      rw [hheld, List.mem_append, List.mem_append]
      exact hh.imp_right .inr
    refine ⟨?_, fun hmade => hrecord.made_fresh h hmade hissued⟩
    intro howned
    rcases hh with hh | hh
    · exact hapart' h hh h (List.mem_append_left _ howned) rfl
    · exact hapart h howned h hh rfl
  have hgone : ∀ h, h ∈ before ∨ h ∈ after → h ∉ gone new := by
    intro h hh hg
    rcases hnamed h (Device.named_of_gone hg) with howned | hmade
    · exact (hothers h hh).1 howned
    · exact (hothers h hh).2 hmade
  refine
    { chronicle := by rw [hnew, hstate]; exact hrecord.toChronicle
      named := ?_
      nodup := ?_
      held := ?_ }
  · intro h hh
    rw [hnew] at *
    rw [hreach, heldBy, hm]
    exact (hnamed h hh).symm
  · have hperm : ((step action s).state.held ++ s.givenUp action).Perm
        ((before ++ after) ++ (holdings m' ++ s.givenUp action)) := by
      rw [hstate, hheld']
      grind
    rw [hperm.nodup_iff, List.nodup_append, List.nodup_append]
    refine ⟨⟨hbefore, hafter, ?_⟩, hnodup, ?_⟩
    · intro h hh k hk
      exact hapart' h hh k (List.mem_append_right _ hk)
    · rintro h hh _ hk rfl
      rcases ((hmem h).mp hk).1 with howned | hmade
      · exact (hothers h (List.mem_append.mp hh)).1 howned
      · exact (hothers h (List.mem_append.mp hh)).2 hmade
  · intro h
    have hmemh := hmem h
    have hothersh := hothers h
    have hgoneh := hgone h
    rw [hstate, hheld', hnew, hheld]
    simp only [List.mem_append] at *
    grind

theorem stewardship_call (hs : s.Sound) (i : Nat) (f : Format) (call : SyncedArray.Call f.Element) :
    Stewardship s (.call i f call) := by
  obtain habsent | ⟨m, hm, rfl⟩ := step_call_cases s i f call
  · have hstate : (step (.call i f call) s).state = s := by rw [habsent]
    exact .of_quiet hs (by rw [hstate]) (by rw [hstate]) (by rw [hstate])
      (recorded_eq_nil (by rw [hstate])) rfl
  · obtain ⟨new, hcustody⟩ := (SyncedArray.conduct_perform (hs.array_held hm) call).custody
    have hstate := congrArg Run.state (step_call hm call)
    have hgiven : s.givenUp (.call i m.format call) = [] := rfl
    refine .of_member hs hm hstate hcustody.toRecorded rfl hcustody.named ?_ ?_
    · rw [hgiven, List.append_nil]
      exact hcustody.nodup
    · intro h
      rw [hgiven, List.append_nil]
      exact hcustody.owned h

theorem stewardship_drop (hs : s.Sound) (i : Nat) : Stewardship s (.drop i) := by
  cases hm : s.member? i with
  | none =>
    have hstate : (step (.drop i) s).state = s := by rw [step_drop_absent hm]
    refine .of_quiet hs (by rw [hstate]) (by rw [hstate]) (by rw [hstate])
      (recorded_eq_nil (by rw [hstate])) ?_
    rw [givenUp, heldBy, hm]
    rfl
  | some m =>
    obtain ⟨new, hdrop⟩ := SyncedArray.exists_surrender_drop (hs.array_held hm)
    have hstate := congrArg Run.state (step_drop hm hdrop.outcome)
    have hnew : recorded (.drop i) s = new := recorded_eq (by rw [hstate]; exact hdrop.events)
    have hgiven : s.givenUp (.drop i) = m.array.owned.filter fun h => h ∉ gone new := by
      rw [givenUp, heldBy, hm, hnew]
      rfl
    refine .of_member hs hm hstate hdrop.toRecorded rfl (fun h hh => .inl (hdrop.named h hh)) ?_ ?_
    · rw [hgiven]
      exact (hs.array_held hm).nodup.filter _
    · intro h
      rw [hgiven, hdrop.made_nil]
      simp [holdings]

/-- Whatever an action other than a request does, the arrays are good stewards. -/
theorem stewardship (hs : s.Sound) (hdirect : ¬ action.Direct) : Stewardship s action := by
  cases action with
  | create f config vs => exact stewardship_create hs f config vs
  | drop i => exact stewardship_drop hs i
  | call i f call => exact stewardship_call hs i f call
  | request r => exact absurd trivial hdirect
  | arm fault => exact stewardship_arm hs fault
  | forgetEvents => exact stewardship_forgetEvents hs

/-! ## Requests to the device -/

/-- A request touches the allocation that it names, or makes one. -/
theorem exists_recorded_request (hg : s.gate.inner.table.Sound) (r : Device.Request) :
    ∃ new, Recorded s.gate (step (.request r) s).state.gate new ∧
      ∀ h ∈ named new, h ∈ made new ∨ h ∈ r.handle?.toList := by
  have hstate : (step (.request r) s).state.gate =
      { s.gate with inner := (Device.perform r s.gate.inner).state } := by
    rw [step_request]
    rfl
  rw [hstate]
  have hserved := MemoryDevice.served r s.gate.inner
  generalize Device.perform r s.gate.inner = run at hserved
  cases hserved with
  | granted hgranted =>
    refine ⟨_, .of_granted hg hgranted, ?_⟩
    intro h hm
    cases hgranted with
    | allocate usage room => exact .inl hm
    | upload known room => exact .inr hm
    | bind known => exact .inr hm
    | unbind usage => cases hm
    | release known => exact .inr hm
  | refused same => exact ⟨[], .of_disarmed_eq hg same, fun h hm => by cases hm⟩
  | trapped asked excess => exact ⟨[], .refl hg, fun h hm => by cases hm⟩

theorem members_request (s : Scene) (r : Device.Request) :
    (step (.request r) s).state.members = s.members := by
  rw [step_request]

/-! ## Every action -/

/-- The action is about array `k`, or makes it. -/
def About (k : Nat) (s : Scene) : Action → Prop
  | .create _ _ _ => s.members.length = k
  | .drop i => i = k
  | .call i _ _ => i = k
  | _ => False

theorem member?_append (s : Scene) (m' : Member) (g : Gate MemoryDevice) (k : Nat) :
    member? { gate := g, members := s.members ++ [some m'] } k =
      if s.members.length = k then some m' else s.member? k := by
  rw [member?, member?]
  by_cases hk : s.members.length = k
  · rw [if_pos hk, ← hk, List.getElem?_concat_length]
    rfl
  · rw [if_neg hk]
    by_cases hlt : k < s.members.length
    · rw [List.getElem?_append_left hlt]
    · rw [List.getElem?_eq_none (by simp only [List.length_append, List.length_singleton]; omega),
        List.getElem?_eq_none (by omega)]

/-- A creation makes no array, or one with the given elements on a new allocation. -/
theorem step_create_cases (hs : s.Sound) (f : Format) (config : ArrayConfig)
    (vs : List f.Element) :
    ((step (.create f config vs) s).outcome.isOk = false ∧
      (step (.create f config vs) s).state.member? s.members.length = none) ∨
    (f.codec.Fits config.capacity ∧
      (step (.create f config vs) s).state.gate =
        SyncedArray.afterCreate f.codec config s.gate ∧
      (step (.create f config vs) s).state.member? s.members.length =
        some { format := f, array := .filled config vs s.gate.inner.table.nextHandle }) := by
  have hfail : (step (.create f config vs) s).state.members = s.members →
      (step (.create f config vs) s).state.member? s.members.length = none := by
    intro hmembers
    rw [member?, hmembers, List.getElem?_eq_none (Nat.le_refl _)]
    rfl
  obtain ⟨t, hrun⟩ | ⟨n, hrun⟩ | ⟨hroom, l, -, hrun | ⟨o, ho, hrun⟩⟩ :=
    SyncedArray.ofList_cases (c := f.codec) hs.unlimited config vs
  · refine .inl ⟨?_, hfail ?_⟩
    · rw [step_create, hrun]
      rfl
    · rw [step_create, hrun]
      rfl
  · refine .inl ⟨?_, hfail ?_⟩
    · rw [step_create, hrun]
      rfl
    · rw [step_create, hrun]
      rfl
  · refine .inr ⟨hroom, ?_, ?_⟩
    · rw [step_create, hrun]
      rfl
    · rw [step_create, hrun]
      exact (member?_append s _ _ _).trans (if_pos rfl)
  · refine .inl ⟨?_, hfail ?_⟩
    · rw [step_create, hrun]
      exact (Outcome.isOk_map _ _).trans ho
    · rw [step_create, hrun]
      cases o with
      | ok a => cases ho
      | error e => rfl
      | trapped t => rfl

/-- An action that is not about an array leaves it as it is. -/
theorem member?_step (hs : s.Sound) (habout : ¬ About k s action) :
    (step action s).state.member? k = s.member? k := by
  cases action with
  | create f config vs =>
    rw [step_create, afterCreation]
    split
    · exact (member?_append s _ _ k).trans (if_neg habout)
    · rfl
  | drop i =>
    cases hm : s.member? i with
    | none => rw [step_drop_absent hm]
    | some m =>
      obtain ⟨new, hdrop⟩ := SyncedArray.exists_surrender_drop (hs.array_held hm)
      rw [step_drop hm hdrop.outcome]
      exact member?_withMember_ne habout _ _
  | call i f call =>
    obtain habsent | ⟨m, hm, rfl⟩ := step_call_cases s i f call
    · rw [habsent]
    · rw [step_call hm]
      exact member?_withMember_ne habout _ _
  | request r =>
    rw [member?, members_request]
    rfl
  | arm fault => rfl
  | forgetEvents => rfl

/-- What an action can do to array `k`: nothing, or it is gone, or it is new, or it is called. -/
theorem member?_step_cases (hs : s.Sound) (action : Action) (k : Nat) :
    (step action s).state.member? k = s.member? k ∨
    (step action s).state.member? k = none ∨
    (∃ f config vs, action = .create f config vs ∧ s.members.length = k ∧
      (step action s).state.member? k =
        some { format := f, array := .filled config vs s.gate.inner.table.nextHandle }) ∨
    (∃ m call, s.member? k = some m ∧ action = .call k m.format call ∧
      (step action s).state.member? k =
        some { m with array := (SyncedArray.perform call (m.array, s.gate)).state.1 }) := by
  by_cases habout : About k s action
  · cases action with
    | create f config vs =>
      obtain rfl : s.members.length = k := habout
      obtain ⟨-, habsent⟩ | ⟨-, -, hmember⟩ := step_create_cases hs f config vs
      · exact .inr (.inl habsent)
      · exact .inr (.inr (.inl ⟨f, config, vs, rfl, rfl, hmember⟩))
    | drop i =>
      obtain rfl : i = k := habout
      cases hm : s.member? i with
      | none =>
        rw [step_drop_absent hm]
        exact .inl hm
      | some m =>
        obtain ⟨new, hdrop⟩ := SyncedArray.exists_surrender_drop (hs.array_held hm)
        rw [step_drop hm hdrop.outcome]
        exact .inr (.inl (member?_withMember_self (lt_of_member? hm) _ _))
    | call i f call =>
      obtain rfl : i = k := habout
      obtain habsent | ⟨m, hm, rfl⟩ := step_call_cases s i f call
      · rw [habsent]
        exact .inl rfl
      · exact .inr (.inr (.inr ⟨m, call, hm, rfl, member?_step_call hm call⟩))
    | request _ | arm _ | forgetEvents => exact absurd habout id
  · exact .inl (member?_step hs habout)

/-- The events of an action tell about the allocations, and no allocation out of its reach is
touched. -/
theorem chronicle_step (hs : s.Sound) (action : Action) :
    Chronicle s.gate (step action s).state.gate (recorded action s) ∧
      ∀ h ∈ named (recorded action s), h ∈ made (recorded action s) ∨ h ∈ s.reach action := by
  by_cases hdirect : action.Direct
  · cases action with
    | request r =>
      obtain ⟨new, hrecord, hnamed⟩ := exists_recorded_request hs.table r
      rw [recorded_eq hrecord.events]
      exact ⟨hrecord.toChronicle, hnamed⟩
    | create _ _ _ | drop _ | call _ _ _ | arm _ | forgetEvents => exact absurd hdirect id
  · exact ⟨(stewardship hs hdirect).chronicle, (stewardship hs hdirect).named⟩

/-- Scenes stay sound, whatever is done to them. -/
theorem Sound.step (hs : s.Sound) (action : Action) : Sound (step action s).state := by
  obtain ⟨hchronicle, -⟩ := chronicle_step hs action
  by_cases hdirect : action.Direct
  · cases action with
    | request r =>
      have hheld : (Scene.step (.request r) s).state.held = s.held := by
        rw [held, members_request]
        rfl
      refine ⟨hchronicle.sound, hchronicle.unlimited hs.unlimited, ?_, hheld ▸ hs.nodup⟩
      intro h hm
      exact hchronicle.issued h (hs.issued h (hheld ▸ hm))
    | create _ _ _ | drop _ | call _ _ _ | arm _ | forgetEvents => exact absurd hdirect id
  · have hsteward := stewardship hs hdirect
    refine ⟨hchronicle.sound, hchronicle.unlimited hs.unlimited, ?_,
      (List.nodup_append.mp hsteward.nodup).1⟩
    intro h hm
    rcases ((hsteward.held h).mp (List.mem_append_left _ hm)).1 with hold | hmade
    · exact hchronicle.issued h (hs.issued h hold)
    · exact hchronicle.made_issued h hmade

theorem Sound.run (hs : s.Sound) (actions : List Action) : Sound (run s actions) :=
  run_invariant (fun _ action hs _ => hs.step action) hs
    (along_of_forall (fun _ _ => trivial) s actions)

/-- What an array holds that is out of reach of an action stays as it is on the device. -/
theorem find?_step (hs : s.Sound) (hm : h ∈ s.held) (hreach : h ∉ s.reach action) :
    (step action s).state.gate.inner.table.find? h = s.gate.inner.table.find? h := by
  obtain ⟨hchronicle, hnamed⟩ := chronicle_step hs action
  refine hchronicle.frame h (hs.issued h hm) ?_
  intro hn
  rcases hnamed h hn with hmade | hr
  · exact hchronicle.made_fresh h hmade (hs.issued h hm)
  · exact hreach hr

end Scene

end BufferSync
