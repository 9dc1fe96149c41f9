import BufferSync.Proofs.Imprints

/-!
# Owners that share a device

Several owners have their arrays on one device and take turns in any order.  None of them notices
the others: what its turns answer (`Company.answers`) and what can be seen of its array
(`Company.view`) is the same as if it had been alone on a device of its own.  Handles are not the
same, since a slot that one owner has given back goes to whoever asks next; but nothing that an
owner can see depends on them.

A turn of another owner leaves the imprint of an array as it is, since arrays have no allocation in
common.  A turn of the owner itself leads from equal imprints to equal answers and equal imprints.
These two facts carry the induction over the turns.
-/

namespace BufferSync

namespace Scene

variable {s t : Scene} {i j k : Nat} {m : Member} {action : Action}

/-- What is left of array `k` without the names of its allocations. -/
def imprint? (s : Scene) (k : Nat) : Option ((f : Format) × SyncedArray.Imprint f.codec) :=
  (s.member? k).map fun m => ⟨m.format, SyncedArray.imprint (m.array, s.gate)⟩

theorem imprint?_eq_none (hm : s.member? k = none) : s.imprint? k = none := by
  rw [imprint?, hm]
  rfl

theorem imprint?_of_member? (hm : s.member? k = some m) :
    s.imprint? k = some ⟨m.format, SyncedArray.imprint (m.array, s.gate)⟩ := by
  rw [imprint?, hm]
  rfl

theorem member?_of_imprint? {f : Format} {x : SyncedArray.Imprint f.codec}
    (hx : s.imprint? k = some ⟨f, x⟩) :
    ∃ a, s.member? k = some ⟨f, a⟩ ∧ SyncedArray.imprint (a, s.gate) = x := by
  cases hm : s.member? k with
  | none =>
    rw [imprint?_eq_none hm] at hx
    cases hx
  | some m =>
    rw [imprint?_of_member? hm] at hx
    cases hx
    exact ⟨m.array, rfl, rfl⟩

theorem member?_of_imprint?_eq_none (hnone : s.imprint? k = none) : s.member? k = none :=
  Option.map_eq_none_iff.mp hnone

/-! ## Scenes without faults -/

/-- The action is one on an array. -/
def Action.Ordinary : Action → Prop
  | .create _ _ _ | .drop _ | .call _ _ _ => True
  | _ => False

/-- No fault is armed, no allocation is pending, and nobody has disturbed an array. -/
structure Serene (s : Scene) : Prop where
  /-- Nobody has disturbed an array. -/
  undisturbed : ∀ k, s.Undisturbed k
  /-- No fault is armed. -/
  calm : s.gate.calm = s.gate
  /-- No allocation is pending. -/
  pending : ∀ k m, s.member? k = some m → m.array.pending = none

theorem serene_empty : Serene {} where
  undisturbed := undisturbed_empty
  calm := rfl
  pending k m hm := by cases hm

theorem Serene.sound (hs : Serene s) : s.Sound :=
  (hs.undisturbed 0).sound

theorem Serene.untroubled (hs : Serene s) (hm : s.member? k = some m) :
    SyncedArray.Untroubled (m.array, s.gate) where
  ready hlive := (hs.undisturbed k).ready hm hlive
  calm := Prod.ext rfl hs.calm
  pending := hs.pending k m hm

theorem Action.Ordinary.spares (hown : action.Ordinary) (k : Nat) (s : Scene) :
    Spares k s action := by
  rintro r h rfl
  exact absurd hown id

theorem Serene.calm_step (hs : Serene s) (hown : action.Ordinary) :
    (step action s).state.gate.calm = (step action s).state.gate := by
  cases action with
  | create f config vs =>
    rw [gate_step_create]
    exact SyncedArray.calm_ofList hs.sound.unlimited hs.calm config vs
  | drop i =>
    cases hm : s.member? i with
    | none =>
      rw [step_drop_absent hm]
      exact hs.calm
    | some m =>
      obtain ⟨new, hdrop⟩ := SyncedArray.exists_surrender_drop (hs.sound.array_held hm)
      rw [step_drop hm hdrop.outcome]
      exact SyncedArray.calm_drop hs.calm m.array
  | call i f asked =>
    obtain habsent | ⟨m, hm, rfl⟩ := step_call_cases s i f asked
    · rw [habsent]
      exact hs.calm
    · rw [gate_step_call hm]
      exact congrArg (fun p => p.2) (SyncedArray.responds_perform (hs.untroubled hm) asked).calm
  | request _ | arm _ | forgetEvents => exact absurd hown id

theorem Serene.pending_step (hs : Serene s) (k : Nat) (m' : Member)
    (hm' : (step action s).state.member? k = some m') : m'.array.pending = none := by
  obtain hsame | hgone | ⟨f, config, vs, rfl, -, hmember⟩ | ⟨m, call, hm, rfl, hmember⟩ :=
    member?_step_cases hs.sound action k
  · exact hs.pending k m' (hsame ▸ hm')
  · rw [hgone] at hm'
    cases hm'
  · obtain rfl := Option.some.inj (hmember.symm.trans hm')
    obtain ⟨host, marks, heq⟩ := SyncedArray.filled_eq (c := f.codec) config vs
      s.gate.inner.table.nextHandle
    exact congrArg SyncedArray.pending heq
  · obtain rfl := Option.some.inj (hmember.symm.trans hm')
    exact (SyncedArray.responds_perform (hs.untroubled hm) call).pending

/-! ## Actions on other arrays -/

/-- An ordinary action that is not about an array leaves its imprint as it is. -/
theorem Serene.imprint?_step (hs : Serene s) (hown : action.Ordinary)
    (habout : ¬ About k s action) : (step action s).state.imprint? k = s.imprint? k := by
  have hmember := member?_step hs.sound habout
  cases hm : s.member? k with
  | none => rw [imprint?_eq_none hm, imprint?_eq_none (hmember.trans hm)]
  | some m =>
    rw [imprint?_of_member? hm, imprint?_of_member? (hmember.trans hm)]
    cases hh : m.array.handle with
    | none => rw [SyncedArray.imprint_of_none hh, SyncedArray.imprint_of_none hh]
    | some h =>
      rw [SyncedArray.imprint_of_some hh, SyncedArray.imprint_of_some hh,
        (hown.spares k s).find?_step hs.sound habout hm hh]

/-! ## Actions on the array itself -/

/-- From equal imprints a call leads to equal answers and equal imprints. -/
theorem Serene.call_alike (hs : Serene s) (ht : Serene t) (heq : s.imprint? i = t.imprint? j)
    (f : Format) (asked : SyncedArray.Call f.Element) :
    (step (.call i f asked) s).outcome = (step (.call j f asked) t).outcome ∧
    (step (.call i f asked) s).state.imprint? i = (step (.call j f asked) t).state.imprint? j := by
  by_cases hfound : ∃ x, s.imprint? i = some ⟨f, x⟩
  · obtain ⟨x, hx⟩ := hfound
    obtain ⟨a, hm, ha⟩ := member?_of_imprint? hx
    obtain ⟨b, hm', hb⟩ := member?_of_imprint? (heq.symm.trans hx)
    have hrun := SyncedArray.responds_perform (hs.untroubled hm) asked
    have hrun' := SyncedArray.responds_perform (ht.untroubled hm') asked
    rw [ha] at hrun
    rw [hb] at hrun'
    constructor
    · rw [step_call hm, step_call hm', hrun.outcome, hrun'.outcome]
    · rw [imprint?_of_member? (member?_step_call hm asked), gate_step_call hm,
        imprint?_of_member? (member?_step_call hm' asked), gate_step_call hm', hrun.imprint,
        hrun'.imprint]
  · have habsent : ∀ {u : Scene} {n : Nat}, u.imprint? n = s.imprint? i →
        step (.call n f asked) u = { outcome := .ok .absent, state := u, log := [] } := by
      intro u n hsame
      apply step_call_absent
      rintro m hm rfl
      exact hfound ⟨_, hsame.symm.trans (imprint?_of_member? hm)⟩
    rw [habsent rfl, habsent heq.symm]
    exact ⟨rfl, heq⟩

theorem imprint?_step_drop (hs : s.Sound) (k : Nat) :
    (step (.drop k) s).outcome = .ok (if (s.imprint? k).isSome then .done else .absent) ∧
    (step (.drop k) s).state.imprint? k = none := by
  cases hm : s.member? k with
  | none =>
    rw [step_drop_absent hm, imprint?_eq_none hm]
    exact ⟨rfl, rfl⟩
  | some m =>
    obtain ⟨new, hdrop⟩ := SyncedArray.exists_surrender_drop (hs.array_held hm)
    rw [step_drop hm hdrop.outcome, imprint?_of_member? hm]
    exact ⟨rfl, imprint?_eq_none (member?_withMember_self (lt_of_member? hm) _ _)⟩

/-- From equal imprints dropping leads to equal answers, and nothing is left. -/
theorem drop_alike (hs : s.Sound) (ht : t.Sound) (heq : s.imprint? i = t.imprint? j) :
    (step (.drop i) s).outcome = (step (.drop j) t).outcome ∧
    (step (.drop i) s).state.imprint? i = (step (.drop j) t).state.imprint? j := by
  obtain ⟨houtcome, himprint⟩ := imprint?_step_drop hs i
  obtain ⟨houtcome', himprint'⟩ := imprint?_step_drop ht j
  rw [houtcome, houtcome', himprint, himprint', heq]
  exact ⟨rfl, rfl⟩

/-- Whether an array can be made depends on what it is made of. -/
theorem Serene.outcome_create (hs : Serene s) (f : Format) (config : ArrayConfig)
    (vs : List f.Element) :
    (step (.create f config vs) s).outcome =
      (SyncedArray.lodging f.codec config vs).map fun _ => .created s.members.length := by
  rw [step_create, SyncedArray.outcome_ofList hs.sound.unlimited hs.calm]
  cases SyncedArray.lodging f.codec config vs <;> rfl

/-- A new array has the imprint that belongs to what it is made of. -/
theorem Serene.imprint?_create (hs : Serene s) {f : Format} {config : ArrayConfig}
    {vs : List f.Element} (hok : SyncedArray.lodging f.codec config vs = .ok ()) :
    (step (.create f config vs) s).state.imprint? s.members.length =
      some ⟨f, SyncedArray.newborn f.codec config vs⟩ := by
  obtain ⟨hfailed, -⟩ | ⟨-, hgate, hmember⟩ := step_create_cases hs.sound f config vs
  · rw [hs.outcome_create, hok] at hfailed
    cases hfailed
  · rw [imprint?_of_member? hmember, hgate, SyncedArray.imprint_filled hs.sound.table]

theorem Serene.step (hs : Serene s) (hown : action.Ordinary) : Serene (step action s).state where
  undisturbed k := (hs.undisturbed k).step (hown.spares k s)
  calm := hs.calm_step hown
  pending := hs.pending_step

/-- A number that is given to a new array was not taken. -/
theorem Serene.created (hs : Serene s) (hown : action.Ordinary)
    (hcreated : (Scene.step action s).outcome = .ok (.created i)) :
    i = s.members.length ∧ (Scene.step action s).state.members.length = i + 1 := by
  cases action with
  | create f config vs =>
    have hlength := length_step_create s f config vs
    rw [hcreated] at hlength
    rw [hs.outcome_create] at hcreated
    obtain ⟨u, -, hsame⟩ := Outcome.exists_of_map hcreated
    cases hsame
    exact ⟨rfl, hlength⟩
  | drop k =>
    rw [(imprint?_step_drop hs.sound k).1] at hcreated
    split at hcreated
    · cases hcreated
    · cases hcreated
  | call k f asked =>
    obtain habsent | ⟨m, hm, rfl⟩ := step_call_cases s k f asked
    · rw [habsent] at hcreated
      cases hcreated
    · rw [step_call hm] at hcreated
      obtain ⟨r, -, hsame⟩ := Outcome.exists_of_map hcreated
      cases hsame
  | request _ | arm _ | forgetEvents => exact absurd hown id

/-- The answer without the number of a new array. -/
def Result.unnumbered : Result → Result
  | .created _ => .created 0
  | r => r

end Scene

/-! ## Owners -/

/-- What an owner does with its array. -/
inductive Deed where
  /-- Make an array with the given elements. -/
  | create (f : Format) (config : ArrayConfig) (vs : List f.Element)
  /-- Run a call on the array, whose elements have the format `f`. -/
  | call (f : Format) (call : SyncedArray.Call f.Element)
  /-- Drop the array. -/
  | drop

/-- A deed of one of the owners. -/
structure Turn where
  /-- Whose turn it is. -/
  owner : Nat
  /-- What the owner does. -/
  deed : Deed

/-- Owners whose arrays share a device. -/
structure Company where
  /-- The device and the arrays. -/
  scene : Scene := {}
  /-- The number of the array that each owner has made last. -/
  number : Nat → Option Nat := fun _ => none

/-- What can be seen of an array. -/
structure View where
  /-- Format of its elements. -/
  format : Format
  /-- Number of its elements. -/
  count : Nat
  /-- Number of elements that the host has room for. -/
  capacity : Nat
  /-- The bytes on the host. -/
  storage : Bytes
  /-- Number of elements that the device has room for. -/
  deviceCapacity : Nat
  /-- The elements that the device has not seen. -/
  dirty : Option Span
  /-- Whether the array was disposed. -/
  disposed : Bool
  /-- The bytes on the device. -/
  contents : Option Bytes
deriving DecidableEq

namespace Company

variable {w v : Company} {o i : Nat} {turn : Turn}

/-- The action that a turn comes to; none if the owner has made no array. -/
def action? (w : Company) (turn : Turn) : Option Scene.Action :=
  match turn.deed with
  | .create f config vs => some (.create f config vs)
  | .call f asked => (w.number turn.owner).map fun i => .call i f asked
  | .drop => (w.number turn.owner).map .drop

/-- The numbers after an action of the given owner. -/
def numbered (w : Company) (owner : Nat) (outcome : Outcome Scene.Result) : Nat → Option Nat :=
  match outcome with
  | .ok (.created i) => Function.update w.number owner (some i)
  | _ => w.number

/-- One turn: what it answers, and the company after it. -/
def play (w : Company) (turn : Turn) : Outcome Scene.Result × Company :=
  match w.action? turn with
  | none => (.ok .absent, w)
  | some action =>
    let r := Scene.step action w.scene
    (r.outcome.map .unnumbered, { scene := r.state, number := w.numbered turn.owner r.outcome })

/-- The company after some turns. -/
def playAll (w : Company) (turns : List Turn) : Company :=
  turns.foldl (fun w turn => (w.play turn).2) w

/-- What the turns of an owner answer, in their order. -/
def answers (o : Nat) : Company → List Turn → List (Outcome Scene.Result)
  | _, [] => []
  | w, turn :: rest =>
    if turn.owner = o then (w.play turn).1 :: answers o (w.play turn).2 rest
    else answers o (w.play turn).2 rest

/-- The turns of an owner, in their order. -/
def alone (o : Nat) (turns : List Turn) : List Turn :=
  turns.filter fun turn => turn.owner = o

/-- What can be seen of the array of an owner. -/
def view (w : Company) (o : Nat) : Option View :=
  (w.number o).bind fun i => (w.scene.member? i).map fun m =>
    { format := m.format
      count := m.array.host.count
      capacity := m.array.host.capacity
      storage := m.array.host.storage
      deviceCapacity := m.array.deviceCapacity
      dirty := m.array.marks.span
      disposed := m.array.isDisposed
      contents := m.array.handle.bind w.scene.device.contents? }

/-- What is left of the array of an owner without the names of its allocations. -/
def imprint? (w : Company) (o : Nat) : Option ((f : Format) × SyncedArray.Imprint f.codec) :=
  (w.number o).bind w.scene.imprint?

/-- No name is needed to see an array. -/
theorem view_eq (w : Company) (o : Nat) :
    w.view o = (w.imprint? o).map fun x =>
      { format := x.1
        count := x.2.array.host.count
        capacity := x.2.array.host.capacity
        storage := x.2.array.host.storage
        deviceCapacity := x.2.array.deviceCapacity
        dirty := x.2.array.marks.span
        disposed := x.2.array.isDisposed
        contents := x.2.allocation.map Allocation.bytes } := by
  rw [view, imprint?]
  cases w.number o with
  | none => rfl
  | some i =>
    cases hm : w.scene.member? i with
    | none => rw [Option.bind_some, Option.bind_some, hm, Scene.imprint?_eq_none hm]; rfl
    | some m =>
      have hdisposed : m.array.anonymous.isDisposed = m.array.isDisposed := Option.isNone_map
      have hcontents : m.array.handle.bind w.scene.device.contents? =
          (m.array.handle.bind w.scene.gate.inner.table.find?).map Allocation.bytes :=
        (Option.map_bind ..).symm
      rw [Option.bind_some, Option.bind_some, hm, Scene.imprint?_of_member? hm, Option.map_some,
        Option.map_some, hcontents, ← hdisposed]
      rfl

/-! ## Turns -/

/-- The scene is serene, and each owner has an array of its own. -/
structure Sound (w : Company) : Prop where
  /-- The scene is serene. -/
  serene : w.scene.Serene
  /-- The numbers are taken. -/
  number_lt : ∀ o i, w.number o = some i → i < w.scene.members.length
  /-- No two owners have the same array. -/
  apart : ∀ o o' i, w.number o = some i → w.number o' = some i → o = o'

theorem sound_empty : Sound {} where
  serene := Scene.serene_empty
  number_lt o i hi := by cases hi
  apart o o' i hi := by cases hi

/-- A turn comes to a creation, or to an action on the array of its owner. -/
theorem action?_cases {action : Scene.Action} (hact : w.action? turn = some action) :
    (∃ f config vs, turn.deed = .create f config vs ∧ action = .create f config vs) ∨
    (∃ i f asked, w.number turn.owner = some i ∧ turn.deed = .call f asked ∧
      action = .call i f asked) ∨
    (∃ i, w.number turn.owner = some i ∧ turn.deed = .drop ∧ action = .drop i) := by
  unfold action? at hact
  split at hact
  next f config vs hdeed =>
    cases hact
    exact .inl ⟨f, config, vs, hdeed, rfl⟩
  next f asked hdeed =>
    obtain ⟨i, hi, rfl⟩ := Option.map_eq_some_iff.mp hact
    exact .inr (.inl ⟨i, f, asked, hi, hdeed, rfl⟩)
  next hdeed =>
    obtain ⟨i, hi, rfl⟩ := Option.map_eq_some_iff.mp hact
    exact .inr (.inr ⟨i, hi, hdeed, rfl⟩)

theorem ordinary_of_action? {action : Scene.Action} (hact : w.action? turn = some action) :
    action.Ordinary := by
  obtain ⟨f, config, vs, -, rfl⟩ | ⟨i, f, asked, -, -, rfl⟩ | ⟨i, -, -, rfl⟩ := action?_cases hact
  · trivial
  · trivial
  · trivial

/-- The turn of one owner is not about the array of another. -/
theorem Sound.not_about (hw : w.Sound) {action : Scene.Action}
    (hact : w.action? turn = some action) (ho : turn.owner ≠ o) {i : Nat}
    (hi : w.number o = some i) : ¬ Scene.About i w.scene action := by
  obtain ⟨f, config, vs, -, rfl⟩ | ⟨j, f, asked, hj, -, rfl⟩ | ⟨j, hj, -, rfl⟩ :=
    action?_cases hact
  · exact Nat.ne_of_gt (hw.number_lt o i hi)
  · rintro rfl
    exact ho (hw.apart turn.owner o j hj hi)
  · rintro rfl
    exact ho (hw.apart turn.owner o j hj hi)

theorem play_of_action? {action : Scene.Action} (hact : w.action? turn = some action) :
    w.play turn =
      ((Scene.step action w.scene).outcome.map .unnumbered,
        { scene := (Scene.step action w.scene).state
          number := w.numbered turn.owner (Scene.step action w.scene).outcome }) := by
  rw [play, hact]

theorem play_of_none (hact : w.action? turn = none) : w.play turn = (.ok .absent, w) := by
  rw [play, hact]

/-- No array was made, or the owner has its number. -/
theorem numbered_cases (w : Company) (owner : Nat) (outcome : Outcome Scene.Result) :
    w.numbered owner outcome = w.number ∨
    ∃ i, outcome = .ok (.created i) ∧
      w.numbered owner outcome = Function.update w.number owner (some i) := by
  unfold numbered
  split
  · exact .inr ⟨_, rfl, rfl⟩
  · exact .inl rfl

/-- Behind a turn the numbers are the same, or the owner has a number that was not taken. -/
theorem Sound.number_play (hw : w.Sound) {action : Scene.Action}
    (hact : w.action? turn = some action) (hi : (w.play turn).2.number o = some i) :
    w.number o = some i ∨
      o = turn.owner ∧ i = w.scene.members.length ∧
        (Scene.step action w.scene).state.members.length = i + 1 := by
  have hnumber : (w.play turn).2.number =
      w.numbered turn.owner (Scene.step action w.scene).outcome := by
    rw [play_of_action? hact]
  rw [hnumber] at hi
  obtain hsame | ⟨j, houtcome, hupdate⟩ :=
    w.numbered_cases turn.owner (Scene.step action w.scene).outcome
  · rw [hsame] at hi
    exact .inl hi
  · rw [hupdate] at hi
    by_cases ho : o = turn.owner
    · rw [ho, Function.update_self] at hi
      cases hi
      exact .inr ⟨ho, hw.serene.created (ordinary_of_action? hact) houtcome⟩
    · rw [Function.update_of_ne ho] at hi
      exact .inl hi

theorem Sound.play (hw : w.Sound) : (w.play turn).2.Sound := by
  cases hact : w.action? turn with
  | none =>
    rw [play_of_none hact]
    exact hw
  | some action =>
    have hlength := Scene.le_length_step hw.serene.sound action
    have hscene : (w.play turn).2.scene = (Scene.step action w.scene).state := by
      rw [play_of_action? hact]
    refine ⟨?_, ?_, ?_⟩
    · rw [hscene]
      exact hw.serene.step (ordinary_of_action? hact)
    · intro o i hi
      rw [hscene]
      rcases hw.number_play hact hi with hold | ⟨-, -, hnew⟩
      · exact Nat.lt_of_lt_of_le (hw.number_lt o i hold) hlength
      · omega
    · -- a new number is above all that were given before
      intro o o' i hi hi'
      rcases hw.number_play hact hi with hold | ⟨ho, hnew, -⟩
      · rcases hw.number_play hact hi' with hold' | ⟨-, hnew', -⟩
        · exact hw.apart o o' i hold hold'
        · exact absurd (hw.number_lt o i hold) (by omega)
      · rcases hw.number_play hact hi' with hold' | ⟨ho', -, -⟩
        · exact absurd (hw.number_lt o' i hold') (by omega)
        · rw [ho, ho']

/-- The turn of another owner goes unnoticed. -/
theorem Sound.imprint?_play_other (hw : w.Sound) (ho : turn.owner ≠ o) :
    (w.play turn).2.imprint? o = w.imprint? o := by
  cases hact : w.action? turn with
  | none => rw [play_of_none hact]
  | some action =>
    have hnumber : (w.play turn).2.number o = w.number o := by
      rw [play_of_action? hact]
      obtain hsame | ⟨j, -, hupdate⟩ :=
        w.numbered_cases turn.owner (Scene.step action w.scene).outcome
      · exact congrFun hsame o
      · exact (congrFun hupdate o).trans (Function.update_of_ne ho.symm _ _)
    rw [imprint?, imprint?, hnumber]
    cases hi : w.number o with
    | none => rfl
    | some i =>
      rw [play_of_action? hact]
      exact hw.serene.imprint?_step (ordinary_of_action? hact) (hw.not_about hact ho hi)

/-! ## Turns of the owner -/

/-- Only a creation gives a number. -/
theorem Sound.numbered_of_not_create (hw : w.Sound) {action : Scene.Action}
    (hact : w.action? turn = some action)
    (hdeed : ∀ f config vs, turn.deed ≠ .create f config vs) :
    w.numbered turn.owner (Scene.step action w.scene).outcome = w.number := by
  have hcreate : ∀ f config vs, action ≠ .create f config vs := by
    rintro f config vs rfl
    obtain ⟨f', config', vs', hd, -⟩ | ⟨i, f, asked, -, -, habsurd⟩ | ⟨i, -, -, habsurd⟩ :=
      action?_cases hact
    · exact hdeed f' config' vs' hd
    · cases habsurd
    · cases habsurd
  obtain hsame | ⟨i, houtcome, -⟩ :=
    w.numbered_cases turn.owner (Scene.step action w.scene).outcome
  · exact hsame
  · have hcreated := hw.serene.created (ordinary_of_action? hact) houtcome
    have hlength := Scene.length_step hw.serene.sound hcreate
    omega

/-- What a creation answers and makes depends on what the array is made of. -/
theorem Sound.play_create (hw : w.Sound) {f : Format} {config : ArrayConfig} {vs : List f.Element}
    (hdeed : turn.deed = .create f config vs) :
    (w.play turn).1 = (SyncedArray.lodging f.codec config vs).map (fun _ => .created 0) ∧
    (w.play turn).2.imprint? turn.owner =
      if (SyncedArray.lodging f.codec config vs).isOk then
        some ⟨f, SyncedArray.newborn f.codec config vs⟩
      else w.imprint? turn.owner := by
  have hact : w.action? turn = some (.create f config vs) := by rw [action?, hdeed]
  have houtcome := hw.serene.outcome_create f config vs
  -- a creation that fails does not reach the array that the owner may have
  have hkept : (w.number turn.owner).bind
      (Scene.step (.create f config vs) w.scene).state.imprint? = w.imprint? turn.owner := by
    rw [imprint?]
    cases hi : w.number turn.owner with
    | none => rfl
    | some i =>
      exact hw.serene.imprint?_step (ordinary_of_action? hact)
        (Nat.ne_of_gt (hw.number_lt turn.owner i hi))
  rw [play_of_action? hact, houtcome]
  cases hlodging : SyncedArray.lodging f.codec config vs with
  | ok u =>
    refine ⟨rfl, ?_⟩
    change (Function.update w.number turn.owner (some w.scene.members.length) turn.owner).bind _ = _
    rw [Function.update_self]
    exact hw.serene.imprint?_create hlodging
  | error e => exact ⟨rfl, hkept⟩
  | trapped t => exact ⟨rfl, hkept⟩

/-- Without an array nothing can be done but to make one. -/
theorem play_absent (hnone : w.imprint? turn.owner = none)
    (hdeed : ∀ f config vs, turn.deed ≠ .create f config vs) : w.play turn = (.ok .absent, w) := by
  cases hact : w.action? turn with
  | none => exact play_of_none hact
  | some action =>
    have hgone : ∀ i, w.number turn.owner = some i → w.scene.member? i = none := by
      intro i hi
      rw [imprint?, hi] at hnone
      exact Scene.member?_of_imprint?_eq_none hnone
    obtain ⟨f, config, vs, hcreate, -⟩ | ⟨i, f, asked, hi, -, rfl⟩ | ⟨i, hi, -, rfl⟩ :=
      action?_cases hact
    · exact absurd hcreate (hdeed f config vs)
    · have habsent : Scene.step (.call i f asked) w.scene =
          { outcome := .ok .absent, state := w.scene, log := [] } := by
        apply Scene.step_call_absent
        intro m hm
        rw [hgone i hi] at hm
        cases hm
      rw [play_of_action? hact, habsent]
      rfl
    · rw [play_of_action? hact, Scene.step_drop_absent (hgone i hi)]
      rfl

/-- An action on the array itself counts as far as its outcome and the imprint behind it. -/
theorem Sound.play_alike_of_step (hw : w.Sound) (hv : v.Sound) {action action' : Scene.Action}
    (hact : w.action? turn = some action) (hact' : v.action? turn = some action')
    (hdeed : ∀ f config vs, turn.deed ≠ .create f config vs) {i j : Nat}
    (hi : w.number turn.owner = some i) (hj : v.number turn.owner = some j)
    (halike : (Scene.step action w.scene).outcome = (Scene.step action' v.scene).outcome ∧
      (Scene.step action w.scene).state.imprint? i =
        (Scene.step action' v.scene).state.imprint? j) :
    (w.play turn).1 = (v.play turn).1 ∧
    (w.play turn).2.imprint? turn.owner = (v.play turn).2.imprint? turn.owner := by
  have hnumber := hw.numbered_of_not_create hact hdeed
  have hnumber' := hv.numbered_of_not_create hact' hdeed
  rw [play_of_action? hact, play_of_action? hact', imprint?, imprint?, hnumber, hnumber', hi, hj,
    halike.1]
  exact ⟨rfl, halike.2⟩

/-- From equal imprints a turn of the owner leads to equal answers and equal imprints. -/
theorem Sound.play_alike (hw : w.Sound) (hv : v.Sound)
    (heq : w.imprint? turn.owner = v.imprint? turn.owner) :
    (w.play turn).1 = (v.play turn).1 ∧
    (w.play turn).2.imprint? turn.owner = (v.play turn).2.imprint? turn.owner := by
  by_cases hcreate : ∃ f config vs, turn.deed = .create f config vs
  · obtain ⟨f, config, vs, hdeed⟩ := hcreate
    obtain ⟨hanswer, hafter⟩ := hw.play_create hdeed
    obtain ⟨hanswer', hafter'⟩ := hv.play_create hdeed
    rw [hanswer, hanswer', hafter, hafter', heq]
    exact ⟨rfl, rfl⟩
  · have hdeed : ∀ f config vs, turn.deed ≠ .create f config vs := fun f config vs hd =>
      hcreate ⟨f, config, vs, hd⟩
    cases hsome : w.imprint? turn.owner with
    | none =>
      rw [play_absent hsome hdeed, play_absent (heq.symm.trans hsome) hdeed]
      exact ⟨rfl, heq⟩
    | some x =>
      obtain ⟨i, hi, hx⟩ := Option.bind_eq_some_iff.mp hsome
      obtain ⟨j, hj, hy⟩ := Option.bind_eq_some_iff.mp (heq.symm.trans hsome)
      have hscene := hx.trans hy.symm
      cases hd : turn.deed with
      | create f config vs => exact absurd hd (hdeed f config vs)
      | call f asked =>
        refine hw.play_alike_of_step hv ?_ ?_ hdeed hi hj
          (hw.serene.call_alike hv.serene hscene f asked)
        · rw [action?, hd, hi]
          rfl
        · rw [action?, hd, hj]
          rfl
      | drop =>
        refine hw.play_alike_of_step hv ?_ ?_ hdeed hi hj
          (Scene.drop_alike hw.serene.sound hv.serene.sound hscene)
        · rw [action?, hd, hi]
          rfl
        · rw [action?, hd, hj]
          rfl

/-! ## Runs -/

theorem alone_cons_self (turn : Turn) (rest : List Turn) :
    alone turn.owner (turn :: rest) = turn :: alone turn.owner rest :=
  List.filter_cons_of_pos (decide_eq_true rfl)

theorem alone_cons_other (ho : turn.owner ≠ o) (rest : List Turn) :
    alone o (turn :: rest) = alone o rest :=
  List.filter_cons_of_neg (by rw [decide_eq_false ho]; exact Bool.false_ne_true)

/-- From equal imprints an owner sees the same in company and alone. -/
theorem Sound.run_alike (hw : w.Sound) (hv : v.Sound) (heq : w.imprint? o = v.imprint? o)
    (turns : List Turn) :
    answers o w turns = answers o v (alone o turns) ∧
    (w.playAll turns).imprint? o = (v.playAll (alone o turns)).imprint? o := by
  induction turns generalizing w v with
  | nil => exact ⟨rfl, heq⟩
  | cons turn rest ih =>
    -- both runs take a turn of the owner; a turn of another one is taken in company only
    by_cases ho : turn.owner = o
    · subst ho
      obtain ⟨hanswer, hafter⟩ := hw.play_alike hv heq
      obtain ⟨hanswers, hend⟩ := ih hw.play hv.play hafter
      rw [alone_cons_self, answers, answers, if_pos rfl, if_pos rfl, hanswer, hanswers]
      exact ⟨rfl, hend⟩
    · have hafter := (hw.imprint?_play_other ho).trans heq
      obtain ⟨hanswers, hend⟩ := ih hw.play hv hafter
      rw [alone_cons_other ho, answers, if_neg ho]
      exact ⟨hanswers, hend⟩

/-- Whatever the other owners do and whenever they do it, what the turns of an owner answer and what
can be seen of its array afterwards is the same as if the owner had been alone on a new device.  So
it is the same in any two interleavings in which the owner has the same turns. -/
theorem sharing_unnoticed (o : Nat) (turns : List Turn) :
    answers o {} turns = answers o {} (alone o turns) ∧
    (playAll {} turns).view o = (playAll {} (alone o turns)).view o ∧
    ∀ turns' : List Turn, alone o turns' = alone o turns →
      answers o {} turns' = answers o {} turns ∧
      (playAll {} turns').view o = (playAll {} turns).view o := by
  have halike : ∀ turns : List Turn, answers o {} turns = answers o {} (alone o turns) ∧
      (playAll {} turns).view o = (playAll {} (alone o turns)).view o := by
    intro turns
    obtain ⟨hanswers, himprint⟩ := sound_empty.run_alike sound_empty rfl turns
    exact ⟨hanswers, by rw [view_eq, view_eq, himprint]⟩
  refine ⟨(halike turns).1, (halike turns).2, ?_⟩
  intro turns' halone
  rw [(halike turns').1, (halike turns).1, (halike turns').2, (halike turns).2, halone]
  exact ⟨rfl, rfl⟩

/-- Two arrays grow by turns, and the second one moves to where the first one was. -/
def mingled : List Turn :=
  [⟨0, .create .uint8 { capacity := 1 } [7]⟩, ⟨1, .create .int16 { capacity := 1 } [3]⟩,
    ⟨0, .call .uint8 (.array (.append 9))⟩, ⟨0, .call .uint8 .flush⟩,
    ⟨1, .call .int16 (.array (.append 5))⟩, ⟨1, .call .int16 .bind⟩]

theorem sharing_unnoticed_mingled :
    (playAll {} mingled).scene.handleOf 1 ≠ (playAll {} (alone 1 mingled)).scene.handleOf 0 ∧
      answers 1 {} mingled = answers 1 {} (alone 1 mingled) ∧
      (playAll {} mingled).view 1 = (playAll {} (alone 1 mingled)).view 1 ∧
      (playAll {} (alone 1 mingled)).view 1 =
        some
          { format := .int16
            count := 2
            capacity := 2
            storage := [3, 0, 5, 0]
            deviceCapacity := 2
            dirty := none
            disposed := false
            contents := some [3, 0, 5, 0] } := by
  obtain ⟨hanswers, hview, -⟩ := sharing_unnoticed 1 mingled
  exact ⟨by decide, hanswers, hview, by decide⟩

end Company

end BufferSync
