import BufferSync.Proofs.Custody
import BufferSync.Scene

/-!
# Runs of a scene

For each action that has something to do, one equation says what it answers, which scene it leaves
and what it reports.  A run goes from action to action whatever their outcomes, so what every action
keeps, every run keeps (`run_invariant`).  What is asked of the actions of a run is asked of each
one in the state in which it is run; this is `Along`.

`recorded` are the events that one action has recorded, `trace` those of a whole run, also those
that the device has forgotten since.
-/

namespace BufferSync.Scene

variable {s : Scene} {i : Nat} {m : Member} {new : List Device.Event}

/-! ## Actions -/

/-- The scene in which array `i` and the gate are new. -/
def withMember (s : Scene) (i : Nat) (m : Option Member) (g : Gate MemoryDevice) : Scene :=
  { gate := g, members := s.members.set i m }

theorem onGate_of_eq {α : Type} {x : Op (Gate MemoryDevice) α} {o : Outcome α}
    {g : Gate MemoryDevice} {l : List Log.Entry}
    (hx : x s.gate = { outcome := o, state := g, log := l }) :
    onGate x s = { outcome := o, state := { s with gate := g }, log := l } := by
  rw [onGate, Op.focus_apply, hx]

/-- The scene after a creation whose run is `r`. -/
def afterCreation (s : Scene) (f : Format) (r : Run (Gate MemoryDevice) (SyncedArray f.codec)) :
    Scene :=
  match r.outcome with
  | .ok a => { gate := r.state, members := s.members ++ [some { format := f, array := a }] }
  | _ => { s with gate := r.state }

theorem step_create (s : Scene) (f : Format) (config : ArrayConfig) (vs : List f.Element) :
    step (.create f config vs) s =
      { outcome := (SyncedArray.ofList config vs s.gate : Run _ (SyncedArray f.codec)).outcome.map
          fun _ => .created s.members.length
        state := s.afterCreation f (SyncedArray.ofList config vs s.gate)
        log := (SyncedArray.ofList config vs s.gate : Run _ (SyncedArray f.codec)).log } := by
  rcases hrun : (SyncedArray.ofList config vs s.gate : Run _ (SyncedArray f.codec)) with
    ⟨a | e | t, g, l⟩
  · rw [step, Op.bind_of_ok (onGate_of_eq hrun), Op.state_bind, Op.update_bind, Op.pure_apply]
    simp [Run.after, afterCreation, Outcome.map]
  · rw [step, Op.bind_of_error (onGate_of_eq hrun)]
    rfl
  · rw [step, Op.bind_of_trapped (onGate_of_eq hrun)]
    rfl

theorem gate_step_create (s : Scene) (f : Format) (config : ArrayConfig) (vs : List f.Element) :
    (step (.create f config vs) s).state.gate =
      (SyncedArray.ofList config vs s.gate : Run _ (SyncedArray f.codec)).state := by
  rw [step_create, afterCreation]
  split <;> rfl

theorem step_drop_absent (hm : s.member? i = none) :
    step (.drop i) s = { outcome := .ok .absent, state := s, log := [] } := by
  rw [step, dropMember, Op.state_bind, hm]
  rfl

theorem step_drop (hm : s.member? i = some m)
    (hok : (SyncedArray.drop (m.array, s.gate)).outcome = .ok ()) :
    step (.drop i) s =
      { outcome := .ok .done
        state := s.withMember i none (SyncedArray.drop (m.array, s.gate)).state.2
        log := (SyncedArray.drop (m.array, s.gate)).log } := by
  have hrun : onMember i m SyncedArray.drop s =
      { outcome := .ok ()
        state := s.withMember i
          (some { m with array := (SyncedArray.drop (m.array, s.gate)).state.1 })
          (SyncedArray.drop (m.array, s.gate)).state.2
        log := (SyncedArray.drop (m.array, s.gate)).log } := by
    rw [onMember, Op.focus_apply, hok]
    rfl
  rw [step, dropMember, Op.state_bind, hm]
  simp only [Op.bind_of_ok hrun]
  rw [Op.update_bind, Op.pure_apply]
  simp [Run.after, withMember]

theorem step_call (hm : s.member? i = some m) (call : SyncedArray.Call m.format.Element) :
    step (.call i m.format call) s =
      { outcome := (SyncedArray.perform call (m.array, s.gate)).outcome.map (.reply m.format)
        state := s.withMember i
          (some { m with array := (SyncedArray.perform call (m.array, s.gate)).state.1 })
          (SyncedArray.perform call (m.array, s.gate)).state.2
        log := (SyncedArray.perform call (m.array, s.gate)).log } := by
  rw [step, callMember, Op.state_bind, hm]
  simp only [dite_true]
  rw [Op.map_apply, onMember, Op.focus_apply]
  rfl

theorem step_call_absent {f : Format} (hm : ∀ m, s.member? i = some m → f ≠ m.format)
    (call : SyncedArray.Call f.Element) :
    step (.call i f call) s = { outcome := .ok .absent, state := s, log := [] } := by
  rw [step, callMember, Op.state_bind]
  cases hmember : s.member? i with
  | none => rfl
  | some m =>
    simp only [dif_neg (hm m hmember)]
    rfl

/-- There is no array to call, or there is. -/
theorem step_call_cases (s : Scene) (i : Nat) (f : Format) (call : SyncedArray.Call f.Element) :
    step (.call i f call) s = { outcome := .ok .absent, state := s, log := [] } ∨
    ∃ m, s.member? i = some m ∧ f = m.format := by
  by_cases hmember : ∃ m, s.member? i = some m ∧ f = m.format
  · exact .inr hmember
  · exact .inl (step_call_absent (fun m hm hf => hmember ⟨m, hm, hf⟩) call)

theorem step_request (s : Scene) (r : Device.Request) :
    step (.request r) s =
      { outcome := (Device.perform r s.device).outcome.map .answer
        state := { s with gate := { s.gate with inner := (Device.perform r s.device).state } }
        log := (Device.perform r s.device).log } := by
  rw [step, Op.map_apply]
  rfl

/-! ## Runs -/

@[simp] theorem run_nil (s : Scene) : run s [] = s := rfl

@[simp] theorem run_cons (s : Scene) (action : Action) (rest : List Action) :
    run s (action :: rest) = run (step action s).state rest := rfl

@[simp] theorem run_append (s : Scene) (first rest : List Action) :
    run s (first ++ rest) = run (run s first) rest :=
  List.foldl_append

/-- Each action has the property `P` together with the scene in which it is run. -/
def Along (P : Scene → Action → Prop) : Scene → List Action → Prop
  | _, [] => True
  | s, action :: rest => P s action ∧ Along P (step action s).state rest

/-- What every action keeps that has the property, every run of such actions keeps. -/
theorem run_invariant {I : Scene → Prop} {P : Scene → Action → Prop}
    (hstep : ∀ s action, I s → P s action → I (step action s).state) {actions : List Action}
    (hs : I s) (h : Along P s actions) : I (run s actions) := by
  induction actions generalizing s with
  | nil => exact hs
  | cons action rest ih => exact ih (hstep s action hs h.1) h.2

theorem along_of_forall {P : Scene → Action → Prop} (h : ∀ s action, P s action) (s : Scene)
    (actions : List Action) : Along P s actions := by
  induction actions generalizing s with
  | nil => trivial
  | cons action rest ih => exact ⟨h s action, ih _⟩

theorem along_append {P : Scene → Action → Prop} {first rest : List Action} :
    Along P s (first ++ rest) ↔ Along P s first ∧ Along P (run s first) rest := by
  induction first generalizing s with
  | nil => simp [Along]
  | cons action first ih =>
    rw [List.cons_append, Along, Along, ih, and_assoc]
    rfl

/-- The events that an action has recorded. -/
def recorded (action : Action) (s : Scene) : List Device.Event :=
  (step action s).state.device.events.drop s.device.events.length

theorem recorded_eq {action : Action}
    (h : (step action s).state.device.events = s.device.events ++ new) :
    recorded action s = new := by
  rw [recorded, h, List.drop_left]

theorem recorded_eq_nil {action : Action}
    (h : (step action s).state.device.events = s.device.events) : recorded action s = [] := by
  rw [recorded, h, List.drop_length]

/-- The events that the actions of a run have recorded. -/
def trace : Scene → List Action → List Device.Event
  | _, [] => []
  | s, action :: rest => recorded action s ++ trace (step action s).state rest

/-! ## Members -/

theorem member?_withMember_self (hi : i < s.members.length) (m' : Option Member)
    (g : Gate MemoryDevice) : (s.withMember i m' g).member? i = m' := by
  simp [member?, withMember, List.getElem?_set_self hi]

theorem member?_withMember_ne {k : Nat} (hik : i ≠ k) (m' : Option Member)
    (g : Gate MemoryDevice) : (s.withMember i m' g).member? k = s.member? k := by
  simp [member?, withMember, List.getElem?_set_ne hik]

theorem getElem?_of_member? (hm : s.member? i = some m) : s.members[i]? = some (some m) := by
  rw [member?] at hm
  exact Option.join_eq_some_iff.mp hm

theorem lt_of_member? (hm : s.member? i = some m) : i < s.members.length :=
  (List.getElem?_eq_some_iff.mp (getElem?_of_member? hm)).1

theorem member?_step_call (hm : s.member? i = some m) (call : SyncedArray.Call m.format.Element) :
    (step (.call i m.format call) s).state.member? i =
      some { m with array := (SyncedArray.perform call (m.array, s.gate)).state.1 } := by
  rw [step_call hm]
  exact member?_withMember_self (lt_of_member? hm) _ _

theorem gate_step_call (hm : s.member? i = some m) (call : SyncedArray.Call m.format.Element) :
    (step (.call i m.format call) s).state.gate =
      (SyncedArray.perform call (m.array, s.gate)).state.2 := by
  rw [step_call hm]
  rfl

/-- The arrays in front of array `i` and those behind it. -/
theorem exists_split (hm : s.member? i = some m) :
    ∃ before after, s.members = before ++ some m :: after ∧
      ∀ m' g, (s.withMember i m' g).members = before ++ m' :: after := by
  have hi := lt_of_member? hm
  have hget : s.members[i] = some m := (List.getElem?_eq_some_iff.mp (getElem?_of_member? hm)).2
  refine ⟨s.members.take i, s.members.drop (i + 1), ?_, ?_⟩
  · rw [← hget, ← List.drop_eq_getElem_cons hi, List.take_append_drop]
  · intro m' g
    rw [withMember, List.set_eq_take_append_cons_drop, if_pos hi]

end BufferSync.Scene
