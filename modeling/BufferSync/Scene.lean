import BufferSync.Device.Gate
import BufferSync.Device.Memory
import BufferSync.Element.Format
import BufferSync.SyncedArray.Call

/-!
# Scenes

A scene is one device in memory with any number of synced arrays on it.  The arrays reach the device
through a gate, so that bindings can be refused as well; requests can also be made to the device
directly, past the gate.  Arrays are numbered in the order of their creation, and a number stays
taken after its array was dropped.

An action is one step of a scene.  What an action did before it failed or trapped stays done, and
the next action goes on from there.  `Scene.close` ends a scene by dropping the arrays left.
-/

namespace BufferSync

/-- A synced array of some format. -/
structure Member where
  /-- Format of its elements. -/
  format : Format
  /-- The array. -/
  array : SyncedArray format.codec

/-- Arrays that share a device. -/
structure Scene where
  /-- The device, behind its gate. -/
  gate : Gate MemoryDevice := { inner := {} }
  /-- The arrays in the order of their creation; none where one was dropped. -/
  members : List (Option Member) := []

namespace Scene

/-- A request to refuse when it comes next. -/
inductive Fault where
  /-- The device refuses an allocation. -/
  | allocate
  /-- The device refuses an upload. -/
  | upload
  /-- The device refuses a release. -/
  | release
  /-- The gate turns a binding away. -/
  | bind
  /-- The gate turns an unbinding away. -/
  | unbind
deriving DecidableEq, Repr

/-- A step of a scene. -/
inductive Action where
  /-- Make an array with the given elements. -/
  | create (f : Format) (config : ArrayConfig) (vs : List f.Element)
  /-- Drop the array with this number. -/
  | drop (i : Nat)
  /-- Run a call on the array with this number, whose elements have the format `f`. -/
  | call (i : Nat) (f : Format) (call : SyncedArray.Call f.Element)
  /-- Make a request to the device, past the gate. -/
  | request (r : Device.Request)
  /-- Arm a fault. -/
  | arm (fault : Fault)
  /-- Let the device forget its records. -/
  | forgetEvents

/-- What an action answers. -/
inductive Result where
  /-- It was done. -/
  | done
  /-- There is no such array. -/
  | absent
  /-- The array with this number was made. -/
  | created (i : Nat)
  /-- The answer of an array. -/
  | reply (f : Format) (r : Reply f.Element)
  /-- The answer of the device. -/
  | answer (a : Device.Answer)

/-- The device itself. -/
def device (s : Scene) : MemoryDevice :=
  s.gate.inner

/-- The array with number `i`, unless it was dropped. -/
def member? (s : Scene) (i : Nat) : Option Member :=
  s.members[i]?.join

/-- The current handle of array `i`; the null handle if it has none. -/
def handleOf (s : Scene) (i : Nat) : Handle :=
  ((s.member? i).bind fun m => m.array.handle).getD .null

/-- Runs an operation on the gate. -/
def onGate {α : Type} (x : Op (Gate MemoryDevice) α) : Op Scene α :=
  Op.focus Scene.gate (fun g s => { s with gate := g }) x

/-- Runs an operation on the device, past the gate. -/
def onDevice {α : Type} (x : Op MemoryDevice α) : Op Scene α :=
  onGate (Gate.pass x)

/-- Runs an operation on array `i`, which is `m`, and its device. -/
def onMember {α : Type} (i : Nat) (m : Member)
    (x : Op (SyncedArray m.format.codec × Gate MemoryDevice) α) : Op Scene α :=
  Op.focus (fun s => (m.array, s.gate))
    (fun p s => { gate := p.2, members := s.members.set i (some { m with array := p.1 }) }) x

/-- The gate with a fault armed. -/
def armed (fault : Fault) (g : Gate MemoryDevice) : Gate MemoryDevice :=
  match fault with
  | .allocate => { g with inner.faults.allocate := true }
  | .upload => { g with inner.faults.upload := true }
  | .release => { g with inner.faults.release := true }
  | .bind => { g with refuseBind := true }
  | .unbind => { g with refuseUnbind := true }

/-- Drops array `i`, if it is there. -/
def dropMember (i : Nat) : Op Scene Result := do
  let s ← Op.state
  match s.member? i with
  | none => pure .absent
  | some m =>
    onMember i m SyncedArray.drop
    Op.update fun s => { s with members := s.members.set i none }
    pure .done

/-- Runs a call on array `i`, if it is there and has the format `f`. -/
def callMember (i : Nat) (f : Format) (call : SyncedArray.Call f.Element) : Op Scene Result := do
  let s ← Op.state
  match s.member? i with
  | none => pure .absent
  | some m =>
    if h : f = m.format then
      let r ← onMember i m (SyncedArray.perform (h ▸ call))
      pure (.reply m.format r)
    else
      pure .absent

/-- Runs one action. -/
def step : Action → Op Scene Result
  | .create f config vs => do
    let a ← onGate (SyncedArray.ofList config vs)
    let s ← Op.state
    Op.update fun s => { s with members := s.members ++ [some { format := f, array := a }] }
    pure (.created s.members.length)
  | .drop i => dropMember i
  | .call i f call => callMember i f call
  | .request r => do
    let a ← onDevice (Device.perform r)
    pure (.answer a)
  | .arm fault => do
    onGate (Op.update (armed fault))
    pure .done
  | .forgetEvents => do
    onDevice (Op.update MemoryDevice.forgetEvents)
    pure .done

/-- Drops the arrays that are left, in the order of their creation. -/
def close : Op Scene Unit := do
  let s ← Op.state
  Op.each (fun i => do let _ ← dropMember i) (List.range s.members.length)

/-- The state after running actions one after another, whatever their outcomes. -/
def run (s : Scene) (actions : List Action) : Scene :=
  actions.foldl (fun s action => (step action s).state) s

end Scene

end BufferSync
