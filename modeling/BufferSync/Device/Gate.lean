import BufferSync.Device.Interface

/-!
# Gates

A gate stands in front of a device and passes requests on.  It can be told to turn away the next
binding, the next unbinding, or an allocation after some more have passed.  A request that is turned
away never reaches the device and is not reported.
-/

namespace BufferSync

/-- A device behind a gate. -/
structure Gate (D : Type) where
  /-- The device. -/
  inner : D
  /-- Turn away the next binding. -/
  refuseBind : Bool := false
  /-- Turn away the next unbinding. -/
  refuseUnbind : Bool := false
  /-- Number of allocations to pass before one is turned away. -/
  allocatesLeft : Option Nat := none
deriving DecidableEq, Repr

namespace Gate

variable {D : Type} {α : Type}

/-- Runs an operation on the device behind the gate. -/
def pass (x : Op D α) : Op (Gate D) α :=
  Op.focus Gate.inner (fun d g => { g with inner := d }) x

/-- Ends with a device error. -/
def turnAway (reason : String) : Op (Gate D) α :=
  Op.fail (.device reason)

/-- Passes an allocation on, or turns it away if its turn has come. -/
def allocate [Device D] (size : Nat) (usage : Usage) : Op (Gate D) Handle := do
  let g ← Op.state
  match g.allocatesLeft with
  | none => pass (Device.allocate size usage)
  | some 0 =>
    Op.update fun g => { g with allocatesLeft := none }
    turnAway "allocate refused"
  | some (n + 1) =>
    Op.update fun g => { g with allocatesLeft := some n }
    pass (Device.allocate size usage)

/-- Passes a binding on, or turns it away. -/
def bind [Device D] (h : Handle) : Op (Gate D) Unit := do
  let g ← Op.state
  if g.refuseBind then
    Op.update fun g => { g with refuseBind := false }
    turnAway "bind refused"
  else
    pass (Device.bind h)

/-- Passes an unbinding on, or turns it away. -/
def unbind [Device D] (usage : Usage) : Op (Gate D) Unit := do
  let g ← Op.state
  if g.refuseUnbind then
    Op.update fun g => { g with refuseUnbind := false }
    turnAway "unbind refused"
  else
    pass (Device.unbind usage)

end Gate

instance {D : Type} [Device D] : Device (Gate D) where
  allocate := Gate.allocate
  upload h offset bytes := Gate.pass (Device.upload h offset bytes)
  bind := Gate.bind
  unbind := Gate.unbind
  release h := Gate.pass (Device.release h)

end BufferSync
