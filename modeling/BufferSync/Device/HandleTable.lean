import BufferSync.Device.Handle

/-!
# Tables of handles

A table holds values under handles that it issues itself.  Slots are numbered by their place in the
list of slots; the slot at the head is never used, so numbers start at one.  A new value takes the
slot that was freed last, or else a new slot at the end.  A slot is first used with version one, and
taking its value out adds two to its version.  A handle is known as long as its slot holds a value
and has exactly its version.

*Assumed.*  Slot numbers and versions are natural numbers here, where a table in memory has words of
32 bits for them.  The two agree as long as no version wraps around, that is, no slot is used again
2 ^ 31 times, and fewer than 2 ^ 32 - 2 slots are live at once.
-/

namespace BufferSync

/-- A place in a table. -/
structure Slot (β : Type) where
  /-- Version of the handle of the value, or of the next value if there is none. -/
  version : Nat
  /-- The value, if the slot is taken. -/
  content : Option β
deriving DecidableEq, Repr

/-- Values under handles. -/
structure HandleTable (β : Type) where
  /-- All slots, the unused one at the head. -/
  slots : List (Slot β) := [{ version := 0, content := none }]
  /-- Numbers of the freed slots, the one freed last at the head. -/
  free : List Nat := []
deriving DecidableEq, Repr

namespace HandleTable

variable {β : Type}

/-- The value under a handle. -/
def find? (t : HandleTable β) (h : Handle) : Option β :=
  match t.slots[h.slot]? with
  | some s => if s.version = h.version then s.content else none
  | none => none

/-- Whether a handle is known. -/
def contains (t : HandleTable β) (h : Handle) : Bool :=
  (t.find? h).isSome

/-- Number of values. -/
def size (t : HandleTable β) : Nat :=
  t.slots.countP fun s => s.content.isSome

/-- Current version of a slot. -/
def version (t : HandleTable β) (slot : Nat) : Nat :=
  match t.slots[slot]? with
  | some s => s.version
  | none => 0

/-- The handle that the next value gets. -/
def nextHandle (t : HandleTable β) : Handle :=
  match t.free with
  | slot :: _ => { slot, version := t.version slot }
  | [] => { slot := t.slots.length, version := 1 }

/-- The table with one more value, under `nextHandle`. -/
def insert (t : HandleTable β) (b : β) : HandleTable β :=
  match t.free with
  | slot :: rest =>
      { slots := t.slots.set slot { version := t.version slot, content := some b }, free := rest }
  | [] => { slots := t.slots ++ [{ version := 1, content := some b }], free := [] }

/-- The table with the value under a known handle replaced. -/
def replace (t : HandleTable β) (h : Handle) (b : β) : HandleTable β :=
  { t with slots := t.slots.set h.slot { version := h.version, content := some b } }

/-- The table without the value under a known handle. -/
def erase (t : HandleTable β) (h : Handle) : HandleTable β :=
  { slots := t.slots.set h.slot { version := h.version + 2, content := none },
    free := h.slot :: t.free }

/-- The first value of a table gets slot one. -/
example : (({} : HandleTable Nat).nextHandle) = ⟨1, 1⟩ := by decide

/-- A slot that was freed is used again with a higher version. -/
example : ((({} : HandleTable Nat).insert 7).erase ⟨1, 1⟩).nextHandle = ⟨1, 3⟩ := by decide

end HandleTable

end BufferSync
