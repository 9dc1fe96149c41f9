import BufferSync.HostArray.Basic

/-!
# Walking through a host array

A cursor stands in front of a position of a host array.  Asked for the next element it gives the
element at its position and moves on, and at the end it gives nothing and stays.  The array is only
read.  A cursor behind the last element is never reached; to ask such a cursor how many elements are
to come would trap.
-/

namespace BufferSync.HostArray

/-- A place in a walk through an array. -/
structure Cursor where
  /-- Position of the element that comes next. -/
  position : Nat := 0
deriving DecidableEq, Repr

variable {α : Type} {c : Codec α}

namespace Cursor

/-- Number of elements that are still to come. -/
def remaining (k : Cursor) : Op (HostArray c) Nat := do
  let a ← Op.state
  Op.difference a.count k.position

/-- The next element, if there is one, and the cursor behind it. -/
def next (k : Cursor) : Op (HostArray c) (Option α × Cursor) := do
  let a ← Op.state
  if k.position < a.count then
    let v ← readAt k.position
    let position ← Op.word (k.position + 1)
    pure (some v, { position })
  else
    pure (none, k)

/-- Asks `n` times for the next element. -/
def advance (k : Cursor) : Nat → Op (HostArray c) (List (Option α) × Cursor)
  | 0 => pure ([], k)
  | n + 1 => do
    let (v, k) ← k.next
    let (vs, k) ← advance k n
    pure (v :: vs, k)

end Cursor

/-- What a walk of some steps from the start shows. -/
structure Walk (α : Type) where
  /-- Number of elements to come at the start. -/
  ahead : Nat
  /-- The answers, one for each step. -/
  answers : List (Option α)
  /-- Number of elements to come at the end. -/
  left : Nat
deriving DecidableEq, Repr

/-- Walks `n` steps from the start. -/
def walk (n : Nat) : Op (HostArray c) (Walk α) := do
  let start : Cursor := {}
  let ahead ← start.remaining
  let (answers, stop) ← start.advance n
  let left ← stop.remaining
  pure { ahead, answers, left }

/-- All elements, by walking to the end. -/
def elements : Op (HostArray c) (List α) := do
  let a ← Op.state
  let (answers, _) ← Cursor.advance {} a.count
  pure (answers.filterMap id)

end BufferSync.HostArray
