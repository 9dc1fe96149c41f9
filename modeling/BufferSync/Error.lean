import BufferSync.Text.Quoted

/-!
# Errors and traps

An operation can fail in two ways.  An *error* is an answer: the caller asked for something that the
library refuses, or the device refused it.  A *trap* is a breakdown: a computed size or index left
the range that a machine word can hold, a byte range left its region, a region larger than any
address space was asked for, an element took another number of bytes than its size, or a time was to
be written that the calendar does not reach.  Errors carry what a caller needs to know about them; a
trap carries its cause only.
-/

namespace BufferSync

/-- Reasons for which an operation is refused. -/
inductive Error where
  /-- The index is not one of the `count` elements. -/
  | indexOutOfRange (index count : Nat)
  /-- An argument breaks a precondition. -/
  | invalidArgument (reason : String)
  /-- The synced array with this label was disposed before. -/
  | useAfterDispose (label : String)
  /-- The device refused a request. -/
  | device (reason : String)
deriving DecidableEq, Repr

namespace Error

/-- The error as a sentence for the user. -/
def message : Error → String
  | .indexOutOfRange index count => s!"Index out of range: index {index} (count: {count})"
  | .invalidArgument reason => s!"Invalid argument: {reason}"
  | .useAfterDispose label => s!"Use after dispose: buffer '{label}'"
  | .device reason => s!"Device error: {reason}"

/-- The error as a term: its kind with its data. -/
def term : Error → String
  | .indexOutOfRange index count =>
      s!"IndexOutOfRange \x7b index: {index}, count: {count} \x7d"
  | .invalidArgument reason => "InvalidArgument(" ++ Text.quote reason ++ ")"
  | .useAfterDispose label => "UseAfterDispose(" ++ Text.quote label ++ ")"
  | .device reason => "DeviceError(" ++ Text.quote reason ++ ")"

/-- What the log says about the error: the sentence, or for the device its bare reason. -/
def report : Error → String
  | .device reason => reason
  | e => e.message

end Error

/-- Causes of a breakdown. -/
inductive Trap where
  /-- A size or an index does not fit a machine word. -/
  | overflow
  /-- A byte range does not lie inside its region. -/
  | outsideRegion
  /-- A region would be larger than any address space. -/
  | regionTooLarge
  /-- An element was written or read in another number of bytes than its size. -/
  | miscounted
  /-- A time lies before the first or after the last year of the calendar. -/
  | outsideCalendar
deriving DecidableEq, Repr

end BufferSync
