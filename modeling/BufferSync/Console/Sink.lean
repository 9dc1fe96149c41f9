import BufferSync.Console.Line

/-!
# Where entries go

Entries go to one sink at a time: to a console, or to a list that is captured for inspection.
Without a choice they go to a plain console that shows information and above.
-/

namespace BufferSync

/-- A destination of entries. -/
inductive Sink where
  /-- Captured as they are. -/
  | capture
  /-- Printed. -/
  | console (c : Console)
deriving DecidableEq, Repr

/-- What became of a record. -/
structure Delivery where
  /-- Captured entries. -/
  captured : List Log.Entry := []
  /-- Printed text. -/
  printed : String := ""
deriving DecidableEq, Repr

namespace Sink

/-- The sink without a choice. -/
def standard : Sink := .console {}

/-- Sends a record made at the time with the text `time` to the sink. -/
def deliver (sink : Sink) (time : String) (r : Console.Record) : Delivery :=
  match sink with
  | .capture => { captured := [r.entry] }
  | .console c => { printed := c.print time r }

end Sink

end BufferSync
