/-!
# Log entries

Operations of this library report what they do as a list of entries.  An entry has a severity, the
component it comes from and a message.  Entries that report an error are *located*: they are written
together with the place that raised them.  Severities are ordered from `trace` up to `error`, and a
console shows the entries from some least severity upwards.
-/

namespace BufferSync.Log

/-- How much an entry matters, least first. -/
inductive Severity where
  /-- Detail of single uploads and bindings. -/
  | trace
  /-- Allocation, growth and disposal. -/
  | debug
  /-- Progress a user wants to see. -/
  | info
  /-- Trouble that was dealt with. -/
  | warn
  /-- An error handed to the caller. -/
  | error
deriving DecidableEq, Repr

namespace Severity

/-- Position in the order of severities. -/
def rank : Severity → Nat
  | .trace => 0
  | .debug => 1
  | .info => 2
  | .warn => 3
  | .error => 4

/-- Label of five characters shown on the console. -/
def label : Severity → String
  | .trace => "TRACE"
  | .debug => "DEBUG"
  | .info => "INFO "
  | .warn => "WARN "
  | .error => "ERROR"

/-- Order of two severities by rank. -/
def compare (a b : Severity) : Ordering :=
  Ord.compare a.rank b.rank

/-- Whether `a` reaches the severity `least`. -/
def reaches (a least : Severity) : Bool :=
  decide (least.rank ≤ a.rank)

end Severity

/-- One reported event. -/
structure Entry where
  /-- How much the event matters. -/
  severity : Severity
  /-- Component that reports it. -/
  source : String
  /-- What happened. -/
  message : String
  /-- Whether the place that raised it is written with it. -/
  located : Bool := false
deriving DecidableEq, Repr

end BufferSync.Log
