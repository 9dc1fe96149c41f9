import BufferSync.Console.Line
import BufferSync.Demo.Session
import Std.Time

/-!
# The command line of the demo

Runs a session with the arguments of the command line, prints its entries with the time of day, and
ends with its exit code.
-/

namespace BufferSync.Demo

/-- The present time. -/
def now : IO Console.Instant := do
  let t ← Std.Time.Timestamp.now
  let nanos := t.toNanosecondsSinceUnixEpoch.toInt
  pure (.after (nanos.fdiv 1000000000) (nanos.fmod 1000000000).toNat)

/-- Prints the entries that the console shows. -/
def printEntries (entries : List Log.Entry) : IO Unit :=
  entries.forM fun entry => do
    match console.printAt (← now) { entry } with
    | .ok line => IO.print line
    | .error e => throw (IO.userError e.message)
    | .trapped _ => throw (IO.userError "the clock is outside the calendar")

end BufferSync.Demo

/-- Runs the demo. -/
def main (arguments : List String) : IO UInt32 := do
  let session := BufferSync.Demo.session arguments
  BufferSync.Demo.printEntries session.entries
  IO.eprint session.complaint
  pure session.code.toUInt32
