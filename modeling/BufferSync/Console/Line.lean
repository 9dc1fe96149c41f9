import BufferSync.Console.Calendar
import BufferSync.Log.Entry

/-!
# Console lines

A console shows the entries from some least severity upwards, one line for each: the time, the label
of the severity and the source in square brackets, then the message, and the place in the source
text in parentheses if it is known.  On a coloured console the label and the source are painted.
Painting puts a text between the code of its colour and the reset code; where the text itself holds
a reset code the colour is switched on again behind it.
-/

namespace BufferSync

open Log (Severity Entry)

/-- A console. -/
structure Console where
  /-- Least severity that is shown. -/
  least : Severity := .info
  /-- Whether labels and sources are painted. -/
  colored : Bool := false
deriving DecidableEq, Repr

namespace Console

/-- An entry with the place in the source text where it was made. -/
structure Record where
  /-- The entry. -/
  entry : Entry
  /-- File of the place. -/
  file : Option String := none
  /-- Line of the place. -/
  line : Option UInt32 := none
deriving DecidableEq, Repr

/-- The code that ends all colours. -/
def resetCode : List Char := ['\x1b', '[', '0', 'm']

/-- The code that starts a colour. -/
def styleCode (style : List Char) : List Char :=
  ['\x1b', '['] ++ style ++ ['m']

/-- The text with `start` put behind every reset code in it. -/
def resumeAfterReset (start : List Char) : List Char → List Char
  | '\x1b' :: '[' :: '0' :: 'm' :: rest => resetCode ++ start ++ resumeAfterReset start rest
  | c :: rest => c :: resumeAfterReset start rest
  | [] => []

/-- The text in a colour. -/
def paint (style : List Char) (text : String) : String :=
  let start := styleCode style
  String.ofList (start ++ resumeAfterReset start text.toList ++ resetCode)

/-- The colour of a label. -/
def labelStyle : Severity → List Char
  | .trace => ['9', '0']
  | .debug => ['3', '6']
  | .info => ['3', '2']
  | .warn => ['3', '3']
  | .error => ['1', ';', '3', '1']

/-- The colour of a source. -/
def sourceStyle : List Char := ['9', '4']

/-- Whether entries of this severity are shown. -/
def accepts (c : Console) (severity : Severity) : Bool :=
  severity.reaches c.least

/-- The place of a record, if both file and line are known. -/
def placeText (r : Record) : String :=
  match r.file, r.line with
  | some file, some line => s!" ({file}:{line})"
  | _, _ => ""

/-- The line for a record made at the time with the text `time`. -/
def lineText (c : Console) (time : String) (r : Record) : String :=
  let label := r.entry.severity.label
  let label := if c.colored then paint (labelStyle r.entry.severity) label else label
  let source := if c.colored then paint sourceStyle r.entry.source else r.entry.source
  s!"[{time}] [{label}] [{source}] {r.entry.message}" ++ placeText r

/-- What the console prints for a record: its line, or nothing below the least severity. -/
def print (c : Console) (time : String) (r : Record) : String :=
  if c.accepts r.entry.severity then c.lineText time r ++ "\n" else ""

/-- What the console prints for a record made at an instant.  Only the instant of a record that is
shown has to be written, so the others may lie outside the calendar. -/
def printAt (c : Console) (t : Instant) (r : Record) : Outcome String :=
  if c.accepts r.entry.severity then t.text.map fun time => c.print time r else .ok ""

end Console

end BufferSync
