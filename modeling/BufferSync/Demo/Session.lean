import BufferSync.Console.Line
import BufferSync.Demo.Renderer
import BufferSync.Device.Memory

/-!
# A session of the demo

A session reads the arguments, draws the frames on a new device in memory, reports how much was
uploaded, and gives everything back.  Its outcome is plain data: the exit code, the entries in order
and what is to be complained about.
-/

namespace BufferSync.Demo

/-- Component under which the demo reports. -/
def source : String := "mirror::demo"

/-- Name of the program in complaints. -/
def programName : String := "gpu_mirror_demo"

/-- Draws all frames and reports the uploads; a renderer that fails is dropped. -/
def drawFrames (config : Config) : Op (Renderer × MemoryDevice) Unit :=
  Op.finishing
    (do
      Op.times config.frames (Renderer.render config.frameTime)
      let (r, d) ← Op.state
      let perFrame := r.vertices.host.count * FlatVertex.codec.size
      Op.note .info source
        (s!"{d.uploads.length} uploads, {d.uploadedBytes} bytes total " ++
          s!"({perFrame} bytes per frame for the animated vertices)"))
    Renderer.drop

/-- Runs the demo on a device. -/
def run (config : Config) : Op MemoryDevice Unit := do
  Op.note .info source s!"Running {config.frames} frames at {config.width}x{config.height}"
  let r ← Renderer.create config
  let (_, r) ← Op.beside r (drawFrames config)
  r.dispose
  let d ← Op.state
  Op.note .info source s!"Done, {d.liveAllocations} live allocations left"

/-- What a session leaves behind. -/
structure Session where
  /-- Exit code. -/
  code : UInt8
  /-- The entries made, first one first. -/
  entries : List Log.Entry
  /-- Text for the error output. -/
  complaint : String
deriving DecidableEq, Repr

/-- The session that ends with an error. -/
def failed (e : Error) (entries : List Log.Entry) : Session :=
  { code := 1, entries, complaint := programName ++ ": " ++ e.message ++ "\n" }

/-- Runs the demo with the given arguments. -/
def session (arguments : List String) : Session :=
  match Config.ofArguments arguments with
  | .error e => failed e []
  | .ok config =>
    let r := run config {}
    match r.outcome with
    | .ok () => { code := 0, entries := r.log, complaint := "" }
    | .error e => failed e r.log
    | .trapped _ => { code := 101, entries := r.log, complaint := "" }

/-- The console of the demo shows everything but single uploads and bindings. -/
def console : Console :=
  { least := .debug }

end BufferSync.Demo
