import BufferSync.Element.Arithmetic
import BufferSync.Error
import BufferSync.Text.Numeral

/-!
# Settings of the demo

The demo takes two optional arguments: the number of frames, and the size of the window as width and
height with the letter `x` between them.  Further arguments are ignored.  The number of frames is
checked first, then the form of the size, then that the window is not empty.
-/

namespace BufferSync.Demo

/-- What the demo is to do. -/
structure Config where
  /-- Number of frames. -/
  frames : Nat := 120
  /-- Width of the window. -/
  width : UInt32 := 800
  /-- Height of the window. -/
  height : UInt32 := 600
  /-- Seconds that pass between two frames. -/
  frameTime : Binary32 := ⟨0x3c888889⟩
deriving DecidableEq, Repr

namespace Config

/-- Numbers in arguments stay below this one. -/
def numberLimit : Nat := Nat.pow 2 32

/-- The number that an argument stands for. -/
def number? (s : List Char) : Option Nat :=
  Text.numeral? numberLimit s

/-- The width and height that an argument stands for. -/
def size? (s : List Char) : Option (Nat × Nat) := do
  let (w, h) ← Text.splitAtFirst? 'x' s
  let width ← number? w
  let height ← number? h
  pure (width, height)

/-- The settings with the number of frames that an argument gives. -/
def withFrames (config : Config) (s : String) : Except Error Config :=
  match number? s.toList with
  | some frames => .ok { config with frames }
  | none => .error (.invalidArgument s!"frame count '{s}' is not a number")

/-- The settings with the window size that an argument gives. -/
def withSize (config : Config) (s : String) : Except Error Config :=
  match size? s.toList with
  | none => .error (.invalidArgument s!"window size '{s}' is not WIDTHxHEIGHT")
  | some (width, height) =>
    if width = 0 ∨ height = 0 then
      .error (.invalidArgument s!"window size '{s}' is empty")
    else
      .ok { config with width := .ofNat width, height := .ofNat height }

/-- The settings that the arguments ask for. -/
def ofArguments : List String → Except Error Config
  | [] => .ok {}
  | [frames] => withFrames {} frames
  | frames :: size :: _ => do
    let config ← withFrames {} frames
    withSize config size

/-- Width divided by height. -/
def aspect (config : Config) : Binary32 :=
  .ofUInt32 config.width / .ofUInt32 config.height

end Config

end BufferSync.Demo
