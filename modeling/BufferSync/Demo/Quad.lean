import BufferSync.Element.Arithmetic
import BufferSync.Element.Vertex

/-!
# The quad of the demo

Four coloured corners around the middle of the window and the two triangles between them.  The quad
is squared against the aspect of the window: a wide window narrows it, a tall one lowers it.  The
colour of a corner runs through the hues with time, each corner a quarter turn after the one before.
-/

namespace BufferSync.Demo

/-- An opaque colour. -/
def solidColor (r g b : Binary32) : Vec4 :=
  ⟨r, g, b, .one⟩

/-- The corners for a window of the given aspect, counter-clockwise from the lower left. -/
def quadVertices (aspect : Binary32) : List FlatVertex :=
  let x := Binary32.half / aspect.larger .one
  let y := Binary32.half * aspect.smaller .one
  [ ⟨⟨-x, -y⟩, solidColor .one .zero .zero⟩,
    ⟨⟨x, -y⟩, solidColor .zero .one .zero⟩,
    ⟨⟨x, y⟩, solidColor .zero .zero .one⟩,
    ⟨⟨-x, y⟩, solidColor .one .one .one⟩ ]

/-- The corners of the two triangles. -/
def quadIndices : List UInt16 := [0, 1, 2, 2, 3, 0]

/-- A quarter turn. -/
def quarterTurn : Binary32 := ⟨0x3fc90fdb⟩

/-- About a third of a turn, between red and green. -/
def greenShift : Binary32 := ⟨0x40060419⟩

/-- About two thirds of a turn, between red and blue. -/
def blueShift : Binary32 := ⟨0x40860c4a⟩

/-- A wave between zero and one. -/
def wave (phase : Binary32) : Binary32 :=
  .half + .half * phase.sin

/-- The colour of a corner at a phase. -/
def phaseColor (phase : Binary32) : Vec4 :=
  solidColor (wave phase) (wave (phase + greenShift)) (wave (phase + blueShift))

/-- The phase of corner `i` after some time. -/
def cornerPhase (elapsed : Binary32) (i : Nat) : Binary32 :=
  elapsed + .ofUInt32 (.ofNat i) * quarterTurn

end BufferSync.Demo
