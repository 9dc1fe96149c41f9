import BufferSync.Element.Binary

/-!
# Arithmetic on floating-point patterns

The operations of single precision on bit patterns.  The larger or smaller of two patterns, one of
which is not a number, is the other one.
-/

namespace BufferSync.Binary32

/-- The number that the pattern stands for. -/
def toFloat (a : Binary32) : Float32 :=
  Float32.ofBits a.bits

/-- The pattern of a number. -/
def ofFloat (x : Float32) : Binary32 :=
  ⟨x.toBits⟩

/-- The nearest pattern to a number of 32 bits. -/
def ofUInt32 (n : UInt32) : Binary32 :=
  ofFloat n.toFloat32

instance : Add Binary32 where
  add a b := ofFloat (a.toFloat + b.toFloat)

instance : Mul Binary32 where
  mul a b := ofFloat (a.toFloat * b.toFloat)

instance : Div Binary32 where
  div a b := ofFloat (a.toFloat / b.toFloat)

instance : Neg Binary32 where
  neg a := ofFloat (-a.toFloat)

/-- The sine of an angle in radians. -/
def sin (a : Binary32) : Binary32 :=
  ofFloat a.toFloat.sin

/-- The larger one. -/
def larger (a b : Binary32) : Binary32 :=
  if a.isNaN then b
  else if b.isNaN then a
  else if a.toFloat < b.toFloat then b else a

/-- The smaller one. -/
def smaller (a b : Binary32) : Binary32 :=
  if a.isNaN then b
  else if b.isNaN then a
  else if b.toFloat < a.toFloat then b else a

/-- One half. -/
def half : Binary32 := ⟨0x3f000000⟩

end BufferSync.Binary32
