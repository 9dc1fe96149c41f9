import BufferSync.Region.LittleEndian

/-!
# Binary floating-point patterns

Floating-point components are kept as their bit patterns, so every pattern, each of the many that
are not a number included, passes through a buffer unchanged.  Numerical equality is a relation of
its own beside equality of patterns: a pattern that is not a number equals nothing, and the two
zeros are equal.
-/

namespace BufferSync

/-- A floating-point pattern of 32 bits. -/
structure Binary32 where
  /-- Sign, exponent and fraction. -/
  bits : UInt32
deriving DecidableEq, Repr, Inhabited

/-- A floating-point pattern of 64 bits. -/
structure Binary64 where
  /-- Sign, exponent and fraction. -/
  bits : UInt64
deriving DecidableEq, Repr, Inhabited

namespace Binary32

/-- The pattern without its sign bit. -/
def magnitude (a : Binary32) : Nat :=
  a.bits.toNat % Nat.pow 2 31

/-- Whether the pattern stands for no number: the highest exponent with a nonzero fraction. -/
def isNaN (a : Binary32) : Bool :=
  decide (0x7f800000 < a.magnitude)

/-- Whether the pattern is one of the two zeros. -/
def isZero (a : Binary32) : Bool :=
  decide (a.magnitude = 0)

/-- Equality of the numbers that two patterns stand for. -/
def numEq (a b : Binary32) : Bool :=
  !a.isNaN && !b.isNaN && (decide (a = b) || a.isZero && b.isZero)

/-- Numerical equality, component by component. -/
def allNumEq : List Binary32 → List Binary32 → Bool
  | [], [] => true
  | a :: as, b :: bs => a.numEq b && allNumEq as bs
  | _, _ => false

/-- The four bytes of a pattern. -/
def toBytes (a : Binary32) : Bytes :=
  LittleEndian.toBytes 4 a.bits.toNat

/-- The pattern with the given bytes. -/
def ofBytes (bytes : Bytes) : Binary32 :=
  ⟨UInt32.ofNat (LittleEndian.ofBytes bytes)⟩

/-- Writes the pattern at `offset` and gives the position behind it. -/
def write (a : Binary32) (offset : Nat) : Op Bytes Nat :=
  Region.put offset a.toBytes

/-- Reads the pattern at `offset`, with the position behind it. -/
def read (offset : Nat) : Op Bytes (Binary32 × Nat) := do
  let bytes ← Region.fetch offset 4
  pure (ofBytes bytes, offset + 4)

/-- The pattern of positive zero. -/
def zero : Binary32 := ⟨0⟩

/-- The pattern of one. -/
def one : Binary32 := ⟨0x3f800000⟩

@[simp] theorem length_toBytes (a : Binary32) : a.toBytes.length = 4 := by
  simp [toBytes]

theorem write_eq (a : Binary32) (offset : Nat) :
    a.write offset = Region.putAll offset [a.toBytes] :=
  (Region.putAll_singleton offset a.toBytes).symm

/-- The two zeros are one number. -/
example : numEq ⟨0⟩ ⟨0x80000000⟩ = true := by decide

/-- A pattern that is no number differs from itself. -/
example : numEq ⟨0x7fc00000⟩ ⟨0x7fc00000⟩ = false := by decide

end Binary32

end BufferSync
