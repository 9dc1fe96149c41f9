import BufferSync.Region

/-!
# Codecs

A codec lays out the values of a type as packed bytes of one fixed size.

*Layout.*  A codec gives the bytes of a value as a list of *pieces*: a piece is written as a whole
or not at all, and the pieces are written one after another from the given position on.  So a value
that reaches past the end of the region leaves the pieces in front of the end behind and traps.  It
also gives the value with given bytes.

*Programs.*  `encode` and `read` are the programs that write and read a value.  They may go from one
part of a value to the next and carry the position along; a codec comes with the proofs that they
follow its layout: a value is written piece by piece, and read as if all its bytes were taken at
once.

`Codec.Lawful` says that a codec is a bijection between its values and the byte strings of its size.
-/

namespace BufferSync

/-- Writes pieces one after another from `offset` on and gives the number of bytes written; traps at
the first piece that does not lie inside the region. -/
def Codec.writePieces (offset : Nat) (pieces : List Bytes) : Op Bytes Nat := do
  let stop ← Region.putAll offset pieces
  Op.difference stop offset

/-- A layout of the values of `α` as packed bytes, with programs that follow it. -/
structure Codec (α : Type) where
  /-- Name of the layout. -/
  name : String
  /-- Number of bytes of a value. -/
  size : Nat
  /-- The bytes of a value, in pieces that are written as a whole. -/
  pieces : α → List Bytes
  /-- The value with the given bytes. -/
  parse : Bytes → α
  /-- Writes a value at a position and gives the number of bytes written. -/
  encode : α → Nat → Op Bytes Nat
  /-- Reads the value at a position, with the number of bytes read. -/
  read : Nat → Op Bytes (α × Nat)
  /-- A value is written piece by piece. -/
  encode_eq : ∀ a offset, encode a offset = Codec.writePieces offset (pieces a)
  /-- A value is read as if its bytes were taken at once. -/
  read_eq : ∀ offset, read offset = do
    let bytes ← Region.fetch offset size
    pure (parse bytes, size)

namespace Codec

variable {α : Type}

/-- All bytes of a value. -/
def bytes (c : Codec α) (a : α) : Bytes :=
  (c.pieces a).flatten

/-- Values and byte strings of the size of the codec determine each other. -/
structure Lawful (c : Codec α) : Prop where
  /-- Every value takes the size of the codec. -/
  length_bytes : ∀ a, (c.bytes a).length = c.size
  /-- A value is read back from its bytes. -/
  parse_bytes : ∀ a, c.parse (c.bytes a) = a
  /-- Bytes are written back from their value. -/
  bytes_parse : ∀ b : Bytes, b.length = c.size → c.bytes (c.parse b) = b

/-- What reading at `offset` gives: the value with the number of bytes read. -/
def decode (c : Codec α) (region : Bytes) (offset : Nat) : Outcome (α × Nat) :=
  (c.read offset region).outcome

/-! ## Values in one piece -/

theorem writePieces_singleton (offset : Nat) (new : Bytes) :
    writePieces offset [new] = Region.put offset new >>= fun _ => pure new.length := by
  rw [writePieces, Region.putAll_singleton, Region.put_bind, Op.difference_add_left]

/-- The codec whose values are written and read as a whole. -/
def whole (name : String) (size : Nat) (toBytes : α → Bytes) (ofBytes : Bytes → α) : Codec α where
  name := name
  size := size
  pieces a := [toBytes a]
  parse := ofBytes
  encode a offset := do
    let _ ← Region.put offset (toBytes a)
    pure (toBytes a).length
  read offset := do
    let bytes ← Region.fetch offset size
    pure (ofBytes bytes, size)
  encode_eq a offset := (writePieces_singleton offset (toBytes a)).symm
  read_eq _ := rfl

end Codec

end BufferSync
