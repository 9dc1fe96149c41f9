import BufferSync.Element.Vertex

/-!
# Element formats

The formats in which a buffer can hold its elements: the three kinds of vertices, vertex indices of
sixteen bits, and plain numbers and groups of numbers.  A format determines the type of its elements
and their codec.  All numbers are stored with the least significant byte first and without padding.
Elements other than vertices are written as a whole.
-/

namespace BufferSync

/-- Three bytes. -/
structure ByteTriple where
  /-- First byte. -/
  fst : UInt8
  /-- Second byte. -/
  snd : UInt8
  /-- Third byte. -/
  trd : UInt8
deriving DecidableEq, Repr, Inhabited

/-- The formats of elements. -/
inductive Format where
  /-- Untextured vertices in the plane. -/
  | flatVertex
  /-- Textured vertices in the plane. -/
  | spriteVertex
  /-- Textured vertices in space. -/
  | meshVertex
  /-- Vertex indices of 16 bits. -/
  | index16
  /-- Numbers of 8 bits. -/
  | uint8
  /-- Signed numbers of 16 bits. -/
  | int16
  /-- Numbers of 32 bits. -/
  | uint32
  /-- Numbers of 64 bits. -/
  | uint64
  /-- Floating-point patterns of 64 bits. -/
  | binary64
  /-- Groups of four floating-point patterns of 32 bits. -/
  | vec4
  /-- Groups of three bytes. -/
  | byteTriple
  /-- Elements that take no bytes. -/
  | empty
deriving DecidableEq, Repr

namespace Format

/-- The type of the elements of a format. -/
@[reducible] def Element : Format → Type
  | .flatVertex => FlatVertex
  | .spriteVertex => SpriteVertex
  | .meshVertex => MeshVertex
  | .index16 => UInt16
  | .uint8 => UInt8
  | .int16 => Int16
  | .uint32 => UInt32
  | .uint64 => UInt64
  | .binary64 => Binary64
  | .vec4 => Vec4
  | .byteTriple => ByteTriple
  | .empty => Unit

/-- Vertex indices in two bytes, which are written together and read one by one. -/
def index16Codec : Codec UInt16 where
  name := "IndexU16Codec"
  size := 2
  pieces n := [LittleEndian.toBytes 2 n.toNat]
  parse b := UInt16.ofNat (LittleEndian.ofBytes b)
  encode n offset := do
    let _ ← Region.put offset (LittleEndian.toBytes 2 n.toNat)
    pure 2
  read offset := do
    let low ← Region.fetch offset 1
    let high ← Region.fetch (offset + 1) 1
    pure (UInt16.ofNat (LittleEndian.ofBytes (low ++ high)), 2)
  encode_eq n offset := by
    rw [Codec.writePieces_singleton, LittleEndian.length_toBytes]
  read_eq offset := by
    rw [Region.fetch_fetch]
    refine Region.fetch_bind_congr ?_
    intro bytes hbytes
    match bytes, hbytes with
    | [low, high], _ => rfl

/-- Numbers in one byte. -/
def uint8Codec : Codec UInt8 :=
  .whole "PodCodec<u8>" 1
    (fun n => LittleEndian.toBytes 1 n.toNat)
    (fun b => UInt8.ofNat (LittleEndian.ofBytes b))

/-- Signed numbers in two bytes, negative ones by their complement. -/
def int16Codec : Codec Int16 :=
  .whole "PodCodec<i16>" 2
    (fun n => LittleEndian.toBytes 2 n.toUInt16.toNat)
    (fun b => (UInt16.ofNat (LittleEndian.ofBytes b)).toInt16)

/-- Numbers in four bytes. -/
def uint32Codec : Codec UInt32 :=
  .whole "PodCodec<u32>" 4
    (fun n => LittleEndian.toBytes 4 n.toNat)
    (fun b => UInt32.ofNat (LittleEndian.ofBytes b))

/-- Numbers in eight bytes. -/
def uint64Codec : Codec UInt64 :=
  .whole "PodCodec<u64>" 8
    (fun n => LittleEndian.toBytes 8 n.toNat)
    (fun b => UInt64.ofNat (LittleEndian.ofBytes b))

/-- Floating-point patterns in eight bytes. -/
def binary64Codec : Codec Binary64 :=
  .whole "PodCodec<f64>" 8
    (fun a => LittleEndian.toBytes 8 a.bits.toNat)
    (fun b => ⟨UInt64.ofNat (LittleEndian.ofBytes b)⟩)

/-- Four floating-point patterns in sixteen bytes. -/
def vec4Codec : Codec Vec4 :=
  .whole "PodCodec<[f32; 4]>" 16
    (fun v => v.components.flatMap Binary32.toBytes)
    (fun b => .ofComponents (Codec.componentAt b) 0)

/-- Three bytes. -/
def byteTripleCodec : Codec ByteTriple :=
  .whole "PodCodec<[u8; 3]>" 3
    (fun t => [t.fst, t.snd, t.trd])
    (fun b => ⟨b.getD 0 0, b.getD 1 0, b.getD 2 0⟩)

/-- No bytes. -/
def emptyCodec : Codec Unit :=
  .whole "PodCodec<()>" 0 (fun _ => []) (fun _ => ())

/-- The codec of a format. -/
def codec : (f : Format) → Codec f.Element
  | .flatVertex => FlatVertex.codec
  | .spriteVertex => SpriteVertex.codec
  | .meshVertex => MeshVertex.codec
  | .index16 => index16Codec
  | .uint8 => uint8Codec
  | .int16 => int16Codec
  | .uint32 => uint32Codec
  | .uint64 => uint64Codec
  | .binary64 => binary64Codec
  | .vec4 => vec4Codec
  | .byteTriple => byteTripleCodec
  | .empty => emptyCodec

end Format

end BufferSync
