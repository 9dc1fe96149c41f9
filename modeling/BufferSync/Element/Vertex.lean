import BufferSync.Element.Binary
import BufferSync.Element.Codec

/-!
# Vertices

Three kinds of vertices: flat ones with a position in the plane and a colour, sprites with a texture
coordinate as well, and mesh vertices with a position in space.  A vertex is stored as its
components in the order position, texture coordinate, colour, four bytes each, and every component
is a piece of its own.

*Parts.*  A vertex is written and read part by part, and a part component by component; each step
starts at the position at which the one before it stopped.  `write_eq` says of each of them that it
writes the components in a row, and `read_eq` that it reads as if all bytes were taken at once.
-/

namespace BufferSync

/-- A pair of components. -/
structure Vec2 where
  /-- First component. -/
  x : Binary32
  /-- Second component. -/
  y : Binary32
deriving DecidableEq, Repr, Inhabited

/-- Three components. -/
structure Vec3 where
  /-- First component. -/
  x : Binary32
  /-- Second component. -/
  y : Binary32
  /-- Third component. -/
  z : Binary32
deriving DecidableEq, Repr, Inhabited

/-- Four components. -/
structure Vec4 where
  /-- First component. -/
  x : Binary32
  /-- Second component. -/
  y : Binary32
  /-- Third component. -/
  z : Binary32
  /-- Fourth component. -/
  w : Binary32
deriving DecidableEq, Repr, Inhabited

/-- The components of a pair, first one first. -/
def Vec2.components (v : Vec2) : List Binary32 := [v.x, v.y]

/-- The three components, first one first. -/
def Vec3.components (v : Vec3) : List Binary32 := [v.x, v.y, v.z]

/-- The four components, first one first. -/
def Vec4.components (v : Vec4) : List Binary32 := [v.x, v.y, v.z, v.w]

/-- An untextured vertex in the plane. -/
structure FlatVertex where
  /-- Place in the plane. -/
  position : Vec2
  /-- Red, green, blue and opacity. -/
  color : Vec4
deriving DecidableEq, Repr, Inhabited

/-- A textured vertex in the plane. -/
structure SpriteVertex where
  /-- Place in the plane. -/
  position : Vec2
  /-- Place in the texture. -/
  texture : Vec2
  /-- Red, green, blue and opacity of the tint. -/
  color : Vec4
deriving DecidableEq, Repr, Inhabited

/-- A textured vertex in space. -/
structure MeshVertex where
  /-- Place in space. -/
  position : Vec3
  /-- Place in the texture. -/
  texture : Vec2
  /-- Red, green, blue and opacity of the tint. -/
  color : Vec4
deriving DecidableEq, Repr, Inhabited

/-! ## Pairs, triples and quadruples of components -/

/-- The first two of three components. -/
def Vec3.truncate (v : Vec3) : Vec2 := ⟨v.x, v.y⟩

/-- The first three of four components. -/
def Vec4.truncate (v : Vec4) : Vec3 := ⟨v.x, v.y, v.z⟩

/-- Two components and a third one. -/
def Vec2.extend (v : Vec2) (z : Binary32) : Vec3 := ⟨v.x, v.y, z⟩

/-- Three components and a fourth one. -/
def Vec3.extend (v : Vec3) (w : Binary32) : Vec4 := ⟨v.x, v.y, v.z, w⟩

/-- Writes the pair at `offset` and gives the position behind it. -/
def Vec2.write (v : Vec2) (offset : Nat) : Op Bytes Nat := do
  let offset ← v.x.write offset
  v.y.write offset

/-- Writes the three components at `offset` and gives the position behind them. -/
def Vec3.write (v : Vec3) (offset : Nat) : Op Bytes Nat := do
  let offset ← v.truncate.write offset
  v.z.write offset

/-- Writes the four components at `offset` and gives the position behind them. -/
def Vec4.write (v : Vec4) (offset : Nat) : Op Bytes Nat := do
  let offset ← v.truncate.write offset
  v.w.write offset

/-- Reads the pair at `offset`, with the position behind it. -/
def Vec2.read (offset : Nat) : Op Bytes (Vec2 × Nat) := do
  let (x, offset) ← Binary32.read offset
  let (y, offset) ← Binary32.read offset
  pure (⟨x, y⟩, offset)

/-- Reads the three components at `offset`, with the position behind them. -/
def Vec3.read (offset : Nat) : Op Bytes (Vec3 × Nat) := do
  let (xy, offset) ← Vec2.read offset
  let (z, offset) ← Binary32.read offset
  pure (xy.extend z, offset)

/-- Reads the four components at `offset`, with the position behind them. -/
def Vec4.read (offset : Nat) : Op Bytes (Vec4 × Nat) := do
  let (xyz, offset) ← Vec3.read offset
  let (w, offset) ← Binary32.read offset
  pure (xyz.extend w, offset)

/-- The pair stored from component `i` on. -/
def Vec2.ofComponents (component : Nat → Binary32) (i : Nat) : Vec2 :=
  ⟨component i, component (i + 1)⟩

/-- The three components stored from component `i` on. -/
def Vec3.ofComponents (component : Nat → Binary32) (i : Nat) : Vec3 :=
  ⟨component i, component (i + 1), component (i + 2)⟩

/-- The four components stored from component `i` on. -/
def Vec4.ofComponents (component : Nat → Binary32) (i : Nat) : Vec4 :=
  ⟨component i, component (i + 1), component (i + 2), component (i + 3)⟩

namespace Codec

variable {α : Type}

/-- The component at each position of a string of patterns. -/
def componentAt (bytes : Bytes) (i : Nat) : Binary32 :=
  Binary32.ofBytes (Region.slice bytes (4 * i) 4)

/-- The codec that stores `count` components of four bytes each; `build` makes the value from the
component at each position. -/
def ofComponents (name : String) (count : Nat) (components : α → List Binary32)
    (build : (Nat → Binary32) → α) (encode : α → Nat → Op Bytes Nat)
    (read : Nat → Op Bytes (α × Nat))
    (encode_eq : ∀ a offset,
      encode a offset = writePieces offset ((components a).map Binary32.toBytes))
    (read_eq : ∀ offset, read offset = do
      let bytes ← Region.fetch offset (4 * count)
      pure (build (componentAt bytes), 4 * count)) : Codec α where
  name := name
  size := 4 * count
  pieces a := (components a).map Binary32.toBytes
  parse bytes := build (componentAt bytes)
  encode := encode
  read := read
  encode_eq := encode_eq
  read_eq := read_eq

end Codec

/-! ### Components in a row -/

theorem Vec2.write_eq (v : Vec2) (offset : Nat) :
    v.write offset = Region.putAll offset (v.components.map Binary32.toBytes) := by
  simp only [write, Binary32.write_eq, ← Region.putAll_append]
  rfl

theorem Vec3.write_eq (v : Vec3) (offset : Nat) :
    v.write offset = Region.putAll offset (v.components.map Binary32.toBytes) := by
  simp only [write, Vec2.write_eq, Binary32.write_eq, ← Region.putAll_append]
  rfl

theorem Vec4.write_eq (v : Vec4) (offset : Nat) :
    v.write offset = Region.putAll offset (v.components.map Binary32.toBytes) := by
  simp only [write, Vec3.write_eq, Binary32.write_eq, ← Region.putAll_append]
  rfl

/-- The components of a part are components of the whole. -/
theorem Codec.componentAt_slice (bytes : Bytes) (m : Nat) {n i : Nat} (h : i < n) :
    componentAt (Region.slice bytes (4 * m) (4 * n)) i = componentAt bytes (m + i) := by
  rw [componentAt, componentAt, Region.slice_slice (by omega), Nat.mul_add]

open Codec (componentAt componentAt_slice)

theorem Vec2.read_eq (offset : Nat) :
    read offset = Region.fetch offset (4 * 2) >>= fun bytes =>
      pure (.ofComponents (componentAt bytes) 0, offset + 4 * 2) := by
  simp only [read, Binary32.read, Op.bind_assoc, Op.pure_bind, Region.fetch_fetch]
  rfl

theorem Vec2.ofComponents_slice (bytes : Bytes) (m : Nat) {n i : Nat} (h : i + 1 < n) :
    ofComponents (componentAt (Region.slice bytes (4 * m) (4 * n))) i =
      ofComponents (componentAt bytes) (m + i) := by
  rw [ofComponents, componentAt_slice bytes m (by omega), componentAt_slice bytes m h]
  rfl

theorem Vec3.ofComponents_slice (bytes : Bytes) (m : Nat) {n i : Nat} (h : i + 2 < n) :
    ofComponents (componentAt (Region.slice bytes (4 * m) (4 * n))) i =
      ofComponents (componentAt bytes) (m + i) := by
  rw [ofComponents, componentAt_slice bytes m (by omega), componentAt_slice bytes m (by omega),
    componentAt_slice bytes m h]
  rfl

theorem Vec4.ofComponents_slice (bytes : Bytes) (m : Nat) {n i : Nat} (h : i + 3 < n) :
    ofComponents (componentAt (Region.slice bytes (4 * m) (4 * n))) i =
      ofComponents (componentAt bytes) (m + i) := by
  rw [ofComponents, componentAt_slice bytes m (by omega), componentAt_slice bytes m (by omega),
    componentAt_slice bytes m (by omega), componentAt_slice bytes m h]
  rfl

theorem Vec3.read_eq (offset : Nat) :
    read offset = Region.fetch offset (4 * 3) >>= fun bytes =>
      pure (.ofComponents (componentAt bytes) 0, offset + 4 * 3) := by
  simp only [read, Vec2.read_eq, Binary32.read, Op.bind_assoc, Op.pure_bind, Region.fetch_fetch]
  congr 1
  funext bytes
  rw [Vec2.ofComponents_slice bytes 0 (by decide)]
  rfl

theorem Vec4.read_eq (offset : Nat) :
    read offset = Region.fetch offset (4 * 4) >>= fun bytes =>
      pure (.ofComponents (componentAt bytes) 0, offset + 4 * 4) := by
  simp only [read, Vec3.read_eq, Binary32.read, Op.bind_assoc, Op.pure_bind, Region.fetch_fetch]
  congr 1
  funext bytes
  rw [Vec3.ofComponents_slice bytes 0 (by decide)]
  rfl

/-! ## Vertices -/

namespace FlatVertex

/-- The six components in the order in which they are stored. -/
def components (v : FlatVertex) : List Binary32 :=
  v.position.components ++ v.color.components

/-- Equality of the numbers in two vertices. -/
def numEq (a b : FlatVertex) : Bool :=
  Binary32.allNumEq a.components b.components

/-- Writes the vertex at `offset` and gives the number of bytes written. -/
def encode (v : FlatVertex) (offset : Nat) : Op Bytes Nat := do
  let stop ← v.position.write offset
  let stop ← v.color.write stop
  Op.difference stop offset

/-- Reads the vertex at `offset`, with the number of bytes read. -/
def read (offset : Nat) : Op Bytes (FlatVertex × Nat) := do
  let (position, stop) ← Vec2.read offset
  let (color, stop) ← Vec4.read stop
  let count ← Op.difference stop offset
  pure (⟨position, color⟩, count)

/-- The vertex with the components at each position. -/
def build (component : Nat → Binary32) : FlatVertex :=
  ⟨.ofComponents component 0, .ofComponents component 2⟩

theorem encode_eq (v : FlatVertex) (offset : Nat) :
    v.encode offset = Codec.writePieces offset (v.components.map Binary32.toBytes) := by
  simp only [encode, Vec2.write_eq, Vec4.write_eq, Codec.writePieces, components, List.map_append,
    Region.putAll_append, Op.bind_assoc]

theorem read_eq (offset : Nat) :
    read offset = Region.fetch offset (4 * 6) >>= fun bytes =>
      pure (build (componentAt bytes), 4 * 6) := by
  simp only [read, Vec2.read_eq, Vec4.read_eq, Op.bind_assoc, Op.pure_bind, Region.fetch_fetch]
  congr 1
  funext bytes
  rw [Nat.add_assoc, Op.difference_add_left, Op.pure_bind,
    Vec2.ofComponents_slice bytes 0 (by decide), Vec4.ofComponents_slice bytes 2 (by decide)]
  rfl

/-- Twenty-four bytes: position and colour. -/
def codec : Codec FlatVertex :=
  .ofComponents "Vertex2dRgbaCodec" 6 components build encode read encode_eq read_eq

end FlatVertex

namespace SpriteVertex

/-- The eight components in the order in which they are stored. -/
def components (v : SpriteVertex) : List Binary32 :=
  v.position.components ++ v.texture.components ++ v.color.components

/-- Equality of the numbers in two vertices. -/
def numEq (a b : SpriteVertex) : Bool :=
  Binary32.allNumEq a.components b.components

/-- Writes the vertex at `offset` and gives the number of bytes written. -/
def encode (v : SpriteVertex) (offset : Nat) : Op Bytes Nat := do
  let stop ← v.position.write offset
  let stop ← v.texture.write stop
  let stop ← v.color.write stop
  Op.difference stop offset

/-- Reads the vertex at `offset`, with the number of bytes read. -/
def read (offset : Nat) : Op Bytes (SpriteVertex × Nat) := do
  let (position, stop) ← Vec2.read offset
  let (texture, stop) ← Vec2.read stop
  let (color, stop) ← Vec4.read stop
  let count ← Op.difference stop offset
  pure (⟨position, texture, color⟩, count)

/-- The vertex with the components at each position. -/
def build (component : Nat → Binary32) : SpriteVertex :=
  ⟨.ofComponents component 0, .ofComponents component 2, .ofComponents component 4⟩

theorem encode_eq (v : SpriteVertex) (offset : Nat) :
    v.encode offset = Codec.writePieces offset (v.components.map Binary32.toBytes) := by
  simp only [encode, Vec2.write_eq, Vec4.write_eq, Codec.writePieces, components, List.map_append,
    Region.putAll_append, Op.bind_assoc]

theorem read_eq (offset : Nat) :
    read offset = Region.fetch offset (4 * 8) >>= fun bytes =>
      pure (build (componentAt bytes), 4 * 8) := by
  simp only [read, Vec2.read_eq, Vec4.read_eq, Op.bind_assoc, Op.pure_bind, Region.fetch_fetch]
  congr 1
  funext bytes
  rw [Nat.add_assoc, Nat.add_assoc, Op.difference_add_left, Op.pure_bind,
    Region.slice_slice (by decide), Region.slice_slice (by decide),
    Vec2.ofComponents_slice bytes 0 (by decide), Vec2.ofComponents_slice bytes 2 (by decide),
    Vec4.ofComponents_slice bytes 4 (by decide)]
  rfl

/-- Thirty-two bytes: position, texture coordinate and colour. -/
def codec : Codec SpriteVertex :=
  .ofComponents "Vertex2dUvRgbaCodec" 8 components build encode read encode_eq read_eq

end SpriteVertex

namespace MeshVertex

/-- The nine components in the order in which they are stored. -/
def components (v : MeshVertex) : List Binary32 :=
  v.position.components ++ v.texture.components ++ v.color.components

/-- Equality of the numbers in two vertices. -/
def numEq (a b : MeshVertex) : Bool :=
  Binary32.allNumEq a.components b.components

/-- Writes the vertex at `offset` and gives the number of bytes written. -/
def encode (v : MeshVertex) (offset : Nat) : Op Bytes Nat := do
  let stop ← v.position.write offset
  let stop ← v.texture.write stop
  let stop ← v.color.write stop
  Op.difference stop offset

/-- Reads the vertex at `offset`, with the number of bytes read. -/
def read (offset : Nat) : Op Bytes (MeshVertex × Nat) := do
  let (position, stop) ← Vec3.read offset
  let (texture, stop) ← Vec2.read stop
  let (color, stop) ← Vec4.read stop
  let count ← Op.difference stop offset
  pure (⟨position, texture, color⟩, count)

/-- The vertex with the components at each position. -/
def build (component : Nat → Binary32) : MeshVertex :=
  ⟨.ofComponents component 0, .ofComponents component 3, .ofComponents component 5⟩

theorem encode_eq (v : MeshVertex) (offset : Nat) :
    v.encode offset = Codec.writePieces offset (v.components.map Binary32.toBytes) := by
  simp only [encode, Vec2.write_eq, Vec3.write_eq, Vec4.write_eq, Codec.writePieces, components,
    List.map_append, Region.putAll_append, Op.bind_assoc]

theorem read_eq (offset : Nat) :
    read offset = Region.fetch offset (4 * 9) >>= fun bytes =>
      pure (build (componentAt bytes), 4 * 9) := by
  simp only [read, Vec2.read_eq, Vec3.read_eq, Vec4.read_eq, Op.bind_assoc, Op.pure_bind,
    Region.fetch_fetch]
  congr 1
  funext bytes
  rw [Nat.add_assoc, Nat.add_assoc, Op.difference_add_left, Op.pure_bind,
    Region.slice_slice (by decide), Region.slice_slice (by decide),
    Vec3.ofComponents_slice bytes 0 (by decide), Vec2.ofComponents_slice bytes 3 (by decide),
    Vec4.ofComponents_slice bytes 5 (by decide)]
  rfl

/-- Thirty-six bytes: position, texture coordinate and colour. -/
def codec : Codec MeshVertex :=
  .ofComponents "Vertex3dUvRgbaCodec" 9 components build encode read encode_eq read_eq

end MeshVertex

end BufferSync
