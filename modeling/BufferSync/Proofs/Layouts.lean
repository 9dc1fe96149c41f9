import BufferSync.Element.Format
import BufferSync.Proofs.Packing

/-!
# The codecs are lawful

Every format lays its elements out without loss: an element is read back from its bytes, and bytes
of the right number are written back from their element (`Format.lawful`).  Three kinds of layouts
cover all formats.

*Words.*  A number below the range of the width, with the least significant byte first.

*Components.*  Floating-point patterns of four bytes each in a fixed order.  A value is determined
by its components, and any choice of components makes a value.

*The rest.*  Three bytes, and no bytes.
-/

namespace BufferSync

namespace Codec

variable {α : Type}

/-! ## Words -/

/-- The values are the numbers below the range of the width, in one piece. -/
theorem lawful_word {c : Codec α} (toNat : α → Nat) (ofNat : Nat → α)
    (hpieces : ∀ a, c.pieces a = [LittleEndian.toBytes c.size (toNat a)])
    (hparse : ∀ b, c.parse b = ofNat (LittleEndian.ofBytes b))
    (hlt : ∀ a, toNat a < LittleEndian.limit c.size) (hof : ∀ a, ofNat (toNat a) = a)
    (hto : ∀ n, n < LittleEndian.limit c.size → toNat (ofNat n) = n) : c.Lawful := by
  have hbytes : ∀ a, c.bytes a = LittleEndian.toBytes c.size (toNat a) := by
    intro a
    rw [bytes, hpieces, List.flatten_singleton]
  refine ⟨?_, ?_, ?_⟩
  · intro a
    rw [hbytes, LittleEndian.length_toBytes]
  · intro a
    rw [hbytes, hparse, LittleEndian.ofBytes_toBytes_of_lt (hlt a), hof]
  · intro b hb
    have hnum : LittleEndian.ofBytes b < LittleEndian.limit c.size :=
      hb ▸ LittleEndian.ofBytes_lt b
    have hwrite := LittleEndian.toBytes_ofBytes b
    rw [hb] at hwrite
    rw [hbytes, hparse, hto _ hnum, hwrite]

end Codec

namespace Binary32

theorem ofBytes_toBytes (a : Binary32) : ofBytes a.toBytes = a := by
  have hlt : a.bits.toNat < LittleEndian.limit 4 := a.bits.toNat_lt
  rw [ofBytes, toBytes, LittleEndian.ofBytes_toBytes_of_lt hlt, UInt32.ofNat_toNat]

theorem toBytes_ofBytes {b : Bytes} (h : b.length = 4) : (ofBytes b).toBytes = b := by
  have hlt : LittleEndian.ofBytes b < 2 ^ 32 := by
    have := LittleEndian.ofBytes_lt b
    rwa [h] at this
  have hwrite := LittleEndian.toBytes_ofBytes b
  rw [h] at hwrite
  rw [toBytes, ofBytes, UInt32.toNat_ofNat', Nat.mod_eq_of_lt hlt, hwrite]

theorem length_flatMap_toBytes (as : List Binary32) :
    (as.flatMap toBytes).length = 4 * as.length := by
  induction as with
  | nil => rfl
  | cons a rest ih =>
    rw [List.flatMap_cons, List.length_append, ih, length_toBytes, List.length_cons]
    omega

end Binary32

namespace Codec

variable {α : Type}

/-! ## Components -/

/-- `build` makes a value from components, and `components` lists them. -/
structure Composed (count : Nat) (components : α → List Binary32)
    (build : (Nat → Binary32) → α) : Prop where
  /-- Every value has `count` components. -/
  length_components : ∀ a, (components a).length = count
  /-- A value is made from its own components. -/
  build_components : ∀ f a, (∀ i v, (components a)[i]? = some v → f i = v) → build f = a
  /-- The components of a value are those it was made from. -/
  components_build : ∀ f, components (build f) = (List.range count).map f

section Composed

variable {count : Nat} {components : α → List Binary32} {build : (Nat → Binary32) → α}

theorem Composed.length_bytes (h : Composed count components build) (a : α) :
    ((components a).flatMap Binary32.toBytes).length = 4 * count := by
  rw [Binary32.length_flatMap_toBytes, h.length_components a]

theorem Composed.build_bytes (h : Composed count components build) (a : α) :
    build (componentAt ((components a).flatMap Binary32.toBytes)) = a := by
  apply h.build_components
  intro i v hv
  have hpieces : ((components a).map Binary32.toBytes)[i]? = some v.toBytes := by
    rw [List.getElem?_map, hv]
    rfl
  have hsize : ∀ s ∈ (components a).map Binary32.toBytes, s.length = 4 := by
    intro s hs
    obtain ⟨w, -, rfl⟩ := List.mem_map.mp hs
    exact w.length_toBytes
  rw [componentAt, Nat.mul_comm, List.flatMap_def, Region.slice_flatten hsize hpieces,
    Binary32.ofBytes_toBytes]

theorem Composed.bytes_build (h : Composed count components build) {b : Bytes}
    (hb : b.length = 4 * count) :
    (components (build (componentAt b))).flatMap Binary32.toBytes = b := by
  have hslices : ∀ i ∈ List.range count,
      (componentAt b i).toBytes = Region.slice b (i * 4) 4 := by
    intro i hi
    have := List.mem_range.mp hi
    rw [componentAt, Nat.mul_comm 4 i]
    exact Binary32.toBytes_ofBytes (Region.length_slice (by omega))
  rw [h.components_build, List.flatMap_map, List.flatMap_def, List.map_congr_left hslices,
    ← Region.take_mul_eq_flatten, List.take_of_length_le (by omega)]

/-- Components that are written one by one make a lawful codec. -/
theorem Composed.lawful_ofComponents (h : Composed count components build) {name : String}
    {encode : α → Nat → Op Bytes Nat} {read : Nat → Op Bytes (α × Nat)} {encode_eq} {read_eq} :
    (ofComponents name count components build encode read encode_eq read_eq).Lawful where
  length_bytes a := by
    rw [bytes, ofComponents, ← List.flatMap_def]
    exact h.length_bytes a
  parse_bytes a := by
    rw [bytes, ofComponents, ← List.flatMap_def]
    exact h.build_bytes a
  bytes_parse b hb := by
    rw [bytes, ofComponents, ← List.flatMap_def]
    exact h.bytes_build hb

/-- Components that are written as a whole make a lawful codec. -/
theorem Composed.lawful_whole (h : Composed count components build) {name : String} :
    (whole name (4 * count) (fun a => (components a).flatMap Binary32.toBytes)
      (fun b => build (componentAt b))).Lawful where
  length_bytes a := by
    simpa [bytes, whole] using h.length_bytes a
  parse_bytes a := by
    simpa [bytes, whole] using h.build_bytes a
  bytes_parse b hb := by
    simpa [bytes, whole] using h.bytes_build hb

end Composed

end Codec

/-! ## The formats -/

theorem FlatVertex.composed : Codec.Composed 6 components build where
  length_components _ := rfl
  build_components f a h := by
    simp only [build, Vec2.ofComponents, Vec4.ofComponents, h 0 _ rfl, h 1 _ rfl, h 2 _ rfl,
      h 3 _ rfl, h 4 _ rfl, h 5 _ rfl]
  components_build _ := rfl

theorem SpriteVertex.composed : Codec.Composed 8 components build where
  length_components _ := rfl
  build_components f a h := by
    simp only [build, Vec2.ofComponents, Vec4.ofComponents, h 0 _ rfl, h 1 _ rfl, h 2 _ rfl,
      h 3 _ rfl, h 4 _ rfl, h 5 _ rfl, h 6 _ rfl, h 7 _ rfl]
  components_build _ := rfl

theorem MeshVertex.composed : Codec.Composed 9 components build where
  length_components _ := rfl
  build_components f a h := by
    simp only [build, Vec2.ofComponents, Vec3.ofComponents, Vec4.ofComponents, h 0 _ rfl, h 1 _ rfl,
      h 2 _ rfl, h 3 _ rfl, h 4 _ rfl, h 5 _ rfl, h 6 _ rfl, h 7 _ rfl, h 8 _ rfl]
  components_build _ := rfl

theorem Vec4.composed : Codec.Composed 4 components fun c => .ofComponents c 0 where
  length_components _ := rfl
  build_components f a h := by
    simp only [Vec4.ofComponents, h 0 _ rfl, h 1 _ rfl, h 2 _ rfl, h 3 _ rfl]
  components_build _ := rfl

namespace Format

theorem lawful_byteTriple : byteTripleCodec.Lawful where
  length_bytes _ := rfl
  parse_bytes _ := rfl
  bytes_parse b hb := by
    match b, hb with
    | [x, y, z], _ => rfl

theorem lawful_empty : emptyCodec.Lawful where
  length_bytes _ := rfl
  parse_bytes _ := rfl
  bytes_parse _ hb := (List.eq_nil_of_length_eq_zero hb).symm

/-- Every format loses nothing: elements and byte strings of its size determine each other. -/
theorem lawful (f : Format) : f.codec.Lawful := by
  cases f with
  | flatVertex => exact FlatVertex.composed.lawful_ofComponents
  | spriteVertex => exact SpriteVertex.composed.lawful_ofComponents
  | meshVertex => exact MeshVertex.composed.lawful_ofComponents
  | index16 =>
    exact Codec.lawful_word UInt16.toNat UInt16.ofNat (fun _ => rfl) (fun _ => rfl)
      (fun n => n.toNat_lt) (fun n => UInt16.ofNat_toNat) (fun n hn => UInt16.toNat_ofNat_of_lt' hn)
  | uint8 =>
    exact Codec.lawful_word UInt8.toNat UInt8.ofNat (fun _ => rfl) (fun _ => rfl)
      (fun n => n.toNat_lt) (fun n => UInt8.ofNat_toNat) (fun n hn => UInt8.toNat_ofNat_of_lt' hn)
  | int16 =>
    refine Codec.lawful_word (fun n : Int16 => n.toUInt16.toNat)
      (fun n => (UInt16.ofNat n).toInt16) (fun _ => rfl) (fun _ => rfl)
      (fun n => n.toUInt16.toNat_lt) (fun n => by simp) ?_
    intro n hn
    rw [UInt16.toUInt16_toInt16]
    exact UInt16.toNat_ofNat_of_lt' hn
  | uint32 =>
    exact Codec.lawful_word UInt32.toNat UInt32.ofNat (fun _ => rfl) (fun _ => rfl)
      (fun n => n.toNat_lt) (fun n => UInt32.ofNat_toNat) (fun n hn => UInt32.toNat_ofNat_of_lt' hn)
  | uint64 =>
    exact Codec.lawful_word UInt64.toNat UInt64.ofNat (fun _ => rfl) (fun _ => rfl)
      (fun n => n.toNat_lt) (fun n => UInt64.ofNat_toNat) (fun n hn => UInt64.toNat_ofNat_of_lt' hn)
  | binary64 =>
    exact Codec.lawful_word (fun a : Binary64 => a.bits.toNat) (fun n => ⟨UInt64.ofNat n⟩)
      (fun _ => rfl) (fun _ => rfl) (fun a => a.bits.toNat_lt)
      (fun a => by simp) (fun n hn => UInt64.toNat_ofNat_of_lt' hn)
  | vec4 => exact Vec4.composed.lawful_whole
  | byteTriple => exact lawful_byteTriple
  | empty => exact lawful_empty

end Format

end BufferSync
