import BufferSync.Proofs.Encoding
import Mathlib.Algebra.Group.Nat.Defs

/-!
# Writing elements anywhere

What a write does to a region, whether there is room for the element or not.

*Components.*  Vertices are written component by component.  The components that end inside the
region are written and stay there; at the first one that does not, the write breaks down.  So the
region holds as many components as there is room for, and all other bytes are as before.

*Wholes.*  All other elements are written as a whole: the bytes of the place are replaced if there
is room for them, and otherwise nothing is changed.

Everything is said byte by byte.  Behind a write with room for the whole element the bytes in front
of its place and behind it are those of before, which is what packed arrays rely on.
-/

namespace BufferSync

namespace LittleEndian

theorem getElem?_toBytes {width j : Nat} (h : j < width) (n : Nat) :
    (toBytes width n)[j]? = some (UInt8.ofNat (n / 256 ^ j)) := by
  induction width generalizing n j with
  | zero => omega
  | succ width ih =>
    cases j with
    | zero =>
      rw [toBytes, List.getElem?_cons_zero, UInt8.ofNat_mod_size', Nat.pow_zero, Nat.div_one]
    | succ j =>
      rw [toBytes, List.getElem?_cons_succ, ih (by omega), Nat.div_div_eq_div_mul, Nat.pow_succ,
        Nat.mul_comm]

end LittleEndian

namespace Binary32

/-- Byte `j` of the pattern, the least significant one first. -/
def byte (a : Binary32) (j : Nat) : UInt8 :=
  UInt8.ofNat (a.bits.toNat / 256 ^ j)

theorem getElem?_toBytes (a : Binary32) {j : Nat} (h : j < 4) : a.toBytes[j]? = some (a.byte j) :=
  LittleEndian.getElem?_toBytes h _

/-- Patterns in a row, byte by byte. -/
theorem getElem?_flatMap_toBytes (as : List Binary32) (q : Nat) :
    (as.flatMap toBytes)[q]? = as[q / 4]?.map fun a => a.byte (q % 4) := by
  induction as generalizing q with
  | nil => rfl
  | cons a rest ih =>
    rw [List.flatMap_cons]
    by_cases hq : q < 4
    · rw [List.getElem?_append_left (by rwa [length_toBytes]), getElem?_toBytes a hq,
        Nat.div_eq_of_lt hq, Nat.mod_eq_of_lt hq]
      rfl
    · have hplace : q / 4 = (q - 4) / 4 + 1 := by omega
      have hbyte : q % 4 = (q - 4) % 4 := by omega
      rw [List.getElem?_append_right (by rw [length_toBytes]; omega), length_toBytes, ih, hplace,
        hbyte, List.getElem?_cons_succ]

end Binary32

namespace Codec

variable {α : Type} {c : Codec α} {region piece : Bytes} {offset : Nat} {first rest : List Bytes}

/-! ## Pieces -/

/-- A piece that does not end inside the region is not written, and nothing behind it is. -/
theorem writePieces_of_gt (h : region.length < offset + piece.length) (rest : List Bytes) :
    writePieces offset (piece :: rest) region =
      { outcome := .trapped .outsideRegion, state := region, log := [] } := by
  have hrun := Op.bind_of_trapped (Region.put_of_gt h) fun stop => Region.putAll stop rest
  rw [writePieces, Region.putAll, Op.bind_of_trapped hrun]

/-- The pieces in front of the first one that does not end inside the region are written. -/
theorem writePieces_stops (hfirst : offset + first.flatten.length ≤ region.length)
    (hpiece : region.length < offset + first.flatten.length + piece.length) (rest : List Bytes) :
    writePieces offset (first ++ piece :: rest) region =
      { outcome := .trapped .outsideRegion
        state := Region.overwrite region offset first.flatten
        log := [] } := by
  have hlength := Region.length_overwrite hfirst
  have hrest : Region.putAll (offset + first.flatten.length) (piece :: rest)
      (Region.overwrite region offset first.flatten) =
        { outcome := .trapped .outsideRegion
          state := Region.overwrite region offset first.flatten
          log := [] } :=
    Op.bind_of_trapped (Region.put_of_gt (by omega)) _
  rw [writePieces, Region.putAll_append, Op.bind_assoc, Op.bind_of_ok (Region.putAll_of_le hfirst),
    Op.bind_of_trapped hrest]
  rfl

/-! ## Components -/

/-- How many of `count` components of four bytes there is room for between the position `offset` and
the end of the region. -/
def fitting (count : Nat) (region : Bytes) (offset : Nat) : Nat :=
  if offset ≤ region.length then min count ((region.length - offset) / 4) else 0

/-- Values of `count` components are written component by component: as many as there is room for,
first ones first, four bytes each with the least significant one first.  No other byte changes.  The
write ends well if there is room for all of them and breaks down otherwise. -/
structure WritesSingly (c : Codec α) (count : Nat) (components : α → List Binary32) : Prop where
  /-- The bytes of the written components, and those of before everywhere else. -/
  getElem? : ∀ v offset region p, (c.encode v offset region).state[p]? =
    if offset ≤ p ∧ p < offset + 4 * fitting count region offset then
      (components v)[(p - offset) / 4]?.map fun a => a.byte ((p - offset) % 4)
    else region[p]?
  /-- It ends well, with all bytes counted, if all components fit. -/
  ok_iff : ∀ v offset region, (c.encode v offset region).outcome = .ok (4 * count) ↔
    fitting count region offset = count
  /-- It breaks down if they do not. -/
  trapped_iff : ∀ v offset region, (∃ t, (c.encode v offset region).outcome = .trapped t) ↔
    fitting count region offset ≠ count

section Components

variable {name : String} {count : Nat} {components : α → List Binary32}
  {build : (Nat → Binary32) → α} {encode : α → Nat → Op Bytes Nat}
  {read : Nat → Op Bytes (α × Nat)} {as : List Binary32}
  {follows : ∀ a offset,
    encode a offset = writePieces offset ((components a).map Binary32.toBytes)}
  {reads : ∀ offset, read offset = do
    let bytes ← Region.fetch offset (4 * count)
    pure (build (componentAt bytes), 4 * count)}

theorem fitting_of_gt (h : region.length < offset) : fitting count region offset = 0 := by
  rw [fitting, if_neg (by omega)]

theorem fitting_of_le (h : offset ≤ region.length) :
    fitting count region offset = min count ((region.length - offset) / 4) := by
  rw [fitting, if_pos h]

theorem fitting_le (count : Nat) (region : Bytes) (offset : Nat) :
    fitting count region offset ≤ count := by
  rw [fitting]
  split
  · exact Nat.min_le_left ..
  · exact Nat.zero_le count

/-- The components that fit end inside the region. -/
theorem fitting_end_le (count : Nat) (h : offset ≤ region.length) :
    offset + 4 * fitting count region offset ≤ region.length := by
  rw [fitting_of_le h]
  omega

/-- If there are components that do not fit, the first of them does not end inside the region. -/
theorem lt_fitting_end (h : fitting count region offset < count) :
    region.length < offset + 4 * fitting count region offset + 4 := by
  by_cases hoffset : offset ≤ region.length
  · rw [fitting_of_le hoffset] at h ⊢
    omega
  · omega

/-- What is left of a region over which as many components are written as fit. -/
def spread (as : List Binary32) (offset : Nat) (region : Bytes) : Bytes :=
  Region.overwrite region offset
    ((as.take (fitting as.length region offset)).flatMap Binary32.toBytes)

theorem length_fitting (as : List Binary32) (region : Bytes) (offset : Nat) :
    ((as.take (fitting as.length region offset)).flatMap Binary32.toBytes).length =
      4 * fitting as.length region offset := by
  rw [Binary32.length_flatMap_toBytes, List.length_take, Nat.min_eq_left (fitting_le ..)]

theorem getElem?_spread (as : List Binary32) (offset : Nat) (region : Bytes) (p : Nat) :
    (spread as offset region)[p]? =
      if offset ≤ p ∧ p < offset + 4 * fitting as.length region offset then
        as[(p - offset) / 4]?.map fun a => a.byte ((p - offset) % 4)
      else region[p]? := by
  have hlength := length_fitting as region offset
  by_cases hoffset : offset ≤ region.length
  · have hend := fitting_end_le as.length hoffset
    rw [spread, Region.getElem?_overwrite (by omega), hlength]
    by_cases hp : offset ≤ p
    · rw [if_neg (by omega)]
      split
      · rw [if_pos (by omega), Binary32.getElem?_flatMap_toBytes, List.getElem?_take,
          if_pos (by omega)]
      · rw [if_neg (by omega)]
    · rw [if_pos (by omega), if_neg (by omega)]
  · rw [spread, fitting_of_gt (by omega), List.take_zero, List.flatMap_nil, Region.overwrite_nil,
      if_neg (by omega)]

/-- If not all components fit, those that do are written. -/
theorem writePieces_of_fitting_lt (h : fitting as.length region offset < as.length) :
    writePieces offset (as.map Binary32.toBytes) region =
      { outcome := .trapped .outsideRegion, state := spread as offset region, log := [] } := by
  have hnext := lt_fitting_end h
  rw [spread]
  by_cases hoffset : offset ≤ region.length
  · have hend := fitting_end_le as.length hoffset
    have hlength := length_fitting as region offset
    generalize fitting as.length region offset = k at *
    -- the write stops at component `k`, the first one that does not fit
    have hsplit : as.map Binary32.toBytes = (as.take k).map Binary32.toBytes ++
        as[k].toBytes :: (as.drop (k + 1)).map Binary32.toBytes := by
      rw [← List.map_cons, ← List.map_append, List.getElem_cons_drop, List.take_append_drop]
    rw [List.flatMap_def] at hlength
    rw [hsplit, List.flatMap_def]
    exact writePieces_stops (by omega) (by rw [Binary32.length_toBytes]; omega) _
  · rw [fitting_of_gt (by omega), List.take_zero, List.flatMap_nil, Region.overwrite_nil]
    cases as with
    | nil => exact absurd h (Nat.not_lt_zero _)
    | cons a rest => exact writePieces_of_gt (by rw [Binary32.length_toBytes]; omega) _

/-- If all components fit, all are written. -/
theorem writePieces_of_fitting_eq (hpos : 0 < as.length)
    (h : fitting as.length region offset = as.length) :
    writePieces offset (as.map Binary32.toBytes) region =
      { outcome := .ok (4 * as.length), state := spread as offset region, log := [] } := by
  have hoffset : offset ≤ region.length := by
    refine Nat.not_lt.mp fun hgt => ?_
    rw [fitting_of_gt hgt] at h
    omega
  have hend := fitting_end_le as.length hoffset
  have hlength := Binary32.length_flatMap_toBytes as
  rw [spread, h, List.take_length]
  rw [List.flatMap_def] at hlength ⊢
  rw [writePieces_eq (by omega), hlength]

/-- A codec of components writes them one by one. -/
theorem Composed.encode_eq (h : Composed count components build) (hpos : 0 < count) (v : α)
    (offset : Nat) (region : Bytes) :
    (ofComponents name count components build encode read follows reads).encode v offset region =
      { outcome :=
          if fitting count region offset = count then .ok (4 * count) else .trapped .outsideRegion
        state := spread (components v) offset region
        log := [] } := by
  have hle := fitting_le count region offset
  rw [Codec.encode_eq]
  change writePieces offset ((components v).map Binary32.toBytes) region = _
  rw [← h.length_components v] at hpos hle ⊢
  split
  next heq => exact writePieces_of_fitting_eq hpos heq
  next hne => exact writePieces_of_fitting_lt (by omega)

theorem Composed.writesSingly (h : Composed count components build) (hpos : 0 < count) :
    (ofComponents name count components build encode read follows reads).WritesSingly count
      components where
  getElem? v offset region p := by
    rw [h.encode_eq hpos, getElem?_spread, h.length_components]
  ok_iff v offset region := by
    rw [h.encode_eq hpos]
    split
    next hall => exact iff_of_true rfl hall
    next hless => exact iff_of_false (fun hok => by cases hok) hless
  trapped_iff v offset region := by
    rw [h.encode_eq hpos]
    split
    next hall =>
      refine iff_of_false ?_ (not_not_intro hall)
      rintro ⟨t, ht⟩
      cases ht
    next hless => exact iff_of_true ⟨_, rfl⟩ hless

end Components

/-! ## Wholes -/

/-- Values are written as a whole, over the bytes of their place and no others.  The write ends well
if the place lies inside the region, and otherwise it breaks down and changes nothing. -/
structure WritesWhole (c : Codec α) : Prop where
  /-- There is room: the bytes of the value, and those of before everywhere else. -/
  inside : ∀ v offset region, offset + c.size ≤ region.length →
    (c.encode v offset region).outcome = .ok c.size ∧
      ∀ p, (c.encode v offset region).state[p]? =
        if offset ≤ p ∧ p < offset + c.size then (c.bytes v)[p - offset]? else region[p]?
  /-- There is no room. -/
  outside : ∀ v offset region, region.length < offset + c.size →
    (∃ t, (c.encode v offset region).outcome = .trapped t) ∧
      (c.encode v offset region).state = region

/-- A value that is one piece is written as a whole. -/
theorem Sized.writesWhole (hc : c.Sized) {piece : α → Bytes}
    (hpiece : ∀ v, c.pieces v = [piece v]) : c.WritesWhole where
  inside v offset region h := by
    have hlength : (c.bytes v).length = c.size := hc v
    rw [hc.encode_eq h]
    refine ⟨rfl, ?_⟩
    intro p
    rw [Region.getElem?_overwrite (by omega), hlength]
    by_cases hp : offset ≤ p
    · rw [if_neg (by omega)]
      simp [hp]
    · rw [if_pos (by omega), if_neg (by omega)]
  outside v offset region h := by
    have hbytes : c.bytes v = piece v := by
      rw [bytes, hpiece, List.flatten_singleton]
    have hgt : region.length < offset + (piece v).length := by
      rw [← hbytes, hc v]
      exact h
    rw [c.encode_eq, hpiece, writePieces_of_gt hgt]
    exact ⟨⟨_, rfl⟩, rfl⟩

theorem writesWhole_whole {name : String} {size : Nat} {toBytes : α → Bytes} {ofBytes : Bytes → α}
    (hsize : ∀ v, (toBytes v).length = size) : (whole name size toBytes ofBytes).WritesWhole := by
  refine Sized.writesWhole ?_ fun _ => rfl
  intro v
  simpa [bytes, whole] using hsize v

/-- A read breaks down exactly if its place does not lie inside the region. -/
theorem decode_trapped_iff (c : Codec α) (region : Bytes) (offset : Nat) :
    (∃ t, c.decode region offset = .trapped t) ↔ region.length < offset + c.size := by
  by_cases hinside : offset + c.size ≤ region.length
  · rw [decode_of_le hinside]
    refine iff_of_false ?_ (Nat.not_lt.mpr hinside)
    rintro ⟨t, ht⟩
    cases ht
  · rw [decode_of_gt (Nat.not_le.mp hinside)]
    exact iff_of_true ⟨_, rfl⟩ (Nat.not_le.mp hinside)

end Codec

namespace Format

/-- Whether the elements are vertices. -/
def isVertex : Format → Bool
  | .flatVertex | .spriteVertex | .meshVertex => true
  | _ => false

theorem writesWhole {f : Format} (h : f.isVertex = false) : f.codec.WritesWhole := by
  have hsized : f.codec.Sized := f.lawful.sized
  cases f with
  | flatVertex | spriteVertex | meshVertex => cases h
  | index16 | uint8 | int16 | uint32 | uint64 | binary64 | vec4 | byteTriple | empty =>
    exact hsized.writesWhole fun _ => rfl

/-- What writing and reading an element does at any place of any region, inside of it or not.

The three kinds of vertices are written component by component, as far as there is room, in the
order position, texture coordinate, colour.  The elements of all other formats, and of every codec
that gives its values in one string of one length, are written as a whole or not at all.  A read
breaks down exactly if its place does not lie inside the region. -/
theorem encode_anywhere :
    (codec .flatVertex).WritesSingly 6 (fun v : FlatVertex =>
      [v.position.x, v.position.y, v.color.x, v.color.y, v.color.z, v.color.w]) ∧
    (codec .spriteVertex).WritesSingly 8 (fun v : SpriteVertex =>
      [v.position.x, v.position.y, v.texture.x, v.texture.y,
        v.color.x, v.color.y, v.color.z, v.color.w]) ∧
    (codec .meshVertex).WritesSingly 9 (fun v : MeshVertex =>
      [v.position.x, v.position.y, v.position.z, v.texture.x, v.texture.y,
        v.color.x, v.color.y, v.color.z, v.color.w]) ∧
    (∀ f : Format, f.isVertex = false → f.codec.WritesWhole) ∧
    (∀ (α : Type) (name : String) (size : Nat) (toBytes : α → Bytes) (ofBytes : Bytes → α),
      (∀ v, (toBytes v).length = size) → (Codec.whole name size toBytes ofBytes).WritesWhole) ∧
    ∀ (α : Type) (c : Codec α) (region : Bytes) (offset : Nat),
      (∃ t, c.decode region offset = .trapped t) ↔ region.length < offset + c.size := by
  refine ⟨?_, ?_, ?_, fun f => writesWhole, fun α name size toBytes ofBytes =>
    Codec.writesWhole_whole, fun α => Codec.decode_trapped_iff⟩
  · exact FlatVertex.composed.writesSingly (by decide)
  · exact SpriteVertex.composed.writesSingly (by decide)
  · exact MeshVertex.composed.writesSingly (by decide)

/-- A vertex of which three components fit behind position 2 of fifteen bytes: the third one is
written and the byte behind it is not.  An index that does not fit leaves its region alone, and one
that fits is written; no index is read where none fits. -/
theorem encode_anywhere_cut_short :
    let v : FlatVertex := ⟨⟨⟨1⟩, ⟨2⟩⟩, ⟨⟨0x01020304⟩, ⟨4⟩, ⟨5⟩, ⟨6⟩⟩⟩
    let after := (codec .flatVertex).encode v 2 (Region.zeros 15)
    (∃ t, after.outcome = .trapped t) ∧
      after.state[10]? = some 4 ∧ after.state[13]? = some 1 ∧ after.state[14]? = some 0 ∧
      (∃ t, ((codec .index16).encode (7 : UInt16) 3 (Region.zeros 4)).outcome = .trapped t) ∧
      ((codec .index16).encode (7 : UInt16) 3 (Region.zeros 4)).state = Region.zeros 4 ∧
      ((codec .index16).encode (7 : UInt16) 2 (Region.zeros 4)).outcome = .ok 2 ∧
      ∃ t, (codec .index16).decode (Region.zeros 4) 3 = .trapped t := by
  obtain ⟨hflat, -, -, hwhole, -, hdecode⟩ := encode_anywhere
  have hindex := hwhole .index16 rfl
  have houtside := hindex.outside (7 : UInt16) 3 (Region.zeros 4) (by decide)
  refine ⟨?_, ?_, ?_, ?_, houtside.1, houtside.2, ?_, ?_⟩
  · exact (hflat.trapped_iff _ 2 (Region.zeros 15)).mpr (by decide)
  · exact (hflat.getElem? _ 2 (Region.zeros 15) 10).trans (by decide)
  · exact (hflat.getElem? _ 2 (Region.zeros 15) 13).trans (by decide)
  · exact (hflat.getElem? _ 2 (Region.zeros 15) 14).trans (by decide)
  · exact (hindex.inside (7 : UInt16) 2 (Region.zeros 4) (by decide)).1
  · exact (hdecode _ _ (Region.zeros 4) 3).mpr (by decide)

end Format

end BufferSync
