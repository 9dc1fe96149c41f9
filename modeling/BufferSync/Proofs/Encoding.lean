import BufferSync.Proofs.HostRuns
import BufferSync.Proofs.Layouts

/-!
# Writing and reading elements

Writing an element at a place of a region and reading it there are inverse to each other.  A write
that lies inside the region always ends well and replaces the bytes of that place by the bytes of
the element (`Codec.Lawful.encode_eq`); a read there always ends well and depends on these bytes
alone (`Codec.decode_congr`).  So what was written is read back, and what was read writes back the
bytes that it was read from, in whatever region it is put.

Everything holds of a lawful codec; `Format.decode_encode_inverse` is the case of the formats.
-/

namespace BufferSync

namespace Region

/-- Writing back what was read changes nothing. -/
theorem overwrite_slice {region : Bytes} {start len : Nat} (h : start + len ≤ region.length) :
    overwrite region start (slice region start len) = region := by
  have hlen : (slice region start len).length = len := length_slice h
  apply List.ext_getElem?
  intro k
  rw [getElem?_overwrite (by omega), hlen]
  split
  · rfl
  · split
    · rw [getElem?_slice, if_pos (by omega)]
      congr 1
      omega
    · rfl

/-- A read depends only on the bytes at the places that it reads. -/
theorem slice_congr {region other : Bytes} {start len : Nat}
    (h : ∀ k, start ≤ k → k < start + len → other[k]? = region[k]?) :
    slice other start len = slice region start len := by
  apply List.ext_getElem?
  intro k
  simp only [getElem?_slice]
  split
  · exact h (start + k) (by omega) (by omega)
  · rfl

end Region

namespace Codec

variable {α : Type} {c : Codec α} {region other : Bytes} {offset : Nat}

theorem Lawful.encode_eq (hc : c.Lawful) (h : offset + c.size ≤ region.length) (v : α) :
    c.encode v offset region =
      { outcome := .ok c.size
        state := Region.overwrite region offset (c.bytes v)
        log := [] } :=
  hc.sized.encode_eq h v

/-- A read does not see the bytes in front of its place nor those behind it. -/
theorem decode_congr (h : offset + c.size ≤ region.length) (h' : offset + c.size ≤ other.length)
    (hsame : ∀ k, offset ≤ k → k < offset + c.size → other[k]? = region[k]?) :
    c.decode other offset = c.decode region offset := by
  rw [decode_of_le h, decode_of_le h', Region.slice_congr hsame]

/-- What was written is read back. -/
theorem Lawful.decode_overwrite (hc : c.Lawful) (h : offset + c.size ≤ region.length) (v : α) :
    c.decode (Region.overwrite region offset (c.bytes v)) offset = .ok (v, c.size) := by
  have hlen : (c.bytes v).length = c.size := hc.length_bytes v
  have hroom : offset + (c.bytes v).length ≤ region.length := by omega
  have hsame := Region.length_overwrite hroom
  rw [decode_of_le (by omega), ← hlen, Region.slice_overwrite hroom, hc.parse_bytes]

/-- What was read has the bytes that it was read from. -/
theorem Lawful.bytes_parse_slice (hc : c.Lawful) (h : offset + c.size ≤ region.length) :
    c.bytes (c.parse (Region.slice region offset c.size)) = Region.slice region offset c.size :=
  hc.bytes_parse _ (Region.length_slice h)

end Codec

namespace Format

/-- At every place with room for an element, writing and reading are inverse to each other: every
element is read back after it was written, whatever stands there is read and writes itself back,
and the read depends on nothing outside the place.  Both sides count the size of the element. -/
theorem decode_encode_inverse (f : Format) (region : Bytes) (offset : Nat)
    (h : offset + f.codec.size ≤ region.length) :
    (∀ v : f.Element, ∃ written : Bytes,
      f.codec.encode v offset region =
          { outcome := .ok f.codec.size, state := written, log := [] } ∧
        f.codec.decode written offset = .ok (v, f.codec.size)) ∧
    (∃ v : f.Element,
      f.codec.decode region offset = .ok (v, f.codec.size) ∧
      f.codec.encode v offset region =
          { outcome := .ok f.codec.size, state := region, log := [] } ∧
      ∀ other : Bytes, offset + f.codec.size ≤ other.length → ∃ written : Bytes,
        f.codec.encode v offset other =
            { outcome := .ok f.codec.size, state := written, log := [] } ∧
          Region.slice written offset f.codec.size = Region.slice region offset f.codec.size) ∧
    (∀ other : Bytes, offset + f.codec.size ≤ other.length →
      (∀ k, offset ≤ k → k < offset + f.codec.size → other[k]? = region[k]?) →
      f.codec.decode other offset = f.codec.decode region offset) := by
  have hc : f.codec.Lawful := f.lawful
  have hbytes := hc.bytes_parse_slice h
  have hlen := Region.length_slice h
  refine ⟨fun v => ⟨_, hc.encode_eq h v, hc.decode_overwrite h v⟩,
    ⟨_, Codec.decode_of_le h, ?_, ?_⟩, fun other h' hsame => Codec.decode_congr h h' hsame⟩
  · rw [hc.encode_eq h, hbytes, Region.overwrite_slice h]
  · intro other h'
    refine ⟨_, hc.encode_eq h' _, ?_⟩
    have hroom : offset + (Region.slice region offset f.codec.size).length ≤ other.length := by
      omega
    rw [hbytes]
    simpa only [hlen] using Region.slice_overwrite hroom

/-- A textured vertex whose components are no numbers, written behind three bytes of a region that
ends one byte behind it. -/
theorem decode_encode_inverse_nan :
    3 + meshVertex.codec.size ≤ (Region.zeros 40).length ∧
      ∃ written : Bytes,
        meshVertex.codec.encode
            ⟨⟨⟨0x7fc00001⟩, ⟨0xffc12345⟩, ⟨0x7f800001⟩⟩, ⟨⟨0x80000000⟩, ⟨0xff800000⟩⟩,
              ⟨⟨0x7fffffff⟩, ⟨1⟩, ⟨0x3f800000⟩, ⟨0xffffffff⟩⟩⟩
            3 (Region.zeros 40) =
            { outcome := .ok 36, state := written, log := [] } ∧
          meshVertex.codec.decode written 3 =
            .ok (⟨⟨⟨0x7fc00001⟩, ⟨0xffc12345⟩, ⟨0x7f800001⟩⟩, ⟨⟨0x80000000⟩, ⟨0xff800000⟩⟩,
              ⟨⟨0x7fffffff⟩, ⟨1⟩, ⟨0x3f800000⟩, ⟨0xffffffff⟩⟩⟩, 36) :=
  ⟨by decide, (decode_encode_inverse meshVertex (Region.zeros 40) 3 (by decide)).1 _⟩

end Format

end BufferSync
