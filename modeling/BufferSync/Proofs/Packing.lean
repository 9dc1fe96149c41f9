import BufferSync.HostArray.Basic

/-!
# Packed elements

A host array is a list of *cells*: cell `i` is the byte string of length `size` that starts at
position `i * size` of the storage.  The populated cells are the whole meaning of the array, and
everything that is proved about host arrays is proved about this list.

*Regions.*  A write is seen by reads inside it and by no other read.  Two writes, one behind the
other, are one write.

*Cells.*  On a packed array every cell lies inside the storage and its position is a machine word.
A write of whole cells changes just these cells (`cell_overwriteCells`), more or less room changes
none (`cell_withRoom`), and the populated bytes are the cells in a row (`populated_eq_flatten`).
-/

namespace BufferSync

namespace Region

/-! ## Reading regions byte by byte -/

theorem getElem?_overwrite {region new : Bytes} {start : Nat}
    (h : start + new.length ≤ region.length) (k : Nat) :
    (overwrite region start new)[k]? =
      if k < start then region[k]?
      else if k < start + new.length then new[k - start]?
      else region[k]? := by
  have hlen : (region.take start).length = start := by
    rw [List.length_take]
    omega
  rw [overwrite, List.append_assoc]
  split
  · rw [List.getElem?_append_left (by omega), List.getElem?_take, if_pos (by assumption)]
  · rw [List.getElem?_append_right (by omega), hlen]
    split
    · rw [List.getElem?_append_left (by omega)]
    · rw [List.getElem?_append_right (by omega), List.getElem?_drop]
      congr 1
      omega

/-- A read that ends in front of a write does not see it. -/
theorem slice_overwrite_before {region new : Bytes} {start p n : Nat}
    (h : start + new.length ≤ region.length) (hp : p + n ≤ start) :
    slice (overwrite region start new) p n = slice region p n := by
  apply List.ext_getElem?
  intro k
  simp only [getElem?_slice, getElem?_overwrite h]
  split
  · rw [if_pos (by omega)]
  · rfl

/-- A read that starts behind a write does not see it. -/
theorem slice_overwrite_after {region new : Bytes} {start p n : Nat}
    (h : start + new.length ≤ region.length) (hp : start + new.length ≤ p) :
    slice (overwrite region start new) p n = slice region p n := by
  apply List.ext_getElem?
  intro k
  simp only [getElem?_slice, getElem?_overwrite h]
  split
  · rw [if_neg (by omega), if_neg (by omega)]
  · rfl

/-- A read inside a write reads what was written. -/
theorem slice_overwrite_within {region new : Bytes} {start p n : Nat}
    (h : start + new.length ≤ region.length) (hp : p + n ≤ new.length) :
    slice (overwrite region start new) (start + p) n = slice new p n := by
  apply List.ext_getElem?
  intro k
  simp only [getElem?_slice, getElem?_overwrite h]
  split
  · rw [if_neg (by omega), if_pos (by omega)]
    congr 1
    omega
  · rfl

/-- Writing one string behind another writes the two at once. -/
theorem overwrite_overwrite {region first second : Bytes} {start : Nat}
    (h : start + first.length + second.length ≤ region.length) :
    overwrite (overwrite region start first) (start + first.length) second =
      overwrite region start (first ++ second) := by
  have h₁ : start + first.length ≤ region.length := by omega
  have hlen := length_overwrite h₁
  apply List.ext_getElem?
  intro k
  rw [getElem?_overwrite (by omega), getElem?_overwrite h₁,
    getElem?_overwrite (by rw [List.length_append]; omega), List.length_append]
  by_cases hk : k < start
  · rw [if_pos (by omega), if_pos hk, if_pos hk]
  · rw [if_neg hk, if_neg hk]
    by_cases hf : k < start + first.length
    · rw [if_pos hf, if_pos hf, if_pos (by omega), List.getElem?_append_left (by omega)]
    · rw [if_neg hf, if_neg hf]
      split
      · rw [if_pos (by omega), List.getElem?_append_right (by omega), Nat.sub_sub]
      · rw [if_neg (by omega)]

/-- Bytes that stay in the region are not changed by cutting or continuing it. -/
theorem slice_resize {region : Bytes} {size p n : Nat} (hr : p + n ≤ region.length)
    (hs : p + n ≤ size) : slice (resize region size) p n = slice region p n := by
  apply List.ext_getElem?
  intro k
  simp only [getElem?_slice, resize]
  split
  · rw [List.getElem?_append_left (by rw [List.length_take]; omega), List.getElem?_take,
      if_pos (by omega)]
  · rfl

/-- The first bytes of a region are its first slices of one size in a row. -/
theorem take_mul_eq_flatten (region : Bytes) (n size : Nat) :
    region.take (n * size) =
      ((List.range n).map fun i => slice region (i * size) size).flatten := by
  induction n with
  | zero => simp
  | succ n ih =>
    rw [Nat.add_mul, Nat.one_mul, List.take_add, ih, List.range_succ, List.map_append,
      List.flatten_append]
    simp [slice]

/-- Strings of one size in a row are found again as slices. -/
theorem slice_flatten {size : Nat} {strings : List Bytes}
    (h : ∀ s ∈ strings, s.length = size) {i : Nat} {s : Bytes} (hs : strings[i]? = some s) :
    slice strings.flatten (i * size) size = s := by
  induction strings generalizing i with
  | nil => simp at hs
  | cons first rest ih =>
    have hfirst : first.length = size := h first (by simp)
    cases i with
    | zero =>
      obtain rfl : first = s := by simpa using hs
      simp [slice, ← hfirst]
    | succ i =>
      have hdrop : (first ++ rest.flatten).drop ((i + 1) * size) =
          rest.flatten.drop (i * size) := by
        rw [Nat.add_mul, Nat.one_mul, Nat.add_comm, ← hfirst, List.drop_append]
        simp
      rw [List.flatten_cons, slice, hdrop]
      exact ih (fun s hs => h s (List.mem_cons_of_mem first hs)) (by simpa using hs)

end Region

/-- There can be room for `n` elements: their number is a machine word, and some region is large
enough for them. -/
structure Codec.Fits {α : Type} (c : Codec α) (n : Nat) : Prop where
  /-- The number of elements is a machine word. -/
  word : n < wordLimit
  /-- A region can have so many bytes. -/
  size_le : n * c.size ≤ regionLimit

/-- The size of the room is a machine word. -/
theorem Codec.Fits.place_lt {α : Type} {c : Codec α} {n : Nat} (h : c.Fits n) :
    n * c.size < wordLimit :=
  Nat.lt_of_le_of_lt h.size_le regionLimit_lt_wordLimit

theorem Codec.fits_iff {α : Type} {c : Codec α} {n : Nat} :
    c.Fits n ↔ n < wordLimit ∧ n * c.size ≤ regionLimit :=
  ⟨fun h => ⟨h.word, h.size_le⟩, fun h => ⟨h.1, h.2⟩⟩

instance {α : Type} (c : Codec α) (n : Nat) : Decidable (c.Fits n) :=
  decidable_of_iff _ Codec.fits_iff.symm

theorem Codec.not_fits_iff {α : Type} {c : Codec α} {n : Nat} :
    ¬ c.Fits n ↔ wordLimit ≤ n ∨ regionLimit < n * c.size := by
  rw [Codec.fits_iff, Decidable.not_and_iff_or_not, Nat.not_lt, Nat.not_le]

namespace HostArray

variable {α : Type} {c : Codec α}

/-! ## Cells -/

/-- The bytes of position `i`, populated or not. -/
def cell (a : HostArray c) (i : Nat) : Bytes :=
  Region.slice a.storage (i * c.size) c.size

/-- The bytes of the populated elements, one string for each. -/
def cells (a : HostArray c) : List Bytes :=
  (List.range a.count).map a.cell

@[simp] theorem length_cells (a : HostArray c) : a.cells.length = a.count := by
  simp [cells]

theorem getElem?_cells (a : HostArray c) (i : Nat) :
    a.cells[i]? = if i < a.count then some (a.cell i) else none := by
  rw [cells, List.getElem?_map]
  split
  · rw [List.getElem?_range (by assumption)]
    rfl
  · rw [List.getElem?_eq_none (by rw [List.length_range]; omega)]
    rfl

/-- The cells are a given list if there are as many of them and each is the right one. -/
theorem cells_eq {a : HostArray c} {cs : List Bytes} (hlen : a.count = cs.length)
    (h : ∀ i, i < a.count → cs[i]? = some (a.cell i)) : a.cells = cs := by
  apply List.ext_getElem?
  intro i
  rw [getElem?_cells]
  split
  · exact (h i (by assumption)).symm
  · rw [List.getElem?_eq_none (by omega)]

theorem toList_eq_map (a : HostArray c) : a.toList = a.cells.map c.parse := by
  rw [toList, cells, List.map_map]
  rfl

theorem cells_congr {a b : HostArray c} (hcount : b.count = a.count)
    (h : ∀ i, i < a.count → b.cell i = a.cell i) : b.cells = a.cells := by
  apply cells_eq
  · rw [length_cells, hcount]
  · intro i hi
    rw [getElem?_cells, if_pos (by omega), h i (by omega)]

/-- The populated bytes are the cells in a row. -/
theorem populated_eq_flatten (a : HostArray c) : a.populated = a.cells.flatten :=
  Region.take_mul_eq_flatten a.storage a.count c.size

/-! ## Places in the storage -/

/-- A cell ends where the next one starts. -/
theorem cell_end_le {i n : Nat} (h : i < n) (size : Nat) : i * size + size ≤ n * size := by
  have := Nat.mul_le_mul_right size h
  rwa [Nat.succ_mul] at this

theorem Packed.place_le {a : HostArray c} (ha : a.Packed) {i : Nat} (h : i ≤ a.capacity) :
    i * c.size ≤ a.storage.length := by
  rw [ha.length_storage]
  exact Nat.mul_le_mul_right c.size h

/-- The `k` cells from cell `i` on lie inside the storage. -/
theorem Packed.cells_end_le {a : HostArray c} (ha : a.Packed) {i k : Nat}
    (h : i + k ≤ a.capacity) : i * c.size + k * c.size ≤ a.storage.length := by
  rw [← Nat.add_mul]
  exact ha.place_le h

theorem Packed.cell_end_le {a : HostArray c} (ha : a.Packed) {i : Nat} (h : i < a.capacity) :
    i * c.size + c.size ≤ a.storage.length := by
  rw [ha.length_storage]
  exact HostArray.cell_end_le h c.size

/-- There can be room for what the array has room for. -/
theorem Packed.fits {a : HostArray c} (ha : a.Packed) {n : Nat} (h : n ≤ a.capacity) :
    c.Fits n where
  word := Nat.lt_of_le_of_lt h ha.capacity_lt
  size_le := Nat.le_trans (ha.place_le h) ha.length_le

/-- Where a cell starts is a machine word. -/
theorem Packed.place_lt {a : HostArray c} (ha : a.Packed) {i : Nat} (h : i ≤ a.capacity) :
    i * c.size < wordLimit :=
  (ha.fits h).place_lt

theorem Packed.length_cell {a : HostArray c} (ha : a.Packed) {i : Nat} (h : i < a.capacity) :
    (a.cell i).length = c.size :=
  Region.length_slice (ha.cell_end_le h)

/-! ## Writing cells -/

/-- The array with bytes written over its storage from cell `i` on. -/
def overwriteCells (i : Nat) (new : Bytes) (a : HostArray c) : HostArray c :=
  { a with storage := Region.overwrite a.storage (i * c.size) new }

/-- A write of `k` whole cells from cell `i` on changes these cells and no other. -/
theorem cell_overwriteCells {a : HostArray c} (ha : a.Packed) {i k : Nat} {new : Bytes}
    (hnew : new.length = k * c.size) (hik : i + k ≤ a.capacity) (j : Nat) :
    (a.overwriteCells i new).cell j =
      if j < i then a.cell j
      else if j < i + k then Region.slice new ((j - i) * c.size) c.size
      else a.cell j := by
  have hroom : i * c.size + new.length ≤ a.storage.length := hnew ▸ ha.cells_end_le hik
  unfold cell overwriteCells
  split
  · exact Region.slice_overwrite_before hroom (cell_end_le (by assumption) c.size)
  · split
    · have hj : j * c.size = i * c.size + (j - i) * c.size := by
        rw [← Nat.add_mul]
        congr 1
        omega
      have hlast : (j - i) * c.size + c.size ≤ new.length := by
        rw [hnew]
        exact HostArray.cell_end_le (by omega) c.size
      rw [hj, Region.slice_overwrite_within hroom hlast]
    · apply Region.slice_overwrite_after hroom
      rw [hnew, ← Nat.add_mul]
      exact Nat.mul_le_mul_right c.size (by omega)

theorem Packed.overwriteCells {a : HostArray c} (ha : a.Packed) {i k : Nat} {new : Bytes}
    (hnew : new.length = k * c.size) (hik : i + k ≤ a.capacity) :
    (a.overwriteCells i new).Packed := by
  have hroom : i * c.size + new.length ≤ a.storage.length := hnew ▸ ha.cells_end_le hik
  have hlen := Region.length_overwrite hroom
  exact ⟨hlen.trans ha.length_storage, ha.count_le, hlen ▸ ha.length_le, ha.capacity_lt⟩

/-- The array with a copy of the cells from `start` up to `stop` from cell `target` on. -/
def moved (start stop target : Nat) (a : HostArray c) : HostArray c :=
  a.overwriteCells target
    (Region.slice a.storage (start * c.size) ((stop - start) * c.size))

theorem Packed.length_moving {a : HostArray c} (ha : a.Packed) {start stop : Nat}
    (hstart : start ≤ stop) (hstop : stop ≤ a.capacity) :
    (Region.slice a.storage (start * c.size) ((stop - start) * c.size)).length =
      (stop - start) * c.size := by
  exact Region.length_slice (ha.cells_end_le (by omega))

/-- The cells from `start` up to `stop` are found again from `target` on. -/
theorem cell_moved {a : HostArray c} (ha : a.Packed) {start stop target : Nat}
    (hstart : start ≤ stop) (hstop : stop ≤ a.capacity)
    (htarget : target + (stop - start) ≤ a.capacity) (j : Nat) :
    (a.moved start stop target).cell j =
      if target ≤ j ∧ j < target + (stop - start) then a.cell (start + (j - target))
      else a.cell j := by
  rw [moved, cell_overwriteCells ha (ha.length_moving hstart hstop) htarget]
  by_cases hj : j < target
  · rw [if_pos hj, if_neg (by omega)]
  · rw [if_neg hj]
    by_cases hlast : j < target + (stop - start)
    · rw [if_pos hlast, if_pos (by omega),
        Region.slice_slice (HostArray.cell_end_le (by omega) c.size), ← Nat.add_mul]
      rfl
    · rw [if_neg hlast, if_neg (by omega)]

theorem Packed.moved {a : HostArray c} (ha : a.Packed) {start stop target : Nat}
    (hstart : start ≤ stop) (hstop : stop ≤ a.capacity)
    (htarget : target + (stop - start) ≤ a.capacity) :
    (a.moved start stop target).Packed :=
  ha.overwriteCells (ha.length_moving hstart hstop) htarget

/-! ## Room -/

/-- The array with room for exactly `capacity` elements. -/
def withRoom (capacity : Nat) (a : HostArray c) : HostArray c :=
  { a with storage := Region.resize a.storage (capacity * c.size), capacity }

theorem packed_withRoom {a : HostArray c} {n : Nat} (hn : a.count ≤ n) (hfits : c.Fits n) :
    (a.withRoom n).Packed where
  length_storage := Region.length_resize ..
  count_le := hn
  length_le := by
    rw [withRoom, Region.length_resize]
    exact hfits.size_le
  capacity_lt := hfits.word

theorem cell_withRoom {a : HostArray c} (ha : a.Packed) {n i : Nat} (hi : i < a.capacity)
    (hn : i < n) : (a.withRoom n).cell i = a.cell i :=
  Region.slice_resize (ha.cell_end_le hi) (HostArray.cell_end_le hn c.size)

/-- As long as the populated elements fit in, their cells do not depend on the room. -/
theorem cells_withRoom {a : HostArray c} (ha : a.Packed) {n : Nat} (hn : a.count ≤ n) :
    (a.withRoom n).cells = a.cells := by
  refine cells_congr (a := a) rfl ?_
  intro i hi
  have := ha.count_le
  exact cell_withRoom ha (by omega) (by omega)

end HostArray

end BufferSync
