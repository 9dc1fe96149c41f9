import BufferSync.HostArray.Cursor
import BufferSync.Proofs.Packing
import BufferSync.Proofs.Runs

/-!
# What the operations of a host array do

Each operation on a packed array is given by its outcome and by the cells that it leaves.  Reads,
writes inside the populated part, removals and truncation always end well or are refused.  An
operation that needs more room than there is can break down instead; it then leaves the array as it
was, because the room is found before anything is written.
-/

namespace BufferSync

namespace Region

theorem overwrite_nil (region : Bytes) (start : Nat) : overwrite region start [] = region := by
  simp [overwrite]

/-- Strings that lie inside the region are written as one string. -/
theorem putAll_of_le {strings : List Bytes} {offset : Nat} {region : Bytes}
    (h : offset + strings.flatten.length ≤ region.length) :
    putAll offset strings region =
      { outcome := .ok (offset + strings.flatten.length)
        state := overwrite region offset strings.flatten
        log := [] } := by
  induction strings generalizing offset region with
  | nil => simp [putAll, Op.pure_apply, overwrite_nil]
  | cons new rest ih =>
    rw [List.flatten_cons, List.length_append] at h
    have hnew : offset + new.length ≤ region.length := by omega
    have hrest := @ih (offset + new.length) (overwrite region offset new)
      (by rw [length_overwrite hnew]; omega)
    rw [putAll, Op.bind_of_ok (put_of_le hnew), hrest, overwrite_overwrite (by omega),
      List.flatten_cons, List.length_append, Nat.add_assoc]
    rfl

end Region

namespace Codec

variable {α : Type} {c : Codec α}

/-- Every value takes the size of the codec. -/
def Sized (c : Codec α) : Prop :=
  ∀ v, (c.bytes v).length = c.size

theorem Lawful.sized (hc : c.Lawful) : c.Sized :=
  hc.length_bytes

/-- Pieces that lie inside the region are written in one string. -/
theorem writePieces_eq {pieces : List Bytes} {offset : Nat} {region : Bytes}
    (h : offset + pieces.flatten.length ≤ region.length) :
    writePieces offset pieces region =
      { outcome := .ok pieces.flatten.length
        state := Region.overwrite region offset pieces.flatten
        log := [] } := by
  rw [writePieces, Op.bind_of_ok (Region.putAll_of_le h), Op.difference_add_left]
  rfl

/-- A write inside the region ends well and puts the bytes of the value in their place. -/
theorem Sized.encode_eq (hc : c.Sized) {offset : Nat} {region : Bytes}
    (h : offset + c.size ≤ region.length) (v : α) :
    c.encode v offset region =
      { outcome := .ok c.size
        state := Region.overwrite region offset (c.bytes v)
        log := [] } := by
  have hlen : (c.pieces v).flatten.length = c.size := hc v
  rw [c.encode_eq, writePieces_eq (by omega), hlen]
  rfl

/-- A read inside the region takes the bytes of its place. -/
theorem decode_of_le {offset : Nat} {region : Bytes} (h : offset + c.size ≤ region.length) :
    c.decode region offset = .ok (c.parse (Region.slice region offset c.size), c.size) := by
  rw [decode, c.read_eq, Op.map_apply, Region.fetch_of_le h]
  rfl

theorem decode_of_gt {offset : Nat} {region : Bytes} (h : region.length < offset + c.size) :
    c.decode region offset = .trapped .outsideRegion := by
  rw [decode, c.read_eq, Op.map_apply, Region.fetch_of_gt h]
  rfl

end Codec

namespace HostArray

variable {α : Type} {c : Codec α} {a : HostArray c}

/-! ## Single elements -/

theorem writeAt_eq (hc : c.Sized) (ha : a.Packed) {i : Nat} (hi : i < a.capacity) (v : α) :
    writeAt i v a =
      { outcome := .ok (), state := a.overwriteCells i (c.bytes v), log := [] } := by
  have hencode : onStorage (c.encode v (i * c.size)) a =
      { outcome := .ok c.size, state := a.overwriteCells i (c.bytes v), log := [] } := by
    rw [onStorage, Op.focus_apply, hc.encode_eq (ha.cell_end_le hi)]
    rfl
  rw [writeAt, Op.word_bind_of_lt (ha.place_lt (by omega)), Op.bind_of_ok hencode, Op.require,
    if_pos rfl]
  rfl

theorem readAt_eq (ha : a.Packed) {i : Nat} (hi : i < a.capacity) :
    readAt i a = { outcome := .ok (c.parse (a.cell i)), state := a, log := [] } := by
  rw [readAt, Op.state_bind, Op.word_bind_of_lt (ha.place_lt (by omega)),
    Codec.decode_of_le (ha.cell_end_le hi), Op.ofOutcome_bind]
  change (Op.require (c.size = c.size) _ >>= _) a = _
  rw [Op.require_bind_of rfl]
  rfl

/-- The populated bytes lie inside the storage. -/
theorem content_eq (ha : a.Packed) :
    content a = { outcome := .ok a.populated, state := a, log := [] } := by
  have hstop : 0 + a.count * c.size ≤ a.storage.length := by
    rw [Nat.zero_add]
    exact ha.place_le ha.count_le
  rw [content, Op.state_bind, Op.word_bind_of_lt (ha.place_lt ha.count_le), onStorage,
    Op.focus_apply, Region.fetch_of_le hstop]
  rfl

/-- Cells that are moved inside the storage are found where they were moved to. -/
theorem moveElements_eq (ha : a.Packed) {start stop target : Nat} (hstart : start ≤ stop)
    (hstop : stop ≤ a.capacity) (htarget : target + (stop - start) ≤ a.capacity) :
    moveElements start stop target a =
      { outcome := .ok (), state := a.moved start stop target, log := [] } := by
  have hfirst : start * c.size ≤ stop * c.size := Nat.mul_le_mul_right c.size hstart
  have hlast : stop * c.size ≤ a.storage.length := ha.place_le hstop
  have hgoal : target * c.size + (stop * c.size - start * c.size) ≤ a.storage.length := by
    rw [← Nat.sub_mul]
    exact ha.cells_end_le htarget
  rw [moveElements, Op.word_bind_of_lt (ha.place_lt (by omega)),
    Op.word_bind_of_lt (ha.place_lt hstop), Op.word_bind_of_lt (ha.place_lt (by omega)), onStorage,
    Op.focus_apply, Region.copyWithin_of_le hfirst hlast hgoal, moved, Nat.sub_mul]
  rfl

theorem countUp_of_lt (h : a.count + 1 < wordLimit) :
    countUp a = { outcome := .ok (), state := { a with count := a.count + 1 }, log := [] } := by
  rw [countUp, Op.state_bind, Op.word_bind_of_lt h]
  rfl

theorem countDown_of_pos (h : 0 < a.count) :
    countDown a = { outcome := .ok (), state := { a with count := a.count - 1 }, log := [] } := by
  rw [countDown, Op.state_bind, Op.difference_of_le h, Op.pure_bind]
  rfl

theorem checkIndex_of_lt {i : Nat} (h : i < a.count) :
    checkIndex i a = { outcome := .ok (), state := a, log := [] } := by
  rw [checkIndex, Op.state_bind, if_neg (by omega)]
  rfl

theorem checkIndex_of_ge {i : Nat} (h : a.count ≤ i) :
    checkIndex i a = Op.raise source (.indexOutOfRange i a.count) a := by
  rw [checkIndex, Op.state_bind, if_pos h]

theorem get_of_lt (ha : a.Packed) {i : Nat} (h : i < a.count) :
    get i a = { outcome := .ok (c.parse (a.cell i)), state := a, log := [] } := by
  have hroom : i < a.capacity := Nat.lt_of_lt_of_le h ha.count_le
  rw [get, Op.bind_of_ok (checkIndex_of_lt h), readAt_eq ha hroom]
  rfl

theorem get_of_ge {i : Nat} (h : a.count ≤ i) :
    get i a = Op.raise source (.indexOutOfRange i a.count) a := by
  rw [get, Op.bind_of_error (checkIndex_of_ge h)]
  rfl

theorem set_of_lt (hc : c.Sized) (ha : a.Packed) {i : Nat} (h : i < a.count) (v : α) :
    set i v a = { outcome := .ok (), state := a.overwriteCells i (c.bytes v), log := [] } := by
  have hroom : i < a.capacity := Nat.lt_of_lt_of_le h ha.count_le
  rw [set, Op.bind_of_ok (checkIndex_of_lt h), writeAt_eq hc ha hroom]
  rfl

theorem set_of_ge {i : Nat} (h : a.count ≤ i) (v : α) :
    set i v a = Op.raise source (.indexOutOfRange i a.count) a := by
  rw [set, Op.bind_of_error (checkIndex_of_ge h)]
  rfl

/-- One written cell replaces one member of the list of cells. -/
theorem cell_overwriteCell (ha : a.Packed) {i : Nat} (hi : i < a.capacity) {new : Bytes}
    (hnew : new.length = c.size) (j : Nat) :
    (a.overwriteCells i new).cell j = if j = i then new else a.cell j := by
  rw [cell_overwriteCells ha (by omega : new.length = 1 * c.size) (by omega)]
  by_cases hj : j = i
  · subst hj
    rw [if_neg (by omega), if_pos (by omega), if_pos rfl, Nat.sub_self, Nat.zero_mul, ← hnew,
      Region.slice]
    simp
  · rw [if_neg hj]
    split
    · rfl
    · rw [if_neg (by omega)]

theorem cells_overwriteCell (ha : a.Packed) {i : Nat} (hi : i < a.capacity) {new : Bytes}
    (hnew : new.length = c.size) : (a.overwriteCells i new).cells = a.cells.set i new := by
  apply cells_eq
  · simp [overwriteCells]
  · intro j hj
    rw [cell_overwriteCell ha hi hnew, List.getElem?_set, length_cells, getElem?_cells]
    have hcount : j < a.count := hj
    by_cases hij : i = j
    · rw [if_pos hij, if_pos (by omega), if_pos hij.symm]
    · rw [if_neg hij, if_pos hcount, if_neg (fun h => hij h.symm)]

/-! ## Room -/

/-- What is reported before the storage changes its size. -/
def roomEntry (a : HostArray c) (capacity : Nat) : Log.Entry where
  severity := .debug
  source := source
  message :=
    s!"Reallocating storage: {a.capacity} -> {capacity} elements ({capacity * c.size} bytes)"

theorem reallocate_of_fits {n : Nat} (h : c.Fits n) :
    reallocate n a = { outcome := .ok (), state := a.withRoom n, log := [a.roomEntry n] } := by
  rw [reallocate, Op.word_bind_of_lt h.word, Op.word_bind_of_lt h.place_lt, Op.state_bind,
    Op.note_bind, Op.roomFor_bind_of_le h.size_le]
  rfl

theorem reallocate_of_not_fits {n : Nat} (h : ¬ c.Fits n) :
    ∃ t l, reallocate n a = { outcome := .trapped t, state := a, log := l } := by
  rw [reallocate]
  by_cases hword : n < wordLimit
  · have hlarge : regionLimit < n * c.size := Nat.not_le.mp fun hle => h ⟨hword, hle⟩
    rw [Op.word_bind_of_lt hword]
    by_cases hsize : n * c.size < wordLimit
    · rw [Op.word_bind_of_lt hsize, Op.state_bind, Op.note_bind, Op.roomFor_bind_of_gt hlarge]
      exact ⟨_, _, rfl⟩
    · rw [Op.word_bind_of_ge (by omega)]
      exact ⟨_, _, rfl⟩
  · rw [Op.word_bind_of_ge (by omega)]
    exact ⟨_, _, rfl⟩

/-- `b` holds the elements of `a`, perhaps in other room. -/
structure SameCells (a b : HostArray c) : Prop where
  /-- The new array is packed. -/
  packed : b.Packed
  /-- The elements are the same. -/
  cells : b.cells = a.cells

theorem SameCells.count {b : HostArray c} (h : SameCells a b) : b.count = a.count := by
  rw [← length_cells, h.cells, length_cells]

theorem sameCells_withRoom (ha : a.Packed) {n : Nat} (hn : a.count ≤ n) (hfits : c.Fits n) :
    SameCells a (a.withRoom n) :=
  ⟨packed_withRoom hn hfits, cells_withRoom ha hn⟩

theorem Packed.lt_of_not_fits (ha : a.Packed) {n : Nat} (h : ¬ c.Fits n) : a.capacity < n :=
  Nat.not_le.mp fun hle => h (ha.fits hle)

/-- Changing the room breaks down and leaves the array alone, or it keeps the elements. -/
theorem reallocate_cases (ha : a.Packed) {n : Nat} (hn : a.count ≤ n) :
    (¬ c.Fits n ∧
        ∃ t l, reallocate n a = { outcome := .trapped t, state := a, log := l }) ∨
      (c.Fits n ∧
        ∃ b l, reallocate n a = { outcome := .ok (), state := b, log := l } ∧
          SameCells a b ∧ b.capacity = n) := by
  by_cases h : c.Fits n
  · exact .inr ⟨h, _, _, reallocate_of_fits h, sameCells_withRoom ha hn h, rfl⟩
  · exact .inl ⟨h, reallocate_of_not_fits h⟩

theorem reserve_cases (ha : a.Packed) (n : Nat) :
    (¬ c.Fits n ∧
        ∃ t l, reserve n a = { outcome := .trapped t, state := a, log := l }) ∨
      (c.Fits n ∧
        ∃ b l, reserve n a = { outcome := .ok (), state := b, log := l } ∧
          SameCells a b ∧ n ≤ b.capacity) := by
  have hcount := ha.count_le
  rw [reserve, Op.state_bind]
  split
  · obtain htrap | ⟨hroom, b, l, hrun, hb, hcap⟩ := reallocate_cases ha (n := n) (by omega)
    · exact .inl htrap
    · exact .inr ⟨hroom, b, l, hrun, hb, by omega⟩
  next hmore =>
    have hroom : n ≤ a.capacity := Nat.not_lt.mp hmore
    exact .inr ⟨ha.fits hroom, a, [], rfl, ⟨ha, rfl⟩, hroom⟩

theorem makeRoom_of_lt (h : a.count < a.capacity) :
    makeRoom a = { outcome := .ok (), state := a, log := [] } := by
  rw [makeRoom, Op.state_bind, if_neg (by omega)]
  rfl

/-- The array is full, and there is no room for twice as many elements. -/
def Saturated (a : HostArray c) : Prop :=
  a.count = a.capacity ∧
    (wordLimit ≤ a.capacity * 2 ∨ regionLimit < max (a.capacity * 2) 1 * c.size)

theorem makeRoom_cases (ha : a.Packed) :
    (a.Saturated ∧ ∃ t l, makeRoom a = { outcome := .trapped t, state := a, log := l }) ∨
      (¬ a.Saturated ∧ ∃ b l, makeRoom a = { outcome := .ok (), state := b, log := l } ∧
        SameCells a b ∧ a.count < b.capacity) := by
  have hcount := ha.count_le
  by_cases hfull : a.count = a.capacity
  · rw [makeRoom, Op.state_bind, if_pos hfull]
    by_cases hword : a.capacity * 2 < wordLimit
    · rw [Op.word_bind_of_lt hword]
      obtain ⟨hexcess, htrap⟩ | ⟨hroom, b, l, hrun, hb, hcap⟩ :=
        reallocate_cases ha (n := max (a.capacity * 2) 1) (by omega)
      · have hone : 1 < wordLimit := by decide
        have hlarge := (Codec.not_fits_iff.mp hexcess).resolve_left (by omega)
        exact .inl ⟨⟨hfull, .inr hlarge⟩, htrap⟩
      · refine .inr ⟨?_, b, l, hrun, hb, by omega⟩
        rintro ⟨-, hge | hlarge⟩
        · omega
        · exact Nat.not_le.mpr hlarge hroom.size_le
    · rw [Op.word_bind_of_ge (by omega)]
      exact .inl ⟨⟨hfull, .inl (by omega)⟩, _, _, rfl⟩
  · exact .inr ⟨fun h => hfull h.1, a, [], makeRoom_of_lt (by omega), ⟨ha, rfl⟩, by omega⟩

theorem setCapacity_of_lt {n : Nat} (h : n < a.count) :
    setCapacity n a = Op.raise source (.invalidArgument
      s!"cannot shrink below logical count: capacity {n} < count {a.count}") a := by
  rw [setCapacity, Op.state_bind, if_pos h]

theorem setCapacity_cases (ha : a.Packed) {n : Nat} (h : a.count ≤ n) :
    (¬ c.Fits n ∧
        ∃ t l, setCapacity n a = { outcome := .trapped t, state := a, log := l }) ∨
      (c.Fits n ∧
        ∃ b l, setCapacity n a = { outcome := .ok (), state := b, log := l } ∧
          SameCells a b ∧ b.capacity = n) := by
  rw [setCapacity, Op.state_bind, if_neg (by omega)]
  split
  · exact reallocate_cases ha h
  next hsame =>
    have hcap : n = a.capacity := Decidable.not_not.mp hsame
    exact .inr ⟨ha.fits (Nat.le_of_eq hcap), a, [], rfl, ⟨ha, rfl⟩, hcap.symm⟩

/-! ## Adding elements at the end -/

/-- The array with `v` behind its elements; it must have room. -/
def push (a : HostArray c) (v : α) : HostArray c :=
  { a.overwriteCells a.count (c.bytes v) with count := a.count + 1 }

theorem Packed.push (hc : c.Sized) (ha : a.Packed) (h : a.count < a.capacity) (v : α) :
    (a.push v).Packed := by
  have hlength : (c.bytes v).length = 1 * c.size := by rw [hc v, Nat.one_mul]
  have hp := ha.overwriteCells hlength
    (by omega : a.count + 1 ≤ a.capacity)
  exact ⟨hp.length_storage, h, hp.length_le, ha.capacity_lt⟩

theorem cells_push (hc : c.Sized) (ha : a.Packed) (h : a.count < a.capacity) (v : α) :
    (a.push v).cells = a.cells ++ [c.bytes v] := by
  have hcell : ∀ j, (a.push v).cell j = if j = a.count then c.bytes v else a.cell j :=
    cell_overwriteCell ha h (hc v)
  apply cells_eq
  · simp [HostArray.push]
  · intro j hj
    have hj : j < a.count + 1 := hj
    rw [hcell, List.getElem?_append, length_cells, getElem?_cells]
    by_cases hlast : j = a.count
    · rw [if_pos hlast, if_neg (by omega), hlast, Nat.sub_self]
      rfl
    · rw [if_neg hlast, if_pos (by omega), if_pos (by omega)]

/-- One more element can be counted where there is room for it. -/
theorem Packed.count_succ_lt (ha : a.Packed) (h : a.count < a.capacity) :
    a.count + 1 < wordLimit :=
  Nat.lt_of_le_of_lt h ha.capacity_lt

/-- With room, writing an element behind the populated ones and counting it is a push. -/
theorem write_then_count (hc : c.Sized) (ha : a.Packed) (h : a.count < a.capacity) (v : α) :
    (writeAt a.count v >>= fun _ => countUp) a =
      { outcome := .ok (), state := a.push v, log := [] } := by
  have hcount : countUp (a.overwriteCells a.count (c.bytes v)) =
      { outcome := .ok (), state := a.push v, log := [] } :=
    countUp_of_lt (ha.count_succ_lt h)
  rw [Op.bind_of_ok (writeAt_eq hc ha h v), hcount]
  rfl

/-- Once there is room, the rest of an append is a push. -/
theorem append_of_makeRoom (hc : c.Sized) {b : HostArray c} {l : List Log.Entry}
    (hrun : makeRoom a = { outcome := .ok (), state := b, log := l }) (hb : b.Packed)
    (h : b.count < b.capacity) (v : α) :
    append v a = { outcome := .ok b.count, state := b.push v, log := l } := by
  rw [append, Op.bind_of_ok hrun, Op.state_bind, ← Op.bind_assoc,
    Op.bind_of_ok (write_then_count hc hb h v)]
  simp [Op.pure_apply, Run.after]

theorem append_of_lt (hc : c.Sized) (ha : a.Packed) (h : a.count < a.capacity) (v : α) :
    append v a = { outcome := .ok a.count, state := a.push v, log := [] } :=
  append_of_makeRoom hc (makeRoom_of_lt h) ha h v

theorem append_cases (hc : c.Sized) (ha : a.Packed) (v : α) :
    (a.Saturated ∧ ∃ t l, append v a = { outcome := .trapped t, state := a, log := l }) ∨
      (¬ a.Saturated ∧ ∃ b l, append v a = { outcome := .ok a.count, state := b, log := l } ∧
        b.Packed ∧ b.cells = a.cells ++ [c.bytes v]) := by
  obtain ⟨hfull, t, l, hrun⟩ | ⟨hfree, b, l, hrun, hb, hroom⟩ := makeRoom_cases ha
  · exact .inl ⟨hfull, t, l, by rw [append, Op.bind_of_trapped hrun]⟩
  · have hcount := hb.count
    refine .inr ⟨hfree, b.push v, l, ?_, hb.packed.push hc (by omega) v, ?_⟩
    · rw [append_of_makeRoom hc hrun hb.packed (by omega), hcount]
    · rw [cells_push hc hb.packed (by omega), hb.cells]

theorem capacity_foldl_push (vs : List α) (a : HostArray c) :
    (vs.foldl push a).capacity = a.capacity := by
  induction vs generalizing a with
  | nil => rfl
  | cons v rest ih => exact ih (a.push v)

theorem count_foldl_push (vs : List α) (a : HostArray c) :
    (vs.foldl push a).count = a.count + vs.length := by
  induction vs generalizing a with
  | nil => rfl
  | cons v rest ih =>
    have hpush : (a.push v).count = a.count + 1 := rfl
    rw [List.foldl_cons, ih, hpush, List.length_cons, Nat.add_assoc, Nat.add_comm 1]

/-- With room for all of them, a loop that adds elements adds them all. -/
theorem foldl_push (hc : c.Sized) (ha : a.Packed) (vs : List α)
    (h : a.count + vs.length ≤ a.capacity) :
    (vs.foldl push a).Packed ∧ (vs.foldl push a).cells = a.cells ++ vs.map c.bytes := by
  induction vs generalizing a with
  | nil => exact ⟨ha, by simp⟩
  | cons v rest ih =>
    rw [List.length_cons] at h
    have hroom : a.count < a.capacity := by omega
    have hstep := ih (ha.push hc hroom v) (show a.count + 1 + rest.length ≤ a.capacity by omega)
    rw [List.foldl_cons]
    refine ⟨hstep.1, ?_⟩
    rw [hstep.2, cells_push hc ha hroom, List.map_cons, List.append_assoc]
    rfl

theorem each_append_eq (hc : c.Sized) (ha : a.Packed) (vs : List α)
    (h : a.count + vs.length ≤ a.capacity) :
    Op.each (fun v => do let _ ← append v) vs a =
      { outcome := .ok (), state := vs.foldl push a, log := [] } := by
  induction vs generalizing a with
  | nil => rfl
  | cons v rest ih =>
    rw [List.length_cons] at h
    have hroom : a.count < a.capacity := by omega
    have hrest := ih (ha.push hc hroom v) (show a.count + 1 + rest.length ≤ a.capacity by omega)
    rw [Op.each, Op.bind_of_ok (Op.discard_of_ok (append_of_lt hc ha hroom v)), hrest]
    rfl

theorem fill_eq (hc : c.Sized) (ha : a.Packed) (n : Nat) (v : α) (h : a.count + n ≤ a.capacity) :
    fill n v a = { outcome := .ok (), state := (List.replicate n v).foldl push a, log := [] } := by
  rw [fill]
  induction n generalizing a with
  | zero => rfl
  | succ n ih =>
    have hroom : a.count < a.capacity := by omega
    have hrest := ih (ha.push hc hroom v) (show a.count + 1 + n ≤ a.capacity by omega)
    rw [Op.times, Op.bind_assoc, Op.state_bind, Op.bind_of_ok (write_then_count hc ha hroom v),
      List.replicate_succ]
    exact hrest

theorem appendAll_cases (hc : c.Sized) (ha : a.Packed) (vs : List α) :
    (¬ c.Fits (a.count + vs.length) ∧
        ∃ t l, appendAll vs a = { outcome := .trapped t, state := a, log := l }) ∨
      (c.Fits (a.count + vs.length) ∧
        ∃ b l, appendAll vs a =
            { outcome := .ok { start := a.count, stop := a.count + vs.length }
              state := b
              log := l } ∧
          b.Packed ∧ b.cells = a.cells ++ vs.map c.bytes) := by
  rw [appendAll, Op.state_bind]
  by_cases hword : a.count + vs.length < wordLimit
  · rw [Op.word_bind_of_lt hword]
    obtain ⟨hexcess, t, l, hrun⟩ | ⟨hfree, b, l, hrun, hb, hroom⟩ :=
      reserve_cases ha (a.count + vs.length)
    · exact .inl ⟨hexcess, t, l, by rw [Op.bind_of_trapped hrun]⟩
    · have hloop := each_append_eq hc hb.packed vs (by rw [hb.count]; exact hroom)
      obtain ⟨hpacked, hcells⟩ := foldl_push hc hb.packed vs (by rw [hb.count]; exact hroom)
      have hcount : (vs.foldl push b).count = a.count + vs.length := by
        rw [count_foldl_push, hb.count]
      refine .inr ⟨hfree, vs.foldl push b, l, ?_, hpacked, ?_⟩
      · rw [Op.bind_of_ok hrun, Op.bind_of_ok hloop, Op.state_bind, hcount]
        simp [Op.pure_apply, Run.after]
      · rw [hcells, hb.cells]
  · rw [Op.word_bind_of_ge (by omega)]
    exact .inl ⟨fun hfits => hword hfits.word, _, _, rfl⟩

theorem resize_of_le {n : Nat} (h : n ≤ a.count) (v : α) :
    resize n v a =
      { outcome := .ok (), state := { a with count := min a.count n }, log := [] } := by
  rw [resize, Op.state_bind, if_pos h]
  rfl

theorem resize_cases (hc : c.Sized) (ha : a.Packed) {n : Nat} (h : a.count < n) (v : α) :
    (¬ c.Fits n ∧
        ∃ t l, resize n v a = { outcome := .trapped t, state := a, log := l }) ∨
      (c.Fits n ∧
        ∃ b l, resize n v a = { outcome := .ok (), state := b, log := l } ∧
          b.Packed ∧ b.cells = a.cells ++ List.replicate (n - a.count) (c.bytes v)) := by
  rw [resize, Op.state_bind, if_neg (by omega)]
  obtain ⟨hexcess, t, l, hrun⟩ | ⟨hfree, b, l, hrun, hb, hroom⟩ := reserve_cases ha n
  · exact .inl ⟨hexcess, t, l, by rw [Op.bind_of_trapped hrun]⟩
  · have hcount := hb.count
    have hfill := fill_eq hc hb.packed (n - a.count) v (by omega)
    obtain ⟨hpacked, hcells⟩ := foldl_push hc hb.packed (List.replicate (n - a.count) v)
      (by rw [List.length_replicate]; omega)
    refine .inr ⟨hfree, _, l, ?_, hpacked, ?_⟩
    · rw [Op.bind_of_ok hrun, hfill]
      simp [Run.after]
    · rw [hcells, hb.cells, List.map_replicate]

/-! ## Inside the array -/

/-- The array with `v` in front of position `i`; it must have room. -/
def inserted (i : Nat) (v : α) (a : HostArray c) : HostArray c :=
  { (a.moved i a.count (i + 1)).overwriteCells i (c.bytes v) with count := a.count + 1 }

theorem packed_inserted (hc : c.Sized) (ha : a.Packed) {i : Nat} (hi : i ≤ a.count)
    (h : a.count < a.capacity) (v : α) : (a.inserted i v).Packed := by
  have hm := ha.moved hi (by omega) (by omega : i + 1 + (a.count - i) ≤ a.capacity)
  have hlength : (c.bytes v).length = 1 * c.size := by rw [hc v, Nat.one_mul]
  have hp := hm.overwriteCells hlength
    (show i + 1 ≤ a.capacity by omega)
  exact ⟨hp.length_storage, h, hp.length_le, ha.capacity_lt⟩

theorem cells_inserted (hc : c.Sized) (ha : a.Packed) {i : Nat} (hi : i ≤ a.count)
    (h : a.count < a.capacity) (v : α) :
    (a.inserted i v).cells = a.cells.insertIdx i (c.bytes v) := by
  have htarget : i + 1 + (a.count - i) ≤ a.capacity := by omega
  have hm := ha.moved hi (by omega) htarget
  have hcell : ∀ j, (a.inserted i v).cell j =
      if j = i then c.bytes v else (a.moved i a.count (i + 1)).cell j :=
    cell_overwriteCell hm (show i < a.capacity by omega) (hc v)
  apply cells_eq
  · rw [List.length_insertIdx_of_le_length (by rw [length_cells]; exact hi), length_cells]
    rfl
  · intro j hj
    have hj : j < a.count + 1 := hj
    rw [hcell, List.getElem?_insertIdx, length_cells, cell_moved ha hi (by omega) htarget]
    by_cases hlt : j < i
    · rw [if_pos hlt, getElem?_cells, if_pos (by omega), if_neg (by omega), if_neg (by omega)]
    · rw [if_neg hlt]
      by_cases heq : j = i
      · rw [if_pos heq, if_pos (by omega), if_pos heq]
      · rw [if_neg heq, if_neg heq, getElem?_cells, if_pos (by omega), if_pos (by omega)]
        congr 2
        omega

theorem insert_of_gt {i : Nat} (h : a.count < i) (v : α) :
    insert i v a = Op.raise source (.indexOutOfRange i a.count) a := by
  rw [insert, Op.state_bind, if_pos h]

/-- Once there is room, the rest of an insertion moves the elements behind the place, writes the new
one and counts it. -/
theorem insert_rest (hc : c.Sized) (ha : a.Packed) {i : Nat} (hi : i ≤ a.count)
    (h : a.count < a.capacity) (v : α) :
    (do
      let a ← Op.state
      let next ← Op.word (i + 1)
      moveElements i a.count next
      writeAt i v
      countUp) a = { outcome := .ok (), state := a.inserted i v, log := [] } := by
  have hroom := ha.count_succ_lt h
  have htarget : i + 1 + (a.count - i) ≤ a.capacity := by omega
  have hm := ha.moved hi (by omega) htarget
  have hplace : i < (a.moved i a.count (i + 1)).capacity := show i < a.capacity by omega
  have hup : countUp ((a.moved i a.count (i + 1)).overwriteCells i (c.bytes v)) =
      { outcome := .ok (), state := a.inserted i v, log := [] } := countUp_of_lt hroom
  rw [Op.state_bind, Op.word_bind_of_lt (by omega),
    Op.bind_of_ok (moveElements_eq ha hi (by omega) htarget),
    Op.bind_of_ok (writeAt_eq hc hm hplace v), hup]
  rfl

theorem insert_cases (hc : c.Sized) (ha : a.Packed) {i : Nat} (hi : i ≤ a.count) (v : α) :
    (a.Saturated ∧ ∃ t l, insert i v a = { outcome := .trapped t, state := a, log := l }) ∨
      (¬ a.Saturated ∧ ∃ b l, insert i v a = { outcome := .ok (), state := b, log := l } ∧
        b.Packed ∧ b.cells = a.cells.insertIdx i (c.bytes v)) := by
  rw [insert, Op.state_bind, if_neg (by omega)]
  obtain ⟨hfull, t, l, hrun⟩ | ⟨hfree, b, l, hrun, hb, hroom⟩ := makeRoom_cases ha
  · exact .inl ⟨hfull, t, l, by rw [Op.bind_of_trapped hrun]⟩
  · have hcount := hb.count
    have hindex : i ≤ b.count := by omega
    have hroom : b.count < b.capacity := by omega
    have hpacked := packed_inserted hc hb.packed hindex hroom v
    refine .inr ⟨hfree, b.inserted i v, l, ?_, hpacked, ?_⟩
    · rw [Op.bind_of_ok hrun, insert_rest hc hb.packed hindex hroom]
      simp [Run.after]
    · rw [cells_inserted hc hb.packed (by omega) (by omega), hb.cells]

/-- The array without the element at position `i`. -/
def removed (i : Nat) (a : HostArray c) : HostArray c :=
  { a.moved (i + 1) a.count i with count := a.count - 1 }

theorem packed_removed (ha : a.Packed) {i : Nat} (hi : i < a.count) : (a.removed i).Packed := by
  have hcount := ha.count_le
  have hm := ha.moved (show i + 1 ≤ a.count from hi) hcount
    (by omega : i + (a.count - (i + 1)) ≤ a.capacity)
  exact ⟨hm.length_storage, show a.count - 1 ≤ a.capacity by omega, hm.length_le, hm.capacity_lt⟩

theorem cells_removed (ha : a.Packed) {i : Nat} (hi : i < a.count) :
    (a.removed i).cells = a.cells.eraseIdx i := by
  have hcount := ha.count_le
  have hcell : ∀ j, (a.removed i).cell j = (a.moved (i + 1) a.count i).cell j := fun _ => rfl
  apply cells_eq
  · rw [List.length_eraseIdx_of_lt (by rw [length_cells]; exact hi), length_cells]
    rfl
  · intro j hj
    have hj : j < a.count - 1 := hj
    rw [hcell, List.getElem?_eraseIdx, cell_moved ha hi hcount (by omega)]
    by_cases hlt : j < i
    · rw [if_pos hlt, getElem?_cells, if_pos (by omega), if_neg (by omega)]
    · rw [if_neg hlt, getElem?_cells, if_pos (by omega), if_pos (by omega)]
      congr 2
      omega

theorem removeAt_of_lt (ha : a.Packed) {i : Nat} (h : i < a.count) :
    removeAt i a =
      { outcome := .ok (c.parse (a.cell i)), state := a.removed i, log := [] } := by
  have hroom : i < a.capacity := Nat.lt_of_lt_of_le h ha.count_le
  have hcount := ha.count_le
  have hword := ha.capacity_lt
  have hmove := moveElements_eq ha (show i + 1 ≤ a.count from h) hcount
    (show i + (a.count - (i + 1)) ≤ a.capacity by omega)
  have hdown : countDown (a.moved (i + 1) a.count i) =
      { outcome := .ok (), state := a.removed i, log := [] } :=
    countDown_of_pos (show 0 < a.count by omega)
  rw [removeAt, Op.bind_of_ok (checkIndex_of_lt h), Op.bind_of_ok (readAt_eq ha hroom),
    Op.state_bind, Op.word_bind_of_lt (by omega), Op.bind_of_ok hmove, Op.bind_of_ok hdown]
  rfl

theorem removeAt_of_ge {i : Nat} (h : a.count ≤ i) :
    removeAt i a = Op.raise source (.indexOutOfRange i a.count) a := by
  rw [removeAt, Op.bind_of_error (checkIndex_of_ge h)]
  rfl

/-! ## Dropping elements at the end -/

theorem Packed.truncate (ha : a.Packed) {n : Nat} (h : n ≤ a.count) :
    ({ a with count := n } : HostArray c).Packed :=
  ⟨ha.length_storage, Nat.le_trans h ha.count_le, ha.length_le, ha.capacity_lt⟩

theorem cells_truncate {n : Nat} (h : n ≤ a.count) :
    ({ a with count := n } : HostArray c).cells = a.cells.take n := by
  rw [cells, cells, ← List.map_take, List.take_range, Nat.min_eq_left h]
  rfl

end HostArray

end BufferSync
