import BufferSync.Operation

/-!
# Byte regions

A region is a string of bytes that is read and written at byte positions.  `Region.slice` reads,
`Region.overwrite` writes, and `Region.resize` cuts off the end or adds zero bytes.  A write that
lies inside the region keeps its length and every byte outside the written range.

Sizes and indices are natural numbers.  What a machine word can hold is checked where a size is
computed: `Op.word` traps from `wordLimit` on, `Op.difference` traps below zero, and `Op.roomFor`
traps above `regionLimit`, the largest region an address space can offer.

*Accesses.*  `Region.put`, `Region.fetch` and `Region.copyWithin` are the accesses to a region that
is the state of an operation.  Each of them first checks that its bytes lie inside the region, and
traps if they do not.  This covers the position behind the last byte: one that is no machine word
lies behind the end of every region that there can be.
-/

namespace BufferSync

/-- A string of bytes. -/
abbrev Bytes : Type := List UInt8

/-- Sizes and indices stay below this number. -/
def wordLimit : Nat := Nat.pow 2 64

/-- No region has more bytes than this. -/
def regionLimit : Nat := Nat.pow 2 63 - 1

theorem regionLimit_lt_wordLimit : regionLimit < wordLimit := by
  decide

namespace Op

variable {σ : Type}

/-- Gives `n` if it fits a machine word. -/
def word (n : Nat) : Op σ Nat :=
  if n < wordLimit then pure n else trap .overflow

/-- Ends well if a region may have `n` bytes. -/
def roomFor (n : Nat) : Op σ Unit :=
  if n ≤ regionLimit then pure () else trap .regionTooLarge

/-- Breaks down with the cause `t` unless `p` holds. -/
def require (p : Prop) [Decidable p] (t : Trap) : Op σ Unit :=
  if p then pure () else trap t

/-- Gives `m - n` if that is not negative. -/
def difference (m n : Nat) : Op σ Nat := do
  require (n ≤ m) .overflow
  pure (m - n)

theorem word_of_lt {n : Nat} (h : n < wordLimit) : (word n : Op σ Nat) = pure n := by
  simp [word, h]

theorem roomFor_of_le {n : Nat} (h : n ≤ regionLimit) : (roomFor n : Op σ Unit) = pure () := by
  simp [roomFor, h]

theorem require_bind_of {α : Type} {p : Prop} [Decidable p] (h : p) (t : Trap)
    (f : Unit → Op σ α) : require p t >>= f = f () := by
  rw [require, if_pos h, pure_bind]

theorem require_bind_of_not {α : Type} {p : Prop} [Decidable p] (h : ¬ p) (t : Trap)
    (f : Unit → Op σ α) : require p t >>= f = trap t := by
  funext s
  rw [require, if_neg h]
  rfl

theorem difference_of_le {m n : Nat} (h : n ≤ m) : (difference m n : Op σ Nat) = pure (m - n) := by
  rw [difference, require_bind_of h]

theorem difference_add_left (m n : Nat) : (difference (m + n) m : Op σ Nat) = pure n := by
  rw [difference_of_le (Nat.le_add_right m n), Nat.add_sub_cancel_left]

end Op

namespace Region

/-- A region of `n` zero bytes. -/
def zeros (n : Nat) : Bytes :=
  List.replicate n 0

/-- The `len` bytes from position `start` on. -/
def slice (region : Bytes) (start len : Nat) : Bytes :=
  (region.drop start).take len

/-- The region with `new` written over it from position `start` on. -/
def overwrite (region : Bytes) (start : Nat) (new : Bytes) : Bytes :=
  region.take start ++ new ++ region.drop (start + new.length)

/-- The region cut off at `n` bytes, or continued by zero bytes up to them. -/
def resize (region : Bytes) (n : Nat) : Bytes :=
  region.take n ++ zeros (n - region.length)

/-! ## Accesses -/

/-- Writes `new` from position `offset` on and gives the position behind it. -/
def put (offset : Nat) (new : Bytes) : Op Bytes Nat := do
  let region ← Op.state
  Op.require (offset + new.length ≤ region.length) .outsideRegion
  Op.update fun r => overwrite r offset new
  pure (offset + new.length)

/-- Writes strings one behind the other from position `offset` on, each as a whole, and gives the
position behind the last one. -/
def putAll (offset : Nat) : List Bytes → Op Bytes Nat
  | [] => pure offset
  | new :: rest => do
    let offset ← put offset new
    putAll offset rest

/-- Reads the `len` bytes from position `offset` on. -/
def fetch (offset len : Nat) : Op Bytes Bytes := do
  let region ← Op.state
  Op.require (offset + len ≤ region.length) .outsideRegion
  pure (slice region offset len)

/-- Copies the bytes from position `start` up to `stop` to the positions from `target` on.  The two
ranges may overlap: all bytes are read before the first one is written. -/
def copyWithin (start stop target : Nat) : Op Bytes Unit := do
  let region ← Op.state
  Op.require (start ≤ stop) .outsideRegion
  Op.require (stop ≤ region.length) .outsideRegion
  Op.require (target ≤ region.length - (stop - start)) .outsideRegion
  Op.update fun r => overwrite r target (slice r start (stop - start))

/-! ## Lengths and reads -/

@[simp] theorem length_zeros (n : Nat) : (zeros n).length = n := by
  simp [zeros]

theorem length_slice {region : Bytes} {start len : Nat} (h : start + len ≤ region.length) :
    (slice region start len).length = len := by
  simp only [slice, List.length_take, List.length_drop]
  omega

theorem length_overwrite {region new : Bytes} {start : Nat}
    (h : start + new.length ≤ region.length) :
    (overwrite region start new).length = region.length := by
  simp only [overwrite, List.length_append, List.length_take, List.length_drop]
  omega

@[simp] theorem length_resize (region : Bytes) (n : Nat) : (resize region n).length = n := by
  simp only [resize, List.length_append, List.length_take, length_zeros]
  omega

/-- What was written is read back. -/
theorem slice_overwrite {region new : Bytes} {start : Nat}
    (h : start + new.length ≤ region.length) :
    slice (overwrite region start new) start new.length = new := by
  have hlen : (region.take start).length = start := by
    rw [List.length_take]
    omega
  simp only [slice, overwrite, List.append_assoc]
  rw [List.drop_append_of_le_length (by omega), List.drop_of_length_le (by omega), List.nil_append,
    List.take_append_of_le_length (by omega), List.take_length]

theorem getElem?_slice (region : Bytes) (start len k : Nat) :
    (slice region start len)[k]? = if k < len then region[start + k]? else none := by
  rw [slice, List.getElem?_take]
  split
  · rw [List.getElem?_drop]
  · rfl

theorem slice_slice {region : Bytes} {start len p n : Nat} (h : p + n ≤ len) :
    slice (slice region start len) p n = slice region (start + p) n := by
  apply List.ext_getElem?
  intro k
  simp only [getElem?_slice]
  split
  · rw [if_pos (by omega), Nat.add_assoc]
  · rfl

/-! ## What accesses do -/

section Accesses

variable {region new : Bytes} {offset len : Nat}

theorem put_of_le (h : offset + new.length ≤ region.length) :
    put offset new region =
      { outcome := .ok (offset + new.length)
        state := overwrite region offset new
        log := [] } := by
  change (Op.require _ _ >>= _) region = _
  rw [Op.require_bind_of h]
  rfl

theorem put_of_gt (h : region.length < offset + new.length) :
    put offset new region = { outcome := .trapped .outsideRegion, state := region, log := [] } := by
  change (Op.require _ _ >>= _) region = _
  rw [Op.require_bind_of_not (Nat.not_le.mpr h)]
  rfl

/-- A write gives the position behind it. -/
theorem put_bind {α : Type} (offset : Nat) (new : Bytes) (f : Nat → Op Bytes α) :
    put offset new >>= f = put offset new >>= fun _ => f (offset + new.length) := by
  simp only [put, Op.bind_assoc, Op.pure_bind]

theorem putAll_append (offset : Nat) (first rest : List Bytes) :
    putAll offset (first ++ rest) = putAll offset first >>= fun stop => putAll stop rest := by
  induction first generalizing offset with
  | nil => rw [List.nil_append, putAll, Op.pure_bind]
  | cons new first ih =>
    simp only [List.cons_append, putAll, ih, Op.bind_assoc]

theorem putAll_singleton (offset : Nat) (new : Bytes) : putAll offset [new] = put offset new := by
  simp only [putAll, bind_pure]

theorem fetch_of_le (h : offset + len ≤ region.length) :
    fetch offset len region =
      { outcome := .ok (slice region offset len), state := region, log := [] } := by
  change (Op.require _ _ >>= _) region = _
  rw [Op.require_bind_of h]
  rfl

theorem fetch_of_gt (h : region.length < offset + len) :
    fetch offset len region =
      { outcome := .trapped .outsideRegion, state := region, log := [] } := by
  change (Op.require _ _ >>= _) region = _
  rw [Op.require_bind_of_not (Nat.not_le.mpr h)]
  rfl

/-- What comes behind a read matters only for strings of the length that was asked for. -/
theorem fetch_bind_congr {α : Type} {f g : Bytes → Op Bytes α}
    (h : ∀ bytes : Bytes, bytes.length = len → f bytes = g bytes) :
    fetch offset len >>= f = fetch offset len >>= g := by
  funext region
  by_cases hin : offset + len ≤ region.length
  · rw [Op.bind_of_ok (fetch_of_le hin), Op.bind_of_ok (fetch_of_le hin), h _ (length_slice hin)]
  · have hrun := fetch_of_gt (Nat.not_le.mp hin)
    rw [Op.bind_of_trapped hrun, Op.bind_of_trapped hrun]

/-- Two reads, one behind the other, are one read. -/
theorem fetch_fetch {α : Type} (offset m n : Nat) (f : Bytes → Bytes → Op Bytes α) :
    (fetch offset m >>= fun first => fetch (offset + m) n >>= fun second => f first second) =
      fetch offset (m + n) >>= fun both => f (slice both 0 m) (slice both m n) := by
  funext region
  by_cases hfirst : offset + m ≤ region.length
  · rw [Op.bind_of_ok (fetch_of_le hfirst)]
    by_cases hboth : offset + m + n ≤ region.length
    · rw [Op.bind_of_ok (fetch_of_le hboth), Op.bind_of_ok (fetch_of_le (by omega)),
        slice_slice (by omega), slice_slice (by omega)]
      rfl
    · rw [Op.bind_of_trapped (fetch_of_gt (by omega)), Op.bind_of_trapped (fetch_of_gt (by omega))]
      rfl
  · rw [Op.bind_of_trapped (fetch_of_gt (by omega)), Op.bind_of_trapped (fetch_of_gt (by omega))]

theorem copyWithin_of_le {start stop target : Nat} (hstart : start ≤ stop)
    (hstop : stop ≤ region.length) (htarget : target + (stop - start) ≤ region.length) :
    copyWithin start stop target region =
      { outcome := .ok ()
        state := overwrite region target (slice region start (stop - start))
        log := [] } := by
  change (Op.require _ _ >>= _) region = _
  rw [Op.require_bind_of hstart, Op.require_bind_of hstop, Op.require_bind_of (by omega)]
  rfl

end Accesses

end Region

end BufferSync
