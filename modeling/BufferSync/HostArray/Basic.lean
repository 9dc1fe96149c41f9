import BufferSync.Dirty.Span
import BufferSync.Element.Codec

/-!
# Host arrays

A host array keeps its elements packed in a byte region: element `i` takes the bytes from
`i * size` on, where `size` is the size of the codec.  The region has room for `capacity` elements,
of which the first `count` are populated; the bytes behind them are whatever was there before.

*Growth.*  `append` and `insert` double the capacity of a full array, `appendAll`, `resize` and
`reserve` make room for exactly what is needed, and `setCapacity` sets the capacity as asked.  Each
change of capacity is reported before it is done.  It traps if the capacity or the number of bytes
is no machine word, before the report, or if no region can be that large, after it; the array is
then as before.

*Checks.*  Every position and every number of elements that is computed is checked to be a machine
word, every access to the storage is checked to lie inside of it, and after every access to an
element the number of bytes is compared with the size of the codec.  On a packed array none of these
checks fails: what traps is growth alone.

*Invariant.*  `HostArray.Packed` says that the region has exactly the room of `capacity`
elements, that no more than these are populated, and that sizes are within their limits.

*View.*  `HostArray.toList` lists the populated elements.
-/

namespace BufferSync

/-- A growable array of packed elements. -/
structure HostArray {α : Type} (c : Codec α) where
  /-- The bytes of all elements, populated or not. -/
  storage : Bytes
  /-- Number of elements the storage has room for. -/
  capacity : Nat
  /-- Number of populated elements. -/
  count : Nat
deriving DecidableEq, Repr

namespace HostArray

variable {α : Type} {c : Codec α}

/-- Component under which host arrays report. -/
def source : String := "mirror::TypedBuffer"

/-- The representation invariant. -/
structure Packed (a : HostArray c) : Prop where
  /-- The region has the room that the capacity promises. -/
  length_storage : a.storage.length = a.capacity * c.size
  /-- Populated elements have room. -/
  count_le : a.count ≤ a.capacity
  /-- The region is possible. -/
  length_le : a.storage.length ≤ regionLimit
  /-- The capacity is a machine word. -/
  capacity_lt : a.capacity < wordLimit

/-! ## Views -/

/-- The bytes of the populated elements. -/
def populated (a : HostArray c) : Bytes :=
  a.storage.take (a.count * c.size)

/-- The element at position `i`, populated or not. -/
def element (a : HostArray c) (i : Nat) : α :=
  c.parse (Region.slice a.storage (i * c.size) c.size)

/-- The populated elements. -/
def toList (a : HostArray c) : List α :=
  (List.range a.count).map a.element

/-- Whether no element is populated. -/
def isEmpty (a : HostArray c) : Bool :=
  a.count == 0

/-- The array as a term on one line. -/
def term (a : HostArray c) : String :=
  s!"TypedBuffer \x7b element_size: {c.size}, count: {a.count}, capacity: {a.capacity} \x7d"

/-- The array as a term, one field to a line. -/
def tallTerm (a : HostArray c) : String :=
  s!"TypedBuffer \x7b\n    element_size: {c.size},\n    count: {a.count},\n" ++
    s!"    capacity: {a.capacity},\n\x7d"

/-! ## Making arrays -/

/-- An array without elements and with room for `capacity` of them. -/
def withCapacity {σ : Type} (capacity : Nat) : Op σ (HostArray c) := do
  let capacity ← Op.word capacity
  let size ← Op.word (capacity * c.size)
  Op.roomFor size
  pure { storage := Region.zeros size, capacity, count := 0 }

/-! ## Storage -/

/-- Runs an operation on the storage. -/
def onStorage {β : Type} (x : Op Bytes β) : Op (HostArray c) β :=
  Op.focus HostArray.storage (fun s a => { a with storage := s }) x

/-- Takes the bytes of the populated elements out of the storage. -/
def content : Op (HostArray c) Bytes := do
  let a ← Op.state
  let stop ← Op.word (a.count * c.size)
  onStorage (Region.fetch 0 stop)

/-- Changes the storage to room for exactly `capacity` elements.  Any region up to the limit is
taken to be available; an allocator that doubles a region to make it grow reaches the limit
earlier. -/
def reallocate (capacity : Nat) : Op (HostArray c) Unit := do
  let capacity ← Op.word capacity
  let size ← Op.word (capacity * c.size)
  let a ← Op.state
  Op.note .debug source
    s!"Reallocating storage: {a.capacity} -> {capacity} elements ({size} bytes)"
  Op.roomFor size
  Op.update fun a => { a with storage := Region.resize a.storage size, capacity }

/-- Makes room for at least `capacity` elements. -/
def reserve (capacity : Nat) : Op (HostArray c) Unit := do
  let a ← Op.state
  if a.capacity < capacity then
    reallocate capacity

/-- Makes room for exactly `capacity` elements; refused if more are populated. -/
def setCapacity (capacity : Nat) : Op (HostArray c) Unit := do
  let a ← Op.state
  if capacity < a.count then
    Op.raise source (.invalidArgument
      s!"cannot shrink below logical count: capacity {capacity} < count {a.count}")
  else if capacity ≠ a.capacity then
    reallocate capacity

/-- Makes room for one more element, by doubling the capacity of a full array. -/
def makeRoom : Op (HostArray c) Unit := do
  let a ← Op.state
  if a.count = a.capacity then
    let doubled ← Op.word (a.capacity * 2)
    reallocate (max doubled 1)

/-- Writes an element at position `i`. -/
def writeAt (i : Nat) (v : α) : Op (HostArray c) Unit := do
  let offset ← Op.word (i * c.size)
  let written ← onStorage (c.encode v offset)
  Op.require (written = c.size) .miscounted

/-- Reads the element at position `i`. -/
def readAt (i : Nat) : Op (HostArray c) α := do
  let a ← Op.state
  let offset ← Op.word (i * c.size)
  let (v, taken) ← Op.ofOutcome (c.decode a.storage offset)
  Op.require (taken = c.size) .miscounted
  pure v

/-- Copies the elements from position `start` up to `stop` to the positions from `target` on. -/
def moveElements (start stop target : Nat) : Op (HostArray c) Unit := do
  let first ← Op.word (start * c.size)
  let last ← Op.word (stop * c.size)
  let goal ← Op.word (target * c.size)
  onStorage (Region.copyWithin first last goal)

/-- Counts one more populated element. -/
def countUp : Op (HostArray c) Unit := do
  let a ← Op.state
  let count ← Op.word (a.count + 1)
  Op.update fun a => { a with count }

/-- Counts one populated element less. -/
def countDown : Op (HostArray c) Unit := do
  let a ← Op.state
  let count ← Op.difference a.count 1
  Op.update fun a => { a with count }

/-! ## Elements -/

/-- Refuses positions that are not populated. -/
def checkIndex (i : Nat) : Op (HostArray c) Unit := do
  let a ← Op.state
  if a.count ≤ i then
    Op.raise source (.indexOutOfRange i a.count)

/-- The element at position `i`. -/
def get (i : Nat) : Op (HostArray c) α := do
  checkIndex i
  readAt i

/-- Replaces the element at position `i`. -/
def set (i : Nat) (v : α) : Op (HostArray c) Unit := do
  checkIndex i
  writeAt i v

/-- Adds an element at the end and gives its position. -/
def append (v : α) : Op (HostArray c) Nat := do
  makeRoom
  let a ← Op.state
  writeAt a.count v
  countUp
  pure a.count

/-- Adds elements at the end, after making room for all of them at once; gives their positions. -/
def appendAll (vs : List α) : Op (HostArray c) Bounds := do
  let a ← Op.state
  let needed ← Op.word (a.count + vs.length)
  reserve needed
  Op.each (fun v => do let _ ← append v) vs
  let b ← Op.state
  pure { start := a.count, stop := b.count }

/-- Puts an element in front of position `i`; the elements from there on move up by one. -/
def insert (i : Nat) (v : α) : Op (HostArray c) Unit := do
  let a ← Op.state
  if a.count < i then
    Op.raise source (.indexOutOfRange i a.count)
  else
    makeRoom
    let a ← Op.state
    let next ← Op.word (i + 1)
    moveElements i a.count next
    writeAt i v
    countUp

/-- Takes the element at position `i` out and gives it; the elements behind it move down by one. -/
def removeAt (i : Nat) : Op (HostArray c) α := do
  checkIndex i
  let v ← readAt i
  let a ← Op.state
  let next ← Op.word (i + 1)
  moveElements next a.count i
  countDown
  pure v

/-- Keeps the first `length` elements. -/
def truncate (length : Nat) : Op (HostArray c) Unit :=
  Op.update fun a => { a with count := min a.count length }

/-- Writes copies of an element behind the populated ones, `n` of them. -/
def fill (n : Nat) (v : α) : Op (HostArray c) Unit :=
  Op.times n do
    let a ← Op.state
    writeAt a.count v
    countUp

/-- Makes the number of elements `length`: drops elements at the end or adds copies of `v`. -/
def resize (length : Nat) (v : α) : Op (HostArray c) Unit := do
  let a ← Op.state
  if length ≤ a.count then
    truncate length
  else
    reserve length
    fill (length - a.count) v

/-- Drops all elements and keeps the storage. -/
def clear : Op (HostArray c) Unit :=
  Op.update fun a => { a with count := 0 }

/-- The array of the given elements. -/
def ofList {σ : Type} (vs : List α) : Op σ (HostArray c) := do
  let fresh ← withCapacity 0
  let (_, a) ← Op.beside fresh (Op.onFst (appendAll vs))
  pure a

end HostArray

end BufferSync
