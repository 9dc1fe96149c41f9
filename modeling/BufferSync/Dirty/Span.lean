import BufferSync.Region

/-!
# Spans of elements

A span is a range of element positions with both ends included; it holds at least one position.
Spans are what a synced array remembers about changed elements: two spans are merged into the
smallest span that holds both, and a span is cut down when elements at the end go away.  A span of
elements of a given size covers a half-open range of bytes.

Positions are machine words, so the number of positions and the byte range can leave the range of a
word; then the computation traps.
-/

namespace BufferSync

/-- A half-open range of positions, `stop` excluded. -/
structure Bounds where
  /-- First position. -/
  start : Nat
  /-- Position behind the last one. -/
  stop : Nat
deriving DecidableEq, Repr

/-- A range of positions, both ends included. -/
structure Span where
  /-- First position. -/
  first : Nat
  /-- Last position. -/
  last : Nat
  /-- There is at least one position. -/
  first_le_last : first ≤ last := by omega
deriving DecidableEq, Repr

namespace Span

/-- Component under which spans report errors. -/
def source : String := "mirror::DirtyRegionTracker"

instance : Membership Nat Span where
  mem s i := s.first ≤ i ∧ i ≤ s.last

theorem mem_iff {s : Span} {i : Nat} : i ∈ s ↔ s.first ≤ i ∧ i ≤ s.last := Iff.rfl

/-! ## Making spans -/

/-- The span from `first` to `last`; refused if they are reversed. -/
def between {σ : Type} (first last : Nat) : Op σ Span :=
  if h : first ≤ last then
    pure { first, last }
  else
    Op.raise source
      (.invalidArgument s!"dirty range start {first} is greater than end {last}")

/-- The span of one position. -/
def single (i : Nat) : Span :=
  { first := i, last := i }

/-- The span of the half-open range from `start` to `stop`, if that is not empty. -/
def ofBounds? (start stop : Nat) : Option Span :=
  if h : start < stop then
    some { first := start, last := stop - 1 }
  else
    none

/-- The span of the first `count` positions, if there are any. -/
def firstOnes? (count : Nat) : Option Span :=
  ofBounds? 0 count

/-! ## Working with spans -/

/-- The number of positions. -/
def length (s : Span) : Outcome Nat :=
  if s.last - s.first + 1 < wordLimit then .ok (s.last - s.first + 1) else .trapped .overflow

/-- Whether the span holds no position; it always holds one. -/
def isEmpty (_ : Span) : Bool :=
  false

/-- The smallest span that holds both. -/
def hull (s t : Span) : Span where
  first := min s.first t.first
  last := max s.last t.last
  first_le_last := by
    have := s.first_le_last
    omega

/-- The part of the span below `count`, if there is any. -/
def below? (s : Span) (count : Nat) : Option Span :=
  if h : s.first < count then
    some
      { first := s.first
        last := min s.last (count - 1)
        first_le_last := by
          have := s.first_le_last
          omega }
  else
    none

/-- The range of bytes that the elements of the span take, `size` bytes each. -/
def byteBounds (s : Span) (size : Nat) : Outcome Bounds :=
  if s.last + 1 < wordLimit ∧ (s.last + 1) * size < wordLimit then
    .ok { start := s.first * size, stop := (s.last + 1) * size }
  else
    .trapped .overflow

/-- The span as a term. -/
def term (s : Span) : String :=
  s!"DirtyRange \x7b min: {s.first}, max: {s.last} \x7d"

/-! ## Positions of the spans made -/

theorem mem_single {i j : Nat} : j ∈ single i ↔ j = i := by
  simp only [mem_iff, single]
  omega

theorem mem_hull_left {s t : Span} {i : Nat} (h : i ∈ s) : i ∈ s.hull t := by
  simp only [mem_iff, hull] at *
  omega

theorem mem_hull_right {s t : Span} {i : Nat} (h : i ∈ t) : i ∈ s.hull t := by
  simp only [mem_iff, hull] at *
  omega

theorem mem_of_ofBounds? {start stop i : Nat} {s : Span} (h : ofBounds? start stop = some s) :
    i ∈ s ↔ start ≤ i ∧ i < stop := by
  simp only [ofBounds?] at h
  split at h
  · obtain rfl := Option.some.inj h
    simp only [mem_iff]
    omega
  · exact absurd h (by simp)

theorem mem_of_below? {s t : Span} {count i : Nat} (h : s.below? count = some t) :
    i ∈ t ↔ i ∈ s ∧ i < count := by
  simp only [below?] at h
  split at h
  · obtain rfl := Option.some.inj h
    simp only [mem_iff]
    omega
  · exact absurd h (by simp)

end Span

end BufferSync
