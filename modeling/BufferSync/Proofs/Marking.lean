import BufferSync.Proofs.ElementCalls

/-!
# What marks cover

Marks *cover* the positions of their span.  They stay *below* a number of elements if their last
position does, and they are *full* if they cover all positions below it.  Widening and cutting marks
keeps these three as one would expect.

For a synced array, whatever is marked after a call has to be full if the array has outgrown its
allocation, because then nothing on the device can be kept.
-/

namespace BufferSync

theorem Span.firstOnes?_of_pos {n : Nat} (hpos : 0 < n) :
    Span.firstOnes? n = some { first := 0, last := n - 1 } := by
  rw [firstOnes?, ofBounds?, dif_pos hpos]

namespace Marks

variable {m : Marks} {s : Span} {i n k : Nat}

/-- Position `i` is marked. -/
def Covers (m : Marks) (i : Nat) : Prop :=
  ∃ s, m.span = some s ∧ i ∈ s

/-- No position from `n` on is marked. -/
def Below (m : Marks) (n : Nat) : Prop :=
  ∀ s, m.span = some s → s.last < n

/-- All positions below `n` are marked, and no others. -/
def Full (m : Marks) (n : Nat) : Prop :=
  m.span = Span.firstOnes? n

theorem covers_mark_of_mem (m : Marks) (h : i ∈ s) : (m.mark s).Covers i := by
  rw [mark]
  split
  · exact ⟨_, rfl, Span.mem_hull_right h⟩
  · exact ⟨_, rfl, h⟩

theorem Covers.mark (h : m.Covers i) (s : Span) : (m.mark s).Covers i := by
  obtain ⟨t, ht, hi⟩ := h
  rw [Marks.mark, ht]
  exact ⟨_, rfl, Span.mem_hull_left hi⟩

theorem Below.mark (h : m.Below n) (hs : s.last < n) : (m.mark s).Below n := by
  intro u hu
  rw [Marks.mark] at hu
  split at hu
  next t ht =>
    obtain rfl := Option.some.inj hu
    have := h t ht
    simp only [Span.hull]
    omega
  next =>
    obtain rfl := Option.some.inj hu
    exact hs

theorem below_clean (n : Nat) : Marks.clean.Below n := by
  intro s hs
  cases hs

theorem Below.mono (h : m.Below n) (hnk : n ≤ k) : m.Below k :=
  fun s hs => Nat.lt_of_lt_of_le (h s hs) hnk

/-- The marks without a position cover nothing. -/
theorem Below.span_eq_none (h : m.Below 0) : m.span = none := by
  cases hspan : m.span with
  | none => rfl
  | some s => exact absurd (h s hspan) (Nat.not_lt_zero _)

theorem Full.covers (h : m.Full n) (hi : i < n) : m.Covers i := by
  have hpos : 0 < n := by omega
  refine ⟨{ first := 0, last := n - 1 }, ?_, Nat.zero_le _, Nat.le_sub_one_of_lt hi⟩
  rw [h, Span.firstOnes?_of_pos hpos]

/-- Marks below `n` that are widened by all positions below `n` are full. -/
theorem Below.full_mark? (h : m.Below n) : (m.mark? (Span.firstOnes? n)).Full n := by
  rw [Full, Span.firstOnes?, Span.ofBounds?]
  split
  next hpos =>
    rw [mark?, Marks.mark]
    split
    next t ht =>
      have hlast := h t ht
      have hfirst := t.first_le_last
      simp only [Span.hull, Option.some.injEq, Span.mk.injEq]
      omega
    next => rfl
  next hpos =>
    obtain rfl : n = 0 := by omega
    exact h.span_eq_none

theorem Full.mark (h : m.Full n) (hs : s.last < n) : (m.mark s).Full n := by
  have hpos : 0 < n := by omega
  rw [Full, Span.firstOnes?_of_pos hpos] at *
  rw [Marks.mark, h]
  simp only [Span.hull, Option.some.injEq, Span.mk.injEq]
  omega

theorem Full.below (h : m.Full n) : m.Below n := by
  intro s hs
  rw [h, Span.firstOnes?, Span.ofBounds?] at hs
  split at hs
  next hpos =>
    obtain rfl := Option.some.inj hs
    simp only
    omega
  next => cases hs

/-! ## Marking one by one -/

theorem Below.foldl_markIndex {is : List Nat} (h : m.Below n) (his : ∀ i ∈ is, i < n) :
    (is.foldl markIndex m).Below n := by
  induction is generalizing m with
  | nil => exact h
  | cons j rest ih =>
    rw [List.forall_mem_cons] at his
    exact ih (h.mark his.1) his.2

theorem covers_foldl_markIndex {is : List Nat} (h : m.Covers i ∨ i ∈ is) :
    (is.foldl markIndex m).Covers i := by
  induction is generalizing m with
  | nil => exact h.resolve_right List.not_mem_nil
  | cons j rest ih =>
    apply ih
    rcases h with h | h
    · exact .inl (h.mark _)
    · rcases List.mem_cons.mp h with rfl | h
      · exact .inl (covers_mark_of_mem m (Span.mem_single.mpr rfl))
      · exact .inr h

theorem Below.full_of_covers (h : m.Below n) (hall : ∀ i < n, m.Covers i) : m.Full n := by
  rcases Nat.eq_zero_or_pos n with rfl | hpos
  · exact h.span_eq_none
  · obtain ⟨s, hs, hfirst⟩ := hall 0 hpos
    obtain ⟨t, ht, hlast⟩ := hall (n - 1) (by omega)
    obtain rfl := Option.some.inj (hs.symm.trans ht)
    have hbelow := h s hs
    rw [Span.mem_iff] at hfirst hlast
    rw [Full, Span.firstOnes?_of_pos hpos, hs]
    cases s
    simp only [Option.some.injEq, Span.mk.injEq] at *
    omega

/-- Marks below `n` are full when every position below `n` was marked. -/
theorem Below.full_foldl_range (h : m.Below n) :
    ((List.range n).foldl markIndex m).Full n := by
  apply (h.foldl_markIndex fun i hi => List.mem_range.mp hi).full_of_covers
  intro i hi
  exact covers_foldl_markIndex (.inr (List.mem_range.mpr hi))

/-! ## Cutting -/

theorem Covers.truncate (h : m.Covers i) (hi : i < n) : (m.truncate n).Covers i := by
  obtain ⟨s, hs, hmem⟩ := h
  cases hb : s.below? n with
  | none =>
    rw [Span.below?] at hb
    split at hb
    · cases hb
    next hlt => exact absurd (Nat.lt_of_le_of_lt hmem.1 hi) hlt
  | some t =>
    refine ⟨t, ?_, (Span.mem_of_below? hb).mpr ⟨hmem, hi⟩⟩
    rw [Marks.truncate, hs]
    exact hb

theorem Below.truncate (h : m.Below n) (k : Nat) : (m.truncate k).Below (min n k) := by
  intro t ht
  rw [Marks.truncate] at ht
  obtain ⟨s, hs, hb⟩ := Option.bind_eq_some_iff.mp ht
  have hlast := h s hs
  rw [Span.below?] at hb
  split at hb
  next hlt =>
    obtain rfl := Option.some.inj hb
    simp only
    omega
  next => cases hb

/-- Cutting where nothing is marked changes nothing. -/
theorem Below.truncate_eq (h : m.Below n) (hk : n ≤ k) : m.truncate k = m := by
  rw [Marks.truncate]
  cases hs : m.span with
  | none => exact congrArg Marks.mk hs.symm
  | some s =>
    have hlast := h s hs
    have hfirst := s.first_le_last
    have hmin : min s.last (k - 1) = s.last := by omega
    have hcut : s.below? k = some s := by
      simp only [Span.below?, hmin]
      exact dif_pos (by omega)
    rw [Option.bind_some, hcut]
    exact congrArg Marks.mk hs.symm

theorem Full.truncate (h : m.Full n) (k : Nat) : (m.truncate k).Full (min n k) := by
  rw [Full, Marks.truncate, h]
  simp only [Span.firstOnes?, Span.ofBounds?]
  by_cases hn : 0 < n
  · rw [dif_pos hn]
    simp only [Option.bind_some, Span.below?]
    by_cases hk : 0 < k
    · rw [dif_pos hk, dif_pos (by omega)]
      simp only [Option.some.injEq, Span.mk.injEq, true_and]
      omega
    · rw [dif_neg hk, dif_neg (by omega)]
  · rw [dif_neg hn, dif_neg (by omega)]
    rfl

end Marks

namespace SyncedArray

variable {α : Type} {c : Codec α} {a : SyncedArray c} {i n : Nat}

/-- The marks lie below the number of elements and are full if the array has outgrown its
allocation. -/
structure WellMarked (a : SyncedArray c) : Prop where
  /-- Only elements are marked. -/
  below : a.marks.Below a.host.count
  /-- All elements are marked if the allocation is too small. -/
  full : a.outgrown = true → a.marks.Full a.host.count

theorem wellMarked_markAll (hb : a.marks.Below a.host.count) : a.markAll.WellMarked :=
  ⟨hb.full_mark?.below, fun _ => hb.full_mark?⟩

theorem Covers.markAll {i : Nat} (h : a.marks.Covers i) : a.markAll.marks.Covers i := by
  rw [SyncedArray.markAll]
  cases Span.firstOnes? a.host.count with
  | none => exact h
  | some s => exact h.mark s

/-- Within its allocation an array marks what was written and nothing else. -/
theorem markWritten_of_fits (ho : a.outgrown = false) (start stop : Nat) :
    a.markWritten start stop =
      { a with marks := a.marks.mark? (Span.ofBounds? start stop) } := by
  rw [markWritten]
  cases Span.ofBounds? start stop with
  | none => rfl
  | some s => exact if_neg (by rw [ho]; exact Bool.false_ne_true)

/-- Marking what was written makes an array well marked. -/
theorem wellMarked_markWritten {start stop : Nat} (hb : a.marks.Below a.host.count)
    (hstart : start < stop) (hstop : stop ≤ a.host.count) :
    (a.markWritten start stop).WellMarked ∧
      (∀ i, start ≤ i → i < stop → (a.markWritten start stop).marks.Covers i) ∧
      ∀ i, a.marks.Covers i → (a.markWritten start stop).marks.Covers i := by
  have hspan : Span.ofBounds? start stop = some { first := start, last := stop - 1 } :=
    dif_pos hstart
  rw [markWritten, hspan]
  simp only
  split
  next hout =>
    refine ⟨wellMarked_markAll hb, ?_, fun i hi => Covers.markAll hi⟩
    intro i _ hi
    have hfull : a.markAll.marks.Full a.host.count := hb.full_mark?
    exact hfull.covers (Nat.lt_of_lt_of_le hi hstop)
  next hout =>
    refine ⟨⟨hb.mark (by simp only; omega), fun h => absurd h hout⟩, ?_, fun i hi => hi.mark _⟩
    intro i hi hi'
    exact Marks.covers_mark_of_mem _ ⟨hi, Nat.le_sub_one_of_lt hi'⟩

theorem wellMarked_markOutgrown (hb : a.marks.Below a.host.count) :
    a.markOutgrown.WellMarked ∧ ∀ i, a.marks.Covers i → a.markOutgrown.marks.Covers i := by
  rw [markOutgrown]
  split
  next => exact ⟨wellMarked_markAll hb, fun i hi => Covers.markAll hi⟩
  next hout => exact ⟨⟨hb, fun h => absurd h hout⟩, fun i hi => hi⟩

end SyncedArray

end BufferSync
