import BufferSync.Dirty.Span
import Mathlib.Data.Set.Card
import Mathlib.Order.Interval.Finset.Nat

/-!
# Spans made from machine words

A span is given by its two ends, and all that is computed from it has to stay a machine word: the
number of its positions, and the bytes that its elements take.  This module says for every span that
can be made from machine words what the computations give and when they trap.

*Which spans these are.*  However spans are made, merged and cut, the last position stays a word
(`Made.last_lt`).  Nothing else is asked of them: the first position is a word because it is not
greater.

*Ends and positions.*  The laws are about positions and not about ends.  The hull of two spans lies
inside a span exactly if both of them do.  A cut keeps just the positions below it.  A byte lies in
the byte range exactly if its element lies in the span, and a division finds the element of a byte.

*Traps.*  The number of positions is one more than a difference of words, so it overflows for the
span of all words only.  The end of the byte range is computed from the position behind the last
one, which is no word any more if the last one is the greatest word.
-/

namespace BufferSync.Span

variable {s t u : Span} {first last start stop count size i : Nat}

/-! ## Making spans -/

/-- A span that is made has the ends that it was asked for. -/
theorem outcome_between_iff {σ : Type} {state : σ} :
    (between first last state).outcome = .ok s ↔ s.first = first ∧ s.last = last := by
  have hs := s.first_le_last
  rw [between]
  split
  next h =>
    rw [Op.pure_apply]
    constructor
    · rintro ⟨⟩
      exact ⟨rfl, rfl⟩
    · rintro ⟨rfl, rfl⟩
      rfl
  next h =>
    rw [Op.raise_apply]
    constructor
    · intro hok
      cases hok
    · rintro ⟨rfl, rfl⟩
      exact absurd hs h

/-- A span that was made from machine words, in any number of steps. -/
inductive Made : Span → Prop
  /-- From its ends. -/
  | between {first last : Nat} {s : Span} (firstWord : first < wordLimit)
      (lastWord : last < wordLimit) (made : (between first last ()).outcome = .ok s) : Made s
  /-- From its only position. -/
  | single {i : Nat} (word : i < wordLimit) : Made (single i)
  /-- From a half-open range. -/
  | ofBounds {start stop : Nat} {s : Span} (startWord : start < wordLimit)
      (stopWord : stop < wordLimit) (made : ofBounds? start stop = some s) : Made s
  /-- From the number of its positions, all from zero on. -/
  | firstOnes {count : Nat} {s : Span} (word : count < wordLimit)
      (made : firstOnes? count = some s) : Made s
  /-- From two spans, by merging them. -/
  | hull {s t : Span} (left : Made s) (right : Made t) : Made (s.hull t)
  /-- From a span, by cutting it. -/
  | cut {s t : Span} {count : Nat} (whole : Made s) (word : count < wordLimit)
      (made : s.below? count = some t) : Made t

/-- The ends of the span of a half-open range. -/
theorem ofBounds?_eq_some_iff :
    ofBounds? start stop = some s ↔ s.first = start ∧ s.last + 1 = stop := by
  have hs := s.first_le_last
  rw [ofBounds?]
  split
  next h =>
    rw [Option.some.injEq]
    constructor
    · rintro rfl
      exact ⟨rfl, by simp only; omega⟩
    · rintro ⟨rfl, rfl⟩
      rfl
  next h =>
    constructor
    · intro hnone
      cases hnone
    · omega

/-- The ends of a cut. -/
theorem below?_eq_some_iff :
    s.below? count = some t ↔
      s.first < count ∧ t.first = s.first ∧ t.last = min s.last (count - 1) := by
  rw [below?]
  split
  next h =>
    rw [Option.some.injEq]
    constructor
    · rintro rfl
      exact ⟨h, rfl, rfl⟩
    · rintro ⟨-, hfirst, hlast⟩
      cases t
      simp_all
  next h =>
    constructor
    · intro hnone
      cases hnone
    · rintro ⟨hlt, -⟩
      exact absurd hlt h

/-- However a span is made from machine words, its last position is one. -/
theorem Made.last_lt (hs : Made s) : s.last < wordLimit := by
  induction hs with
  | between firstWord lastWord made =>
    rw [(outcome_between_iff.mp made).2]
    exact lastWord
  | single word => exact word
  | ofBounds startWord stopWord made =>
    have hstop := (ofBounds?_eq_some_iff.mp made).2
    omega
  | firstOnes word made =>
    have hcount := (ofBounds?_eq_some_iff.mp made).2
    omega
  | hull left right hleft hright => exact Nat.max_lt.mpr ⟨hleft, hright⟩
  | cut whole word made hwhole =>
    have hlast := (below?_eq_some_iff.mp made).2.2
    omega

/-! ## Positions -/

/-- The hull is the smallest span that holds both. -/
theorem hull_subset_iff :
    (∀ i ∈ s.hull t, i ∈ u) ↔ (∀ i ∈ s, i ∈ u) ∧ ∀ i ∈ t, i ∈ u := by
  have hs := s.first_le_last
  have ht := t.first_le_last
  constructor
  · intro h
    exact ⟨fun i hi => h i (mem_hull_left hi), fun i hi => h i (mem_hull_right hi)⟩
  · rintro ⟨hsu, htu⟩ i hi
    -- The ends of the hull are ends of the two spans, and those lie in `u`.
    have hsfirst := hsu s.first ⟨Nat.le_refl _, hs⟩
    have hslast := hsu s.last ⟨hs, Nat.le_refl _⟩
    have htfirst := htu t.first ⟨Nat.le_refl _, ht⟩
    have htlast := htu t.last ⟨ht, Nat.le_refl _⟩
    simp only [mem_iff, hull] at *
    omega

/-- Nothing is left of a span exactly if all its positions lie behind the cut. -/
theorem below?_eq_none_iff : s.below? count = none ↔ ∀ i ∈ s, count ≤ i := by
  have hs := s.first_le_last
  rw [below?]
  constructor
  · intro h i hi
    split at h
    · cases h
    next hcount => exact Nat.le_trans (Nat.not_lt.mp hcount) hi.1
  · intro h
    exact dif_neg (Nat.not_lt.mpr (h s.first ⟨Nat.le_refl _, hs⟩))

/-- The number of positions, counted. -/
theorem ncard_positions (s : Span) : {i | i ∈ s}.ncard = s.last - s.first + 1 := by
  have hs := s.first_le_last
  have hset : {i | i ∈ s} = (Finset.Icc s.first s.last : Set Nat) := by
    ext i
    rw [Finset.coe_Icc]
    rfl
  rw [hset, Set.ncard_coe_finset, Nat.card_Icc]
  omega

/-- The number of positions is computed, unless the span holds all words. -/
theorem length_eq (hlast : s.last < wordLimit) :
    s.length =
      if s.first = 0 ∧ s.last = wordLimit - 1 then .trapped .overflow
      else .ok {i | i ∈ s}.ncard := by
  have hs := s.first_le_last
  rw [ncard_positions, length]
  by_cases hall : s.first = 0 ∧ s.last = wordLimit - 1
  · rw [if_pos hall, if_neg (by omega)]
  · rw [if_neg hall, if_pos (by omega)]

/-! ## Bytes -/

/-- The bytes in the range are those of the elements in the span, `size` bytes each. -/
structure SpreadOver (s : Span) (size : Nat) (b : Bounds) : Prop where
  /-- A byte lies in the range if its element lies in the span. -/
  mem_iff : 0 < size → ∀ p, (b.start ≤ p ∧ p < b.stop) ↔ p / size ∈ s
  /-- There are as many bytes as the elements of the span take. -/
  length : ∃ n, s.length = .ok n ∧ b.stop = b.start + n * size

/-- The byte range leaves the machine words. -/
def BytesOverflow (s : Span) (size : Nat) : Prop :=
  s.last = wordLimit - 1 ∨ wordLimit ≤ (s.last + 1) * size

theorem byteBounds_of_overflow (h : s.BytesOverflow size) :
    s.byteBounds size = .trapped .overflow := by
  have hpos : 0 < wordLimit := by decide
  rw [byteBounds, if_neg]
  rintro ⟨hlast, hbytes⟩
  rcases h with h | h <;> omega

/-- An element lies in the span exactly if its bytes lie in the byte range. -/
theorem div_mem_iff (hsize : 0 < size) (p : Nat) :
    (s.first * size ≤ p ∧ p < (s.last + 1) * size) ↔ p / size ∈ s := by
  have hlast : p / size ≤ s.last ↔ p < (s.last + 1) * size := by
    rw [← Nat.lt_add_one_iff, Nat.div_lt_iff_lt_mul hsize]
  rw [Span.mem_iff, Nat.le_div_iff_mul_le hsize, hlast]

theorem spreadOver_bytes (hlast : s.last + 1 < wordLimit) (size : Nat) :
    s.SpreadOver size { start := s.first * size, stop := (s.last + 1) * size } where
  mem_iff hsize p := div_mem_iff hsize p
  length := by
    have hs := s.first_le_last
    have hcount : s.last + 1 = s.first + (s.last - s.first + 1) := by omega
    refine ⟨s.last - s.first + 1, if_pos (by omega), ?_⟩
    simp only
    rw [← Nat.add_mul, ← hcount]

theorem byteBounds_of_not_overflow (hlast : s.last < wordLimit) (h : ¬ s.BytesOverflow size) :
    ∃ b, s.byteBounds size = .ok b ∧ s.SpreadOver size b := by
  rw [BytesOverflow, not_or] at h
  have hword : s.last + 1 < wordLimit := by omega
  exact ⟨_, if_pos ⟨hword, Nat.not_le.mp h.2⟩, spreadOver_bytes hword size⟩

/-- What is computed from spans that were made from machine words.

The first position is not behind the last one, which is a word.  The hull of two spans is the
smallest one that holds both, a cut holds just the positions in front of it, and the number of
positions is what counting them gives, unless the span holds all words.  The byte range of the
elements overflows exactly if the position behind the last one or the byte behind the last one is no
word; otherwise it holds just the bytes of the elements, and as many as they take. -/
theorem word_arithmetic (hs : Made s) (count size : Nat) :
    (s.first ≤ s.last ∧ s.last < wordLimit) ∧
    (∀ t u : Span, (∀ i ∈ s.hull t, i ∈ u) ↔ (∀ i ∈ s, i ∈ u) ∧ ∀ i ∈ t, i ∈ u) ∧
    (s.below? count = none ↔ ∀ i ∈ s, ¬ i < count) ∧
    (∀ u, s.below? count = some u → ∀ i, i ∈ u ↔ i ∈ s ∧ i < count) ∧
    s.length = (if s.first = 0 ∧ s.last = wordLimit - 1 then .trapped .overflow
      else .ok {i | i ∈ s}.ncard) ∧
    (s.BytesOverflow size → s.byteBounds size = .trapped .overflow) ∧
    (¬ s.BytesOverflow size → ∃ b, s.byteBounds size = .ok b ∧ s.SpreadOver size b) := by
  have hlast := hs.last_lt
  refine ⟨⟨s.first_le_last, hlast⟩, fun t u => hull_subset_iff, ?_, ?_, length_eq hlast,
    byteBounds_of_overflow, byteBounds_of_not_overflow hlast⟩
  · simp only [below?_eq_none_iff, Nat.not_lt]
  · intro u hu i
    exact mem_of_below? hu

/-- The span of all words: its positions cannot be counted by a word, its bytes have no end even if
the elements take none, and a cut makes it small again. -/
theorem word_arithmetic_all_words :
    let s := (single 0).hull (single (wordLimit - 1))
    Made s ∧ s.length = .trapped .overflow ∧ s.byteBounds 0 = .trapped .overflow ∧
      ∃ t, s.below? 3 = some t ∧ ∀ i, i ∈ t ↔ i ∈ s ∧ i < 3 := by
  intro s
  have hs : Made s := .hull (.single (by decide)) (.single (by decide))
  obtain ⟨-, -, -, hcut, hlength, hoverflow, -⟩ := word_arithmetic hs 3 0
  refine ⟨hs, hlength.trans (if_pos ⟨by decide, by decide⟩), hoverflow (.inl (by decide)),
    { first := 0, last := 2 }, by decide, ?_⟩
  exact hcut _ (by decide)

end BufferSync.Span
