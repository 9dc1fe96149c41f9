import BufferSync.Element.Format
import BufferSync.Proofs.Counts
import BufferSync.Proofs.Marking
import Mathlib.Order.Bounds.Basic

/-!
# No more marks than touched elements

A call that ends well *touches* the positions that it writes or moves; a call that fails, reads,
shortens the array or changes only its room touches nothing.  As long as an array stays within its
device allocation, a call does two things to the marks: it cuts them at the new number of elements
and widens them by what it touched (`marks_after`).  A sequence of calls on an array without marks
therefore never marks a position in front of the first touched one or behind the last, and nothing
that is no element any more.  Without calls that shorten the array nothing is ever cut, and then the
marks reach exactly from the first to the last touched position.

This holds of every live array, whatever it has been through and whatever its elements are.
-/

namespace BufferSync

theorem Span.isLeast_first (s : Span) : IsLeast {i | i ∈ s} s.first :=
  ⟨⟨Nat.le_refl _, s.first_le_last⟩, fun _ hi => hi.1⟩

theorem Span.isGreatest_last (s : Span) : IsGreatest {i | i ∈ s} s.last :=
  ⟨⟨s.first_le_last, Nat.le_refl _⟩, fun _ hi => hi.2⟩

theorem Span.last_lt_of_ofBounds? {start stop : Nat} {s : Span}
    (hs : Span.ofBounds? start stop = some s) : s.last < stop :=
  ((Span.mem_of_ofBounds? hs).mp ⟨s.first_le_last, Nat.le_refl _⟩).2

namespace Marks

variable {m k : Marks} {touched : Set Nat}

/-! ## Marks inside other marks -/

/-- What `m` marks lies between the first and the last position that `k` marks. -/
def Within (m k : Marks) : Prop :=
  ∀ s, m.span = some s → ∃ t, k.span = some t ∧ t.first ≤ s.first ∧ s.last ≤ t.last

theorem truncate_zero (m : Marks) : m.truncate 0 = clean := by
  rw [truncate]
  cases m.span <;> rfl

theorem Within.truncate (h : m.Within k) (n : Nat) : (m.truncate n).Within k := by
  intro s hs
  rw [Marks.truncate] at hs
  obtain ⟨u, hu, hcut⟩ := Option.bind_eq_some_iff.mp hs
  obtain ⟨t, ht, hfirst, hlast⟩ := h u hu
  rw [Span.below?] at hcut
  split at hcut
  next =>
    obtain rfl := Option.some.inj hcut
    exact ⟨t, ht, hfirst, Nat.le_trans (Nat.min_le_left _ _) hlast⟩
  next => cases hcut

theorem Within.mark (h : m.Within k) (s : Span) : (m.mark s).Within (k.mark s) := by
  intro u hu
  cases hm : m.span with
  | none =>
    simp only [Marks.mark, hm, Option.some.injEq] at hu
    subst hu
    cases hk : k.span with
    | none => simp [Marks.mark, hk]
    | some t => simp [Marks.mark, hk, Span.hull]
  | some r =>
    obtain ⟨t, ht, hfirst, hlast⟩ := h r hm
    simp only [Marks.mark, hm, Option.some.injEq] at hu
    subst hu
    simp only [Marks.mark, ht, Span.hull, Option.some.injEq, exists_eq_left']
    omega

theorem Within.mark? (h : m.Within k) (s : Option Span) : (m.mark? s).Within (k.mark? s) := by
  cases s with
  | none => exact h
  | some s => exact h.mark s

/-! ## Marks that reach over a set -/

/-- The marks reach from the least to the greatest member of a set of positions. -/
structure Hulls (m : Marks) (touched : Set Nat) : Prop where
  /-- There are marks exactly if there are members. -/
  span_eq_none_iff : m.span = none ↔ touched = ∅
  /-- The first position is the least member. -/
  isLeast : ∀ s, m.span = some s → IsLeast touched s.first
  /-- The last position is the greatest member. -/
  isGreatest : ∀ s, m.span = some s → IsGreatest touched s.last

theorem hulls_of_none (h : m.span = none) : m.Hulls ∅ where
  span_eq_none_iff := by simp [h]
  isLeast s hs := by simp [h] at hs
  isGreatest s hs := by simp [h] at hs

theorem hulls_of_some {s : Span} (h : m.span = some s) (hleast : IsLeast touched s.first)
    (hgreatest : IsGreatest touched s.last) : m.Hulls touched where
  span_eq_none_iff := by simp [h, hleast.nonempty.ne_empty]
  isLeast t ht := by
    obtain rfl := Option.some.inj (h.symm.trans ht)
    exact hleast
  isGreatest t ht := by
    obtain rfl := Option.some.inj (h.symm.trans ht)
    exact hgreatest

theorem Hulls.mark (h : m.Hulls touched) (s : Span) :
    (m.mark s).Hulls (touched ∪ {i | i ∈ s}) := by
  cases hm : m.span with
  | none =>
    rw [h.span_eq_none_iff.mp hm, Set.empty_union]
    exact hulls_of_some (by simp [Marks.mark, hm]) s.isLeast_first s.isGreatest_last
  | some t =>
    have hmark : (m.mark s).span = some (t.hull s) := by simp [Marks.mark, hm]
    exact hulls_of_some hmark ((h.isLeast t hm).union s.isLeast_first)
      ((h.isGreatest t hm).union s.isGreatest_last)

/-- Marks widened by one span after the other reach over the positions of all of them. -/
theorem Hulls.foldl_mark (h : m.Hulls touched) (spans : List Span) :
    (spans.foldl Marks.mark m).Hulls (touched ∪ {i | ∃ s ∈ spans, i ∈ s}) := by
  induction spans generalizing m touched with
  | nil => simpa using h
  | cons s rest ih =>
    have hunion : touched ∪ {i | i ∈ s} ∪ {i | ∃ t ∈ rest, i ∈ t} =
        touched ∪ {i | ∃ t ∈ s :: rest, i ∈ t} := by
      ext i
      simp [or_assoc]
    rw [List.foldl_cons, ← hunion]
    exact ih (h.mark s)

end Marks

namespace ArrayCall

variable {α : Type}

/-! ## What calls touch -/

/-- The positions that a call writes or moves if it ends well, from `n` elements to `n'`. -/
def touched? (n n' : Nat) : ArrayCall α → Option Span
  | .set i _ => some (.single i)
  | .append _ => Span.ofBounds? n n'
  | .appendAll _ => Span.ofBounds? n n'
  | .insert i _ => Span.ofBounds? i n'
  | .removeAt i => Span.ofBounds? i n'
  | .resize length _ => Span.ofBounds? n length
  | _ => none

/-- The call removes elements, or asks for fewer than the `n` that there are. -/
def shrinks (n : Nat) : ArrayCall α → Bool
  | .removeAt _ => true
  | .truncate _ => true
  | .clear => true
  | .resize length _ => decide (length < n)
  | _ => false

variable {call : ArrayCall α} {reply : Reply α} {n n' : Nat}

/-- Only elements are touched. -/
theorem Tally.touched_lt (h : call.Tally reply n n') {s : Span} (hs : call.touched? n n' = some s) :
    s.last < n' := by
  cases call with
  | set i v =>
    cases hs
    obtain ⟨hi, rfl⟩ := h
    exact hi
  | append v => exact Span.last_lt_of_ofBounds? hs
  | appendAll vs => exact Span.last_lt_of_ofBounds? hs
  | insert i v => exact Span.last_lt_of_ofBounds? hs
  | removeAt i => exact Span.last_lt_of_ofBounds? hs
  | resize length v =>
    obtain rfl : n' = length := h
    exact Span.last_lt_of_ofBounds? hs
  | get i => cases hs
  | truncate length => cases hs
  | clear => cases hs
  | setCapacity capacity => cases hs
  | reserve capacity => cases hs
  | elements => cases hs
  | walk count => cases hs

theorem Tally.le_of_shrinks_eq_false (h : call.Tally reply n n') (hs : call.shrinks n = false) :
    n ≤ n' := by
  cases call <;> simp_all [Tally, shrinks]

end ArrayCall

namespace SyncedArray

variable {α : Type} {c : Codec α} {D : Type} {a : SyncedArray c} {d : D} {h : Handle}

/-! ## One call -/

theorem host_marking (call : ArrayCall α) (reply : Reply α) (before : Nat) (a : SyncedArray c) :
    (marking call reply before a).host = a.host := by
  obtain ⟨marks, hmarking⟩ := marking_marks call reply before a
  rw [hmarking]

/-- Within its allocation an array that makes a call cuts its marks at the new number of elements
and widens them by what the call touched. -/
theorem marking_of_fits {call : ArrayCall α} {reply : Reply α} {n : Nat}
    (htally : call.Tally reply n a.host.count) (hb : a.marks.Below n) (ho : a.outgrown = false) :
    (marking call reply n a).marks =
      (a.marks.truncate a.host.count).mark? (call.touched? n a.host.count) := by
  have hkeep : n ≤ a.host.count → a.marks.truncate a.host.count = a.marks := hb.truncate_eq
  have hroomy : a.markOutgrown = a := if_neg (by simp [ho])
  cases call with
  | set i v =>
    rw [hkeep htally.2.ge]
    rfl
  | append v =>
    obtain ⟨rfl, hcount⟩ := htally
    rw [hkeep (by omega), ArrayCall.touched?, hcount]
    exact congrArg marks (markWritten_of_fits ho n (n + 1))
  | appendAll vs =>
    obtain ⟨rfl, hcount⟩ := htally
    rw [hkeep (by omega)]
    exact congrArg marks (markWritten_of_fits ho n a.host.count)
  | insert i v =>
    obtain ⟨-, hcount⟩ := htally
    rw [hkeep (by omega)]
    exact congrArg marks (markWritten_of_fits ho i a.host.count)
  | removeAt i =>
    exact congrArg marks (markWritten_of_fits (a := a.truncateMarks a.host.count) ho i a.host.count)
  | truncate length =>
    have hcount : a.host.count = min n length := htally
    rcases Nat.le_total length n with hle | hle
    · rw [hcount, Nat.min_eq_right hle]
      rfl
    · rw [hkeep (by omega)]
      exact hb.truncate_eq hle
  | resize length v =>
    obtain rfl : a.host.count = length := htally
    rw [marking, ArrayCall.touched?]
    by_cases hlt : n < a.host.count
    · rw [if_pos hlt, hkeep (by omega)]
      exact congrArg marks (markWritten_of_fits ho n a.host.count)
    · rw [if_neg hlt, Span.ofBounds?, dif_neg hlt]
      rfl
  | clear =>
    have hcount : a.host.count = 0 := htally
    rw [hcount, Marks.truncate_zero]
    rfl
  | setCapacity capacity =>
    rw [hkeep (Nat.le_of_eq htally.symm)]
    exact congrArg marks hroomy
  | reserve capacity =>
    rw [hkeep (Nat.le_of_eq htally.symm)]
    exact congrArg marks hroomy
  | get i =>
    rw [hkeep (Nat.le_of_eq htally.symm)]
    rfl
  | elements =>
    rw [hkeep (Nat.le_of_eq htally.symm)]
    rfl
  | walk count =>
    rw [hkeep (Nat.le_of_eq htally.symm)]
    rfl

/-- One call on the elements of an array, with how it ended and the array before and after. -/
structure Step (c : Codec α) where
  /-- What was asked. -/
  call : ArrayCall α
  /-- How it ended. -/
  outcome : Outcome (Reply α)
  /-- The array in front of the call. -/
  before : SyncedArray c
  /-- The array behind the call. -/
  after : SyncedArray c

namespace Step

/-- The positions that the call touched. -/
def touched? (x : Step c) : Option Span :=
  if x.outcome.isOk then x.call.touched? x.before.host.count x.after.host.count else none

/-- The call was one to shorten the array. -/
def shrinks (x : Step c) : Bool :=
  x.call.shrinks x.before.host.count

/-- Behind the call the device has room for all that the host has room for. -/
def Fits (x : Step c) : Prop :=
  x.after.host.capacity ≤ x.after.deviceCapacity

instance (x : Step c) : Decidable x.Fits :=
  inferInstanceAs (Decidable (x.after.host.capacity ≤ x.after.deviceCapacity))

end Step

/-- A call made on an array. -/
def step (p : SyncedArray c × D) (call : ArrayCall α) : Step c where
  call := call
  outcome := (performArray call p).outcome
  before := p.1
  after := (performArray call p).state.1

/-- What a call does to the marks and the number of elements of an array that stays within its
allocation. -/
structure Step.Lawful (x : Step c) : Prop where
  /-- Marks are cut at the number of elements and widened by what was touched. -/
  marks_after : x.after.marks = (x.before.marks.truncate x.after.host.count).mark? x.touched?
  /-- Only elements are touched. -/
  touched_lt : ∀ s, x.touched? = some s → s.last < x.after.host.count
  /-- Elements go away only where that was asked for. -/
  count_le : x.shrinks = false → x.before.host.count ≤ x.after.host.count

theorem step_of_some (hh : a.handle = some h) (call : ArrayCall α) (d : D) :
    step (a, d) call =
      { call
        outcome := (HostArray.perform call a.host).outcome
        before := a
        after := afterCall call a (HostArray.perform call a.host) } := by
  rw [step, performArray_of_some hh]

/-- A call that does not end well leaves the marks alone, and takes no elements away. -/
theorem Step.lawful_of_not_ok {x : Step c} (hok : x.outcome.isOk = false)
    (hmarks : x.after.marks = x.before.marks) (hcount : x.before.host.count ≤ x.after.host.count)
    (hb : x.before.marks.Below x.before.host.count) : x.Lawful := by
  have htouched : x.touched? = none := by simp [touched?, hok]
  refine ⟨?_, ?_, fun _ => hcount⟩
  · rw [htouched, hb.truncate_eq hcount, hmarks]
    rfl
  · intro s hs
    rw [htouched] at hs
    cases hs

/-- A call that ends well marks what it touched. -/
theorem Step.lawful_of_ok {call : ArrayCall α} {reply : Reply α} {b : HostArray c}
    (htally : call.Tally reply a.host.count b.count) (hb : a.marks.Below a.host.count)
    (ho : SyncedArray.outgrown { a with host := b } = false) :
    Step.Lawful
      { call
        outcome := .ok reply
        before := a
        after := marking call reply a.host.count { a with host := b } } := by
  have hmarks := marking_of_fits (a := { a with host := b }) htally hb ho
  have hhost := host_marking call reply a.host.count { a with host := b }
  refine ⟨?_, ?_, ?_⟩
  · simp only [touched?, Outcome.isOk, if_true, hhost]
    exact hmarks
  · simp only [touched?, Outcome.isOk, if_true, hhost]
    exact fun _ hs => htally.touched_lt hs
  · simp only [hhost]
    exact htally.le_of_shrinks_eq_false

/-- One call on a live array that stays within its allocation. -/
theorem lawful_step (hh : a.handle = some h) (hb : a.marks.Below a.host.count)
    {call : ArrayCall α} (hfits : (step (a, d) call).Fits) : (step (a, d) call).Lawful := by
  have hcounts := HostArray.counts_perform call a.host
  rw [step_of_some hh] at hfits ⊢
  generalize HostArray.perform call a.host = r at hfits hcounts ⊢
  rcases r with ⟨reply | e | t, b, l⟩
  · apply Step.lawful_of_ok hcounts hb
    obtain ⟨marks, hafter⟩ := marking_marks call reply a.host.count { a with host := b }
    simp only [Step.Fits, afterCall, hafter] at hfits
    exact decide_eq_false (Nat.not_lt.mpr hfits)
  · exact Step.lawful_of_not_ok rfl rfl hcounts hb
  · exact Step.lawful_of_not_ok rfl rfl hcounts hb

theorem Step.Lawful.below {x : Step c} (hx : x.Lawful)
    (hb : x.before.marks.Below x.before.host.count) : x.after.marks.Below x.after.host.count := by
  have hcut : (x.before.marks.truncate x.after.host.count).Below x.after.host.count :=
    (hb.truncate _).mono (Nat.min_le_right _ _)
  rw [hx.marks_after]
  cases hs : x.touched? with
  | none => exact hcut
  | some s => exact hcut.mark (hx.touched_lt s hs)

/-- Where no elements go away, nothing is cut. -/
theorem Step.Lawful.marks_of_shrinks_eq_false {x : Step c} (hx : x.Lawful)
    (hb : x.before.marks.Below x.before.host.count) (hgrows : x.shrinks = false) :
    x.after.marks = x.before.marks.mark? x.touched? := by
  rw [hx.marks_after, hb.truncate_eq (hx.count_le hgrows)]

/-! ## Many calls -/

/-- The calls made one after the other, whatever their outcomes. -/
def steps (p : SyncedArray c × D) : List (ArrayCall α) → List (Step c)
  | [] => []
  | call :: rest => step p call :: steps (performArray call p).state rest

/-- The array and its device after the calls. -/
def afterCalls (p : SyncedArray c × D) (calls : List (ArrayCall α)) : SyncedArray c × D :=
  calls.foldl (fun p call => (performArray call p).state) p

/-- The spans that the calls touched, in order. -/
def touchedSpans (xs : List (Step c)) : List Span :=
  xs.filterMap Step.touched?

/-- The positions that some of the calls touched. -/
def touchedBy (xs : List (Step c)) : Set Nat :=
  {i | ∃ s ∈ touchedSpans xs, i ∈ s}

theorem foldl_touchedSpans_cons (x : Step c) (xs : List (Step c)) (m : Marks) :
    (touchedSpans (x :: xs)).foldl Marks.mark m =
      (touchedSpans xs).foldl Marks.mark (m.mark? x.touched?) := by
  rw [touchedSpans, List.filterMap_cons]
  cases x.touched? <;> rfl

/-- A call on a live array leaves it live and does not reach the device. -/
theorem performArray_state (hh : a.handle = some h) (call : ArrayCall α) (d : D) :
    (performArray call (a, d)).state = ((step (a, d) call).after, d) ∧
      (step (a, d) call).after.handle = some h := by
  obtain ⟨marks, hafter⟩ := afterCall_eq call a (HostArray.perform call a.host)
  rw [step_of_some hh, performArray_of_some hh]
  refine ⟨rfl, ?_⟩
  rw [hafter]
  exact hh

/-- Many calls on a live array that stays within its allocation: the marks stay below the number of
elements and inside any marks that are only widened, and are only widened themselves if no call
shortens the array. -/
theorem marks_afterCalls (hh : a.handle = some h) (hb : a.marks.Below a.host.count)
    {calls : List (ArrayCall α)} (hfits : ∀ x ∈ steps (a, d) calls, x.Fits) :
    (afterCalls (a, d) calls).1.marks.Below (afterCalls (a, d) calls).1.host.count ∧
      (∀ k, a.marks.Within k → (afterCalls (a, d) calls).1.marks.Within
        ((touchedSpans (steps (a, d) calls)).foldl Marks.mark k)) ∧
      ((∀ x ∈ steps (a, d) calls, x.shrinks = false) → (afterCalls (a, d) calls).1.marks =
        (touchedSpans (steps (a, d) calls)).foldl Marks.mark a.marks) := by
  induction calls generalizing a with
  | nil => exact ⟨hb, fun k hk => hk, fun _ => rfl⟩
  | cons call rest ih =>
    obtain ⟨hstate, hlive⟩ := performArray_state hh call d
    rw [steps, List.forall_mem_cons, hstate] at hfits
    have hlaw := lawful_step hh hb hfits.1
    obtain ⟨hbelow, hwithin, hexact⟩ := ih hlive (hlaw.below hb) hfits.2
    have hafter : afterCalls (a, d) (call :: rest) =
        afterCalls ((step (a, d) call).after, d) rest := by
      rw [afterCalls, List.foldl_cons, hstate]
      rfl
    rw [hafter, steps, hstate]
    simp only [foldl_touchedSpans_cons, List.forall_mem_cons]
    refine ⟨hbelow, ?_, ?_⟩
    · intro k hk
      apply hwithin
      rw [hlaw.marks_after]
      exact (hk.truncate _).mark? _
    · intro hgrows
      rw [hexact hgrows.2, hlaw.marks_of_shrinks_eq_false hb hgrows.1]
      rfl

/-- No more is marked than was touched.

Take any live array without marks, on any device, and any calls on its elements, failing ones
included, such that the array stays within its device allocation all the time.  What is marked in
the end are elements, between the least and the greatest position that the calls touched.  If no
call shortens the array, the marks reach exactly from the least to the greatest touched position,
and there are none exactly if nothing was touched. -/
theorem marks_only_touched (a : SyncedArray c) (d : D) (calls : List (ArrayCall α))
    (hlive : a.isDisposed = false) (hclean : a.marks.span = none)
    (hfits : ∀ x ∈ steps (a, d) calls, x.Fits) :
    (∀ s, (afterCalls (a, d) calls).1.marks.span = some s →
      s.last < (afterCalls (a, d) calls).1.host.count ∧
        ∃ lo hi, IsLeast (touchedBy (steps (a, d) calls)) lo ∧
          IsGreatest (touchedBy (steps (a, d) calls)) hi ∧ lo ≤ s.first ∧ s.last ≤ hi) ∧
    ((∀ x ∈ steps (a, d) calls, x.shrinks = false) →
      ((afterCalls (a, d) calls).1.marks.span = none ↔ touchedBy (steps (a, d) calls) = ∅) ∧
        ∀ s, (afterCalls (a, d) calls).1.marks.span = some s →
          IsLeast (touchedBy (steps (a, d) calls)) s.first ∧
            IsGreatest (touchedBy (steps (a, d) calls)) s.last) := by
  obtain ⟨h, hh⟩ : ∃ h, a.handle = some h :=
    Option.isSome_iff_exists.mp (by simpa [isDisposed] using hlive)
  have hb : a.marks.Below a.host.count := by
    intro s hs
    simp [hclean] at hs
  obtain ⟨hbelow, hwithin, hexact⟩ := marks_afterCalls hh hb hfits
  have hhulls := (Marks.hulls_of_none hclean).foldl_mark (touchedSpans (steps (a, d) calls))
  rw [Set.empty_union] at hhulls
  constructor
  · intro s hs
    obtain ⟨t, ht, hfirst, hlast⟩ := hwithin a.marks (fun s hs => ⟨s, hs, le_rfl, le_rfl⟩) s hs
    exact ⟨hbelow s hs, t.first, t.last, hhulls.isLeast t ht, hhulls.isGreatest t ht, hfirst, hlast⟩
  · intro hgrows
    rw [hexact hgrows]
    exact ⟨hhulls.span_eq_none_iff, fun s hs => ⟨hhulls.isLeast s hs, hhulls.isGreatest s hs⟩⟩

/-- Three bytes with room for four.  In the first sequence a touched position goes away again, and
one call fails; in the second one nothing goes away. -/
theorem marks_only_touched_bytes :
    let a : SyncedArray Format.uint8Codec :=
      { host := { storage := [1, 2, 3, 0], capacity := 4, count := 3 }
        marks := .clean
        handle := some ⟨1, 1⟩
        pending := none
        deviceCapacity := 4
        label := "bytes"
        usage := .vertex }
    let removing := [.set 0 9, .insert 3 7, .set 9 1, .removeAt 3]
    let growing := [.set 2 9, .append 7, .reserve 4]
    (afterCalls (a, ()) removing).1.marks.span = some { first := 0, last := 2 } ∧
      (∃ lo hi, IsLeast (touchedBy (steps (a, ()) removing)) lo ∧
        IsGreatest (touchedBy (steps (a, ()) removing)) hi ∧ lo ≤ 0 ∧ 2 ≤ hi) ∧
      IsLeast (touchedBy (steps (a, ()) growing)) 2 ∧
      IsGreatest (touchedBy (steps (a, ()) growing)) 3 := by
  intro a removing growing
  have hremoving : (afterCalls (a, ()) removing).1.marks.span = some { first := 0, last := 2 } := by
    decide
  have hgrowing : (afterCalls (a, ()) growing).1.marks.span = some { first := 2, last := 3 } := by
    decide
  obtain ⟨hwithin, -⟩ := marks_only_touched a () removing rfl rfl (by decide)
  obtain ⟨-, hexact⟩ := marks_only_touched a () growing rfl rfl (by decide)
  exact ⟨hremoving, (hwithin _ hremoving).2, (hexact (by decide)).2 _ hgrowing⟩

end SyncedArray

end BufferSync
