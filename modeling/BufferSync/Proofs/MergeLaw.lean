import BufferSync.Dirty.Marks
import BufferSync.Proofs.Runs
import Mathlib.Data.List.Induction
import Mathlib.Data.List.Perm.Basic

/-!
# How marks merge

Marks are one span, whatever was marked.  This module says which span it is, for any list of calls
on new marks: single positions, ranges, truncations and takes, with any numbers.

*Reset points.*  A take forgets everything, and so does a truncation to a length at or below the
first position of every mark so far.  `recent` is the part of a history behind the last such point;
nothing in front of it matters any more.

*The span.*  Its first position is the least first position of a recent mark: a truncation that is
no reset point leaves it alone.  Its last position is the greatest of the last positions, each cut
by the shortest truncation behind its own mark.  A mark that was cut away as a whole still counts
for this maximum, since some other mark begins in front of the cut and reaches as far.

*Order.*  Widening by one span and then by another gives the hull of both, so the order of marks
does not matter as long as nothing is truncated in between.
-/

namespace BufferSync.Marks

/-! ## Calls and histories -/

/-- What can be asked of marks. -/
inductive Call where
  /-- Mark one position. -/
  | markIndex (i : Nat)
  /-- Mark the positions of a range. -/
  | markBetween (first last : Nat)
  /-- Forget the positions from a length on. -/
  | truncate (length : Nat)
  /-- Hand the span out and forget it. -/
  | take
deriving DecidableEq, Repr

/-- Runs a call; a take gives the span. -/
def perform : Call → Op Marks (Option Span)
  | .markIndex i => do
    Op.update fun m => m.markIndex i
    pure none
  | .markBetween first last => do
    markBetween first last
    pure none
  | .truncate length => do
    Op.update fun m => m.truncate length
    pure none
  | .take => take

/-- The marks after a list of calls on new ones, whatever the outcomes of the calls. -/
def after (calls : List Call) : Marks :=
  calls.foldl (fun m call => (perform call m).state) clean

/-- The span that the call marks; none if it is refused or does not mark. -/
def Call.span? : Call → Option Span
  | .markIndex i => some (.single i)
  | .markBetween first last => if h : first ≤ last then some { first, last } else none
  | _ => none

/-- The length that the call truncates to. -/
def Call.length? : Call → Option Nat
  | .truncate length => some length
  | _ => none

/-- The spans marked, in order. -/
def spans (calls : List Call) : List Span := calls.filterMap Call.span?

/-- The lengths truncated to, in order. -/
def lengths (calls : List Call) : List Nat := calls.filterMap Call.length?

/-- Behind the call nothing is left of the marks that `recent` made. -/
def Call.resets (recent : List Call) : Call → Bool
  | .take => true
  | .truncate length => (spans recent).all fun s => decide (length ≤ s.first)
  | _ => false

/-- The calls since the last reset point. -/
def recent (calls : List Call) : List Call :=
  calls.foldl (fun recent call => if call.resets recent then [] else recent ++ [call]) []

/-- A last position, cut by the shortest of some truncations. -/
def cutLast (last : Nat) (lengths : List Nat) : Nat :=
  match lengths.min? with
  | none => last
  | some shortest => min last (shortest - 1)

/-- The last positions of the marks, each cut by the truncations behind its mark. -/
def lasts : List Call → List Nat
  | [] => []
  | call :: rest => (call.span?.map fun s => cutLast s.last (lengths rest)).toList ++ lasts rest

theorem after_concat (calls : List Call) (call : Call) :
    after (calls ++ [call]) = (perform call (after calls)).state := by
  simp [after]

theorem recent_concat (calls : List Call) (call : Call) :
    recent (calls ++ [call]) =
      if call.resets (recent calls) then [] else recent calls ++ [call] := by
  rw [recent, List.foldl_concat]
  rfl

/-! ## Least and greatest members -/

theorem min?_concat (l : List Nat) (n : Nat) :
    (l ++ [n]).min? = some (l.min?.elim n (min · n)) := by
  cases h : l.min? with
  | none => simp_all
  | some m =>
    rw [List.min?_eq_some_iff] at h ⊢
    simp only [Option.elim_some, List.mem_append, List.mem_singleton]
    grind

theorem max?_concat (l : List Nat) (n : Nat) :
    (l ++ [n]).max? = some (l.max?.elim n (max · n)) := by
  cases h : l.max? with
  | none => simp_all
  | some m =>
    rw [List.max?_eq_some_iff] at h ⊢
    simp only [Option.elim_some, List.mem_append, List.mem_singleton]
    grind

theorem max?_map_min (l : List Nat) (n : Nat) :
    (l.map (min · n)).max? = l.max?.map (min · n) := by
  cases h : l.max? with
  | none => simp_all
  | some m =>
    rw [List.max?_eq_some_iff] at h
    rw [Option.map_some, List.max?_eq_some_iff]
    grind

/-! ## One more call -/

variable {m : Marks} {calls : List Call} {call : Call} {s : Span} {n : Nat}

theorem spans_concat (calls : List Call) (call : Call) :
    spans (calls ++ [call]) = spans calls ++ call.span?.toList :=
  List.filterMap_append

theorem lengths_concat (calls : List Call) (call : Call) :
    lengths (calls ++ [call]) = lengths calls ++ call.length?.toList :=
  List.filterMap_append

theorem cutLast_concat (last n : Nat) (l : List Nat) :
    cutLast last (l ++ [n]) = min (cutLast last l) (n - 1) := by
  rw [cutLast, cutLast, min?_concat]
  cases l.min? with
  | none => rfl
  | some m =>
    simp only [Option.elim_some]
    omega

/-- A call that truncates nothing adds the last position of its own mark. -/
theorem lasts_concat (calls : List Call) (hlength : call.length? = none) :
    lasts (calls ++ [call]) = lasts calls ++ (call.span?.map Span.last).toList := by
  induction calls with
  | nil => simp [lasts, lengths, cutLast]
  | cons first rest ih =>
    rw [List.cons_append, lasts, lasts, ih, lengths_concat, hlength]
    simp

/-- A truncation cuts every mark in front of it. -/
theorem lasts_concat_truncate (calls : List Call) (n : Nat) :
    lasts (calls ++ [.truncate n]) = (lasts calls).map (min · (n - 1)) := by
  induction calls with
  | nil => rfl
  | cons first rest ih =>
    have hlength : (Call.truncate n).length? = some n := rfl
    rw [List.cons_append, lasts, lasts, ih, lengths_concat, hlength, List.map_append]
    cases first.span? with
    | none => rfl
    | some s => simp [cutLast_concat]

/-- A call that marks widens the marks by its span. -/
theorem perform_of_span? (hspan : call.span? = some s) (m : Marks) :
    perform call m = { outcome := .ok none, state := m.mark s, log := [] } := by
  cases call with
  | markIndex i =>
    cases hspan
    rfl
  | markBetween first last =>
    rw [Call.span?] at hspan
    split at hspan
    next hle =>
      cases hspan
      simp [perform, markBetween, Span.between, hle, Op.update_bind, Op.pure_apply]
    next => cases hspan
  | truncate n => cases hspan
  | take => cases hspan

/-- A reversed range is refused. -/
theorem perform_of_reversed {first last : Nat} (h : last < first) (m : Marks) :
    ∃ l, perform (.markBetween first last) m =
      { outcome := .error (.invalidArgument
          s!"dirty range start {first} is greater than end {last}")
        state := m
        log := l } := by
  have hbetween : (Span.between first last : Op Marks Span) = Op.raise Span.source
      (.invalidArgument s!"dirty range start {first} is greater than end {last}") :=
    dif_neg (Nat.not_le.mpr h)
  rw [perform, markBetween, hbetween, Op.bind_assoc, Op.bind_of_error (Op.raise_apply _ _ m)]
  exact ⟨_, rfl⟩

/-! ## The span of a history -/

/-- The span is the one that the calls since the last reset point call for. -/
structure Merges (m : Marks) (recent : List Call) : Prop where
  /-- The least first position. -/
  first : m.span.map Span.first = ((spans recent).map Span.first).min?
  /-- The greatest of the cut last positions. -/
  last : m.span.map Span.last = (lasts recent).max?

theorem merges_clean : clean.Merges [] :=
  ⟨rfl, rfl⟩

theorem Merges.mark (h : m.Merges calls) (hspan : call.span? = some s) :
    (m.mark s).Merges (calls ++ [call]) := by
  have hlength : call.length? = none := by
    cases call with
    | truncate n => cases hspan
    | markIndex i => rfl
    | markBetween first last => rfl
    | take => rfl
  constructor
  · rw [spans_concat, hspan, Option.toList_some, List.map_append, List.map_singleton, min?_concat,
      ← h.first, Marks.mark]
    cases m.span <;> rfl
  · rw [lasts_concat calls hlength, hspan, Option.map_some, Option.toList_some, max?_concat,
      ← h.last, Marks.mark]
    cases m.span <;> rfl

/-- A refused call changes neither side. -/
theorem Merges.skip (h : m.Merges calls) (hspan : call.span? = none)
    (hlength : call.length? = none) : m.Merges (calls ++ [call]) := by
  constructor
  · rw [spans_concat, hspan, Option.toList_none, List.append_nil, h.first]
  · rw [lasts_concat calls hlength, hspan, Option.map_none, Option.toList_none, List.append_nil,
      h.last]

/-- The first position of the marks is that of one of them, and no other is less. -/
theorem Merges.mem_first (h : m.Merges calls) (hm : m.span = some s) :
    (∃ t ∈ spans calls, t.first = s.first) ∧ ∀ t ∈ spans calls, s.first ≤ t.first := by
  have hfirst := h.first.symm
  rw [hm, Option.map_some, List.min?_eq_some_iff, List.mem_map] at hfirst
  exact ⟨hfirst.1, fun t ht => hfirst.2 _ (List.mem_map_of_mem ht)⟩

/-- A truncation that is no reset point cuts the last position and leaves the first one. -/
theorem Merges.truncate (h : m.Merges calls)
    (hresets : (Call.truncate n).resets calls = false) :
    (m.truncate n).Merges (calls ++ [.truncate n]) := by
  have hspans : spans (calls ++ [.truncate n]) = spans calls := by
    rw [spans_concat]
    exact List.append_nil _
  -- some mark begins in front of the cut, so the marks do
  have hbelow : ∀ s, m.span = some s → s.first < n := by
    intro s hs
    rw [Call.resets, List.all_eq_false] at hresets
    obtain ⟨t, ht, hlt⟩ := hresets
    have hle := (h.mem_first hs).2 t ht
    simp only [decide_eq_true_eq] at hlt
    omega
  constructor
  · rw [hspans, ← h.first, Marks.truncate]
    cases hs : m.span with
    | none => rfl
    | some s => simp [Span.below?, hbelow s hs]
  · rw [lasts_concat_truncate, max?_map_min, ← h.last, Marks.truncate]
    cases hs : m.span with
    | none => rfl
    | some s => simp [Span.below?, hbelow s hs]

/-- A truncation that is a reset point leaves nothing. -/
theorem Merges.truncate_of_resets (h : m.Merges calls)
    (hresets : (Call.truncate n).resets calls = true) : m.truncate n = clean := by
  rw [Marks.truncate]
  cases hs : m.span with
  | none => rfl
  | some s =>
    obtain ⟨⟨t, ht, heq⟩, -⟩ := h.mem_first hs
    rw [Call.resets, List.all_eq_true] at hresets
    have hle := of_decide_eq_true (hresets t ht)
    have hcut : s.below? n = none := dif_neg (by omega)
    rw [Option.bind_some, hcut]
    rfl

/-- One call: behind a reset point nothing is left, and otherwise the call joins the recent ones. -/
theorem Merges.perform (h : m.Merges calls) (call : Call) :
    (perform call m).state.Merges (if call.resets calls then [] else calls ++ [call]) := by
  cases call with
  | markIndex i =>
    rw [perform_of_span? (s := .single i) rfl]
    exact h.mark rfl
  | markBetween first last =>
    by_cases hle : first ≤ last
    · have hspan : (Call.markBetween first last).span? = some { first, last } := dif_pos hle
      rw [perform_of_span? hspan]
      exact h.mark hspan
    · obtain ⟨l, hrun⟩ := perform_of_reversed (Nat.not_le.mp hle) m
      rw [hrun]
      exact h.skip (dif_neg hle) rfl
  | truncate n =>
    cases hresets : (Call.truncate n).resets calls with
    | true =>
      change (m.truncate n).Merges _
      rw [h.truncate_of_resets hresets]
      exact merges_clean
    | false => exact h.truncate hresets
  | take => exact merges_clean

theorem merges_after (calls : List Call) : (after calls).Merges (recent calls) := by
  induction calls using List.reverseRecOn with
  | nil => exact merges_clean
  | append_singleton calls call ih =>
    rw [after_concat, recent_concat]
    exact ih.perform call

/-! ## Marks only -/

theorem mark_right_comm (m : Marks) (s t : Span) : (m.mark s).mark t = (m.mark t).mark s := by
  cases hm : m.span with
  | none => simp [mark, hm, Span.hull, Nat.min_comm, Nat.max_comm]
  | some u =>
    simp only [mark, hm, Span.hull, Marks.mk.injEq, Option.some.injEq, Span.mk.injEq]
    omega

instance : RightCommutative mark where
  right_comm := mark_right_comm

/-- The call asks for a mark, granted or not. -/
def Call.isMark : Call → Bool
  | .markIndex _ => true
  | .markBetween _ _ => true
  | _ => false

theorem after_append_marks {marks : List Call} (hmarks : ∀ call ∈ marks, call.isMark = true)
    (calls : List Call) : after (calls ++ marks) = (spans marks).foldl mark (after calls) := by
  rw [after, List.foldl_append]
  change marks.foldl _ (after calls) = _
  generalize after calls = m
  induction marks generalizing m with
  | nil => rfl
  | cons call rest ih =>
    rw [List.forall_mem_cons] at hmarks
    rw [List.foldl_cons, ih hmarks.2, spans, spans, List.filterMap_cons]
    cases hspan : call.span? with
    | some s =>
      rw [perform_of_span? hspan]
      rfl
    | none =>
      -- only a reversed range asks for a mark and makes none
      cases call with
      | markIndex i => cases hspan
      | markBetween first last =>
        have hreversed : last < first := by
          rw [Call.span?] at hspan
          split at hspan
          · cases hspan
          · omega
        obtain ⟨l, hrun⟩ := perform_of_reversed hreversed m
        rw [hrun]
      | truncate n => cases hmarks.1
      | take => cases hmarks.1

theorem recent_append_marks {marks : List Call} (hmarks : ∀ call ∈ marks, call.isMark = true)
    (calls : List Call) : recent (calls ++ marks) = recent calls ++ marks := by
  induction marks using List.reverseRecOn with
  | nil => simp
  | append_singleton marks call ih =>
    simp only [List.forall_mem_append, List.forall_mem_singleton] at hmarks
    have hresets : call.resets (recent (calls ++ marks)) = false := by
      cases call with
      | markIndex i => rfl
      | markBetween first last => rfl
      | truncate n => cases hmarks.2
      | take => cases hmarks.2
    rw [← List.append_assoc, recent_concat, hresets, ih hmarks.1, List.append_assoc]
    rfl

/-- Without a truncation behind it a mark keeps its last position. -/
theorem lasts_of_marks {marks : List Call} (hmarks : ∀ call ∈ marks, call.isMark = true) :
    lasts marks = (spans marks).map Span.last := by
  induction marks using List.reverseRecOn with
  | nil => rfl
  | append_singleton marks call ih =>
    simp only [List.forall_mem_append, List.forall_mem_singleton] at hmarks
    have hlength : call.length? = none := by
      cases call with
      | truncate n => cases hmarks.2
      | markIndex i => rfl
      | markBetween first last => rfl
      | take => rfl
    rw [lasts_concat marks hlength, ih hmarks.1, spans_concat, List.map_append]
    cases call.span? <;> rfl

/-- The start and every take are reset points. -/
theorem recent_of_start (hstart : calls = [] ∨ calls.getLast? = some .take) :
    recent calls = [] := by
  rcases hstart with rfl | hlast
  · rfl
  · obtain ⟨front, rfl⟩ := List.getLast?_eq_some_iff.mp hlast
    rw [recent_concat]
    rfl

/-- Behind a reset point the marks are those of one range from the least to the greatest position
marked. -/
theorem after_marks_eq_single {marks : List Call} (hmarks : ∀ call ∈ marks, call.isMark = true)
    (hreset : recent calls = []) {lo hi : Nat}
    (hlo : ((spans marks).map Span.first).min? = some lo)
    (hhi : ((spans marks).map Span.last).max? = some hi) :
    after (calls ++ marks) = after (calls ++ [.markBetween lo hi]) := by
  have hmerges := merges_after (calls ++ marks)
  rw [recent_append_marks hmarks, hreset, List.nil_append] at hmerges
  have hfirst := hmerges.first.trans hlo
  have hlast := (hmerges.last.trans (congrArg List.max? (lasts_of_marks hmarks))).trans hhi
  obtain ⟨s, hs, rfl⟩ := Option.map_eq_some_iff.mp hfirst
  rw [hs, Option.map_some, Option.some.injEq] at hlast
  subst hlast
  have hclean : after calls = clean := by
    have hcalls := (merges_after calls).first
    rw [hreset] at hcalls
    exact congrArg Marks.mk (Option.map_eq_none_iff.mp hcalls)
  have hspan : (Call.markBetween s.first s.last).span? = some s := dif_pos s.first_le_last
  rw [after_concat, perform_of_span? hspan, hclean]
  exact congrArg Marks.mk hs

/-- The law of marks, for every list of calls on new ones.

A range is refused exactly if it is reversed, and then the marks stay.  The marks are dirty exactly
if something was marked since the last reset point.  Then the first position of their span is the
least first position of those marks, and the last one is the greatest of the last positions, each
cut by the shortest truncation behind its mark.

Behind the start or a take, and as long as nothing is truncated, the order of the marks does not
matter: together they do what one range from their least to their greatest position does. -/
theorem merge_law (calls : List Call) :
    (∀ lo hi, (lo ≤ hi → (perform (.markBetween lo hi) (after calls)).outcome = .ok none) ∧
      (hi < lo → ∃ reason l, perform (.markBetween lo hi) (after calls) =
        { outcome := .error (.invalidArgument reason), state := after calls, log := l })) ∧
    ((after calls).isDirty = true ↔ spans (recent calls) ≠ []) ∧
    (∀ s, (after calls).span = some s →
      ((spans (recent calls)).map Span.first).min? = some s.first ∧
        (lasts (recent calls)).max? = some s.last) ∧
    (calls = [] ∨ calls.getLast? = some .take →
      ∀ marks, (∀ call ∈ marks, call.isMark = true) →
        (∀ others, others.Perm marks → after (calls ++ others) = after (calls ++ marks)) ∧
        ∀ lo hi, ((spans marks).map Span.first).min? = some lo →
          ((spans marks).map Span.last).max? = some hi →
          after (calls ++ marks) = after (calls ++ [.markBetween lo hi])) := by
  have hmerges := merges_after calls
  refine ⟨?_, ?_, ?_, ?_⟩
  · intro lo hi
    constructor
    · intro hle
      have hspan : (Call.markBetween lo hi).span? = some { first := lo, last := hi } := dif_pos hle
      rw [perform_of_span? hspan]
    · intro hlt
      obtain ⟨l, hrun⟩ := perform_of_reversed hlt (after calls)
      exact ⟨_, l, hrun⟩
  · have hnone := congrArg (· = none) hmerges.first
    simp only [Option.map_eq_none_iff, List.min?_eq_none_iff, List.map_eq_nil_iff] at hnone
    simp [isDirty, Option.isSome_iff_ne_none, hnone]
  · intro s hs
    have hfirst := hmerges.first
    have hlast := hmerges.last
    rw [hs] at hfirst hlast
    exact ⟨hfirst.symm, hlast.symm⟩
  · intro hstart marks hmarks
    constructor
    · intro others hperm
      have hothers : ∀ call ∈ others, call.isMark = true := fun call hcall =>
        hmarks call (hperm.mem_iff.mp hcall)
      rw [after_append_marks hmarks, after_append_marks hothers]
      exact (hperm.filterMap _).foldl_eq _
    · intro lo hi hlo hhi
      exact after_marks_eq_single hmarks (recent_of_start hstart) hlo hhi

/-- A mark that two truncations cut and that a later mark surpasses, the later one cut as well; and
three marks behind a take, one of them refused, in two orders. -/
theorem merge_law_shuffled :
    let cut := [.markBetween 2 9, .truncate 5, .markIndex 7, .truncate 7]
    let marks := [.markIndex 7, .markBetween 9 1, .markBetween 2 4]
    (after cut).span = some { first := 2, last := 6 } ∧ lasts (recent cut) = [4, 6] ∧
      (lasts (recent cut)).max? = some 6 ∧
      after ([.markIndex 3, .take] ++ marks.reverse) = after ([.markIndex 3, .take] ++ marks) ∧
      after ([.markIndex 3, .take] ++ marks) = after [.markIndex 3, .take, .markBetween 2 7] := by
  intro cut marks
  have hspan : (after cut).span = some { first := 2, last := 6 } := by decide
  obtain ⟨-, -, hcut, -⟩ := merge_law cut
  obtain ⟨-, -, -, horder⟩ := merge_law [.markIndex 3, .take]
  obtain ⟨hperm, hsingle⟩ := horder (.inr rfl) marks (by decide)
  exact ⟨hspan, by decide, (hcut _ hspan).2, hperm _ marks.reverse_perm,
    hsingle 2 7 (by decide) (by decide)⟩

end BufferSync.Marks
