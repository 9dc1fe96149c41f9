import BufferSync.Proofs.FlushTrace
import BufferSync.Proofs.Retirement

/-!
# What an error leaves behind

A call that ends with an error leaves the elements, the marks, the name and the usage of the array
as they were, whatever was done to the device behind the back of the array.  A call on the elements
and an unbind leave the whole array as it was.  A flush can have got somewhere: the pending
allocation may be given back, and the array may have moved to a new allocation; the old one is then
given back or pending (`Interrupted`).

That the marks are the same after such a move depends on an invariant of all runs: the marks of an
array that has outgrown its allocation hold all elements, so marking all of them again does nothing.
`Coherent` is this invariant; in contrast to `Synced` it says nothing about the device.
-/

namespace BufferSync

namespace HostArray

variable {α : Type} {c : Codec α} {a : HostArray c}

/-- An operation that ends well or breaks down is not refused. -/
theorem not_refused {β γ : Type} {x : Op (HostArray c) β} {f : β → γ} {v : β} {P Q : Prop}
    {R : HostArray c → Prop} {e : Error}
    (hcases : (P ∧ ∃ t l, x a = { outcome := .trapped t, state := a, log := l }) ∨
      (Q ∧ ∃ b l, x a = { outcome := .ok v, state := b, log := l } ∧ R b)) :
    (x a).outcome.map f ≠ .error e := by
  obtain ⟨-, t, l, hrun⟩ | ⟨-, b, l, hrun, -⟩ := hcases
  · rw [hrun]
    rintro ⟨⟩
  · rw [hrun]
    rintro ⟨⟩

/-- A call that is refused leaves the array as it is. -/
theorem state_of_error (hc : c.Lawful) (ha : a.Packed) {call : ArrayCall α} {e : Error}
    (he : (perform call a).outcome = .error e) : (perform call a).state = a := by
  cases call with
  | get i =>
    rw [perform, Op.map_apply] at he ⊢
    by_cases hi : i < a.count
    · rw [get_of_lt ha hi] at he
      cases he
    · rw [get_of_ge (Nat.not_lt.mp hi)]
      rfl
  | set i v =>
    rw [perform, Op.map_apply] at he ⊢
    by_cases hi : i < a.count
    · rw [set_of_lt hc.sized ha hi] at he
      cases he
    · rw [set_of_ge (Nat.not_lt.mp hi)]
      rfl
  | append v =>
    rw [perform, Op.map_apply] at he
    exact absurd he (not_refused (append_cases hc.sized ha v))
  | appendAll vs =>
    rw [perform, Op.map_apply] at he
    exact absurd he (not_refused (appendAll_cases hc.sized ha vs))
  | insert i v =>
    rw [perform, Op.map_apply] at he ⊢
    by_cases hi : i ≤ a.count
    · exact absurd he (not_refused (insert_cases hc.sized ha hi v))
    · rw [insert_of_gt (Nat.not_le.mp hi)]
      rfl
  | removeAt i =>
    rw [perform, Op.map_apply] at he ⊢
    by_cases hi : i < a.count
    · rw [removeAt_of_lt ha hi] at he
      cases he
    · rw [removeAt_of_ge (Nat.not_lt.mp hi)]
      rfl
  | truncate n => cases he
  | resize n v =>
    rw [perform, Op.map_apply] at he
    by_cases hn : n ≤ a.count
    · rw [resize_of_le hn] at he
      cases he
    · exact absurd he (not_refused (resize_cases hc.sized ha (Nat.not_le.mp hn) v))
  | clear => cases he
  | setCapacity n =>
    rw [perform, Op.map_apply] at he ⊢
    by_cases hn : n < a.count
    · rw [setCapacity_of_lt hn]
      rfl
    · exact absurd he (not_refused (setCapacity_cases ha (Nat.not_lt.mp hn)))
  | reserve n =>
    rw [perform, Op.map_apply] at he
    exact absurd he (not_refused (reserve_cases ha n))
  | elements =>
    rw [perform, Op.map_apply, elements_eq ha] at he
    cases he
  | walk n =>
    rw [perform, Op.map_apply, walk_eq ha] at he
    cases he

end HostArray

namespace SyncedArray

variable {α : Type} {c : Codec α} {a b : SyncedArray c} {g : Gate MemoryDevice} {h : Handle}
  {p p' q : SyncedArray c × Gate MemoryDevice} {d : MemoryDevice} {new later : List Device.Event}

open Device (Event)

/-! ## An invariant of the array alone -/

/-- What holds of an array whatever was done to its device. -/
structure Coherent (a : SyncedArray c) : Prop where
  /-- The host array is packed. -/
  packed : a.host.Packed
  /-- The array is well marked. -/
  wellMarked : a.WellMarked
  /-- There can be room for what the allocation has room for. -/
  deviceFits : c.Fits a.deviceCapacity
  /-- A disposed array answers for nothing. -/
  disposed : a.handle = none → a.pending = none

theorem Synced.coherent (ha : a.Synced g) (hh : a.handle = some h) : a.Coherent where
  packed := ha.packed
  wellMarked := ha.wellMarked
  deviceFits := ha.deviceFits
  disposed hnone := by
    rw [hh] at hnone
    cases hnone

theorem markWritten_handle (a : SyncedArray c) (o : Option Handle) (start stop : Nat) :
    ({ a with handle := o } : SyncedArray c).markWritten start stop =
      { a.markWritten start stop with handle := o } := by
  unfold markWritten
  split
  · rfl
  · rw [show ({ a with handle := o } : SyncedArray c).outgrown = a.outgrown from rfl]
    split
    · rfl
    · rfl

theorem markOutgrown_handle (a : SyncedArray c) (o : Option Handle) :
    ({ a with handle := o } : SyncedArray c).markOutgrown =
      { a.markOutgrown with handle := o } := by
  unfold markOutgrown
  rw [show ({ a with handle := o } : SyncedArray c).outgrown = a.outgrown from rfl]
  split
  · rfl
  · rfl

theorem marking_handle (call : ArrayCall α) (reply : Reply α) (before : Nat) (a : SyncedArray c)
    (o : Option Handle) :
    marking call reply before { a with handle := o } =
      { marking call reply before a with handle := o } := by
  unfold marking
  split
  · rfl
  · exact markWritten_handle a o _ _
  · exact markWritten_handle a o _ _
  · exact markWritten_handle a o _ _
  · exact markWritten_handle (a.truncateMarks a.host.count) o _ _
  · rfl
  · split
    · exact markWritten_handle a o _ _
    · rfl
  · rfl
  · exact markOutgrown_handle a o
  · exact markOutgrown_handle a o
  · rfl

/-- A call on the elements does not look at the allocation. -/
theorem afterCall_handle (call : ArrayCall α) (a : SyncedArray c) (r : Run (HostArray c) (Reply α))
    (o : Option Handle) :
    afterCall call { a with handle := o } r = { afterCall call a r with handle := o } := by
  unfold afterCall
  split
  · exact marking_handle call _ _ { a with host := r.state } o
  · rfl

/-- Without its allocation the array is synced with any device. -/
theorem Coherent.synced (ha : a.Coherent) (g : Gate MemoryDevice) :
    ({ a with handle := none } : SyncedArray c).Synced g :=
  ⟨ha.packed, ⟨ha.wellMarked.below, ha.wellMarked.full⟩, ha.deviceFits, fun h hh => by cases hh⟩

/-- Every marked span can be uploaded, whatever the device knows of the allocation. -/
theorem Coherent.spanFits (ha : a.Coherent) (ho : a.outgrown = false) {s : Span}
    (hs : a.marks.span = some s) : a.SpanFits s := by
  have hfits := (ha.synced { inner := {} }).spanFits ho hs
  exact ⟨hfits.word, hfits.room, hfits.inside⟩

theorem Coherent.afterCall (hc : c.Lawful) (ha : a.Coherent) (call : ArrayCall α) :
    (afterCall call a (HostArray.perform call a.host)).Coherent := by
  have hafter := synced_afterCall hc (ha.synced { inner := {} }) call
  obtain ⟨marks, heq⟩ := afterCall_eq call a (HostArray.perform call a.host)
  rw [show HostArray.perform call ({ a with handle := none } : SyncedArray c).host =
    HostArray.perform call a.host from rfl, afterCall_handle] at hafter
  refine ⟨hafter.packed, ⟨hafter.wellMarked.below, hafter.wellMarked.full⟩, hafter.deviceFits, ?_⟩
  rw [heq]
  exact ha.disposed

theorem Coherent.relieved (ha : p.1.Coherent) : (relieved p).1.Coherent := by
  rw [relieved_fst]
  exact ⟨ha.packed, ⟨ha.wellMarked.below, ha.wellMarked.full⟩, ha.deviceFits, fun _ => rfl⟩

theorem Coherent.moved (ha : a.Coherent) (h : Handle) : (a.moved h).Coherent where
  packed := ha.packed
  wellMarked := ⟨ha.wellMarked.below.full_mark?.below, fun _ => ha.wellMarked.below.full_mark?⟩
  deviceFits := ha.packed.fits (Nat.le_refl _)
  disposed hnone := by cases hnone

theorem Coherent.unmarked (ha : a.Coherent) (ho : a.outgrown = false) : a.unmarked.Coherent where
  packed := ha.packed
  wellMarked := by
    refine ⟨Marks.below_clean _, ?_⟩
    intro hout
    rw [show a.unmarked.outgrown = a.outgrown from rfl, ho] at hout
    cases hout
  deviceFits := ha.deviceFits
  disposed := ha.disposed

/-! ## Where the stages of a flush end -/

/-- The array has moved to a new allocation, and the old one is pending. -/
def carried (p : SyncedArray c × Gate MemoryDevice) : SyncedArray c × Gate MemoryDevice :=
  (p.1.moved p.2.inner.table.nextHandle, afterAllocate p.2 p.1.host.storage.length p.1.usage)

theorem rehoused_of_outgrown (ho : p.1.outgrown = true) :
    rehoused p = SyncedArray.relieved (carried p) := by
  rw [rehoused, if_pos ho]
  rfl

theorem outgrown_rehoused (p : SyncedArray c × Gate MemoryDevice) :
    (rehoused p).1.outgrown = false := by
  cases ho : p.1.outgrown with
  | false => rw [rehoused_of_fits ho, ho]
  | true =>
    rw [rehoused_of_outgrown ho, relieved_outgrown]
    exact outgrown_moved _ _

theorem Coherent.rehoused (ha : p.1.Coherent) : (rehoused p).1.Coherent := by
  cases ho : p.1.outgrown with
  | false => rwa [rehoused_of_fits ho]
  | true =>
    rw [rehoused_of_outgrown ho]
    exact (ha.moved _).relieved (p := carried p)

theorem ends_releasePending (hheld : p.1.Held p.2) :
    (releasePending p).Ends
      (fun _ p' => p' = relieved p ∧ p'.1.Held p'.2 ∧ ∀ h, p.1.pending = some h → p.2.Live h)
      (fun p' => calm p' = calm p ∧ p.1.pending.isSome = true) (fun _ => False) := by
  obtain ⟨a, g⟩ := p
  have hheld' := (conduct_releasePending hheld).held hheld
  obtain ⟨hp, hrun⟩ | ⟨h, hp, -, hrun⟩ | ⟨h, hp, -, -, hrun⟩ | ⟨h, hp, -, hl, hrun⟩ :=
    releasePending_cases a g
  · rw [hrun]
    refine Run.ends_ok ⟨(relieved_of_none (p := (a, g)) hp).symm, hheld, ?_⟩
    intro h hsome
    rw [hp] at hsome
    cases hsome
  · rw [hrun]
    exact Run.ends_error ⟨rfl, Option.isSome_of_eq_some hp⟩
  · rw [hrun]
    exact Run.ends_error ⟨rfl, Option.isSome_of_eq_some hp⟩
  · rw [hrun] at hheld' ⊢
    refine Run.ends_ok ⟨?_, hheld', ?_⟩
    · rw [SyncedArray.relieved, hp]
    · intro k hk
      obtain rfl := Option.some.inj (hp.symm.trans hk)
      exact hl

theorem ends_syncAllocation (hheld : p.1.Held p.2) (ha : p.1.Coherent)
    (hp : p.1.pending = none) :
    (syncAllocation p).Ends
      (fun _ p' => p' = rehoused p ∧
        (p.1.outgrown = true → ∀ h, p.1.handle = some h → (carried p).2.Live h))
      (fun p' => calm p' = calm p ∨ p.1.outgrown = true ∧ calm p' = calm (carried p))
      (fun _ => False) := by
  obtain ⟨a, g⟩ := p
  obtain ⟨ho, hrun⟩ | ⟨-, -, hrun⟩ | ⟨-, hexcess, -⟩ | ⟨ho, -, -, hrun⟩ :=
    syncAllocation_cases hheld.unlimited a
  · rw [hrun]
    refine Run.ends_ok ⟨(rehoused_of_fits (p := (a, g)) ho).symm, ?_⟩
    intro hout
    rw [show a.outgrown = true from hout] at ho
    cases ho
  · rw [hrun]
    exact Run.ends_error (.inl rfl)
  · exact absurd ha.packed.length_le (Nat.not_le.mpr hexcess)
  · have hrest := ends_releasePending (p := carried (a, g)) ((custody_moved hheld hp).held hheld)
    rw [hrun]
    refine (hrest.after _).mono ?_ ?_ ?_
    · rintro _ p' ⟨rfl, -, hlive⟩
      exact ⟨(rehoused_of_outgrown (p := (a, g)) ho).symm, fun _ => hlive⟩
    · rintro p' ⟨hcalm, -⟩
      exact .inr ⟨ho, hcalm⟩
    · intro p' hfalse
      exact hfalse.elim

theorem ends_uploadMarked (hh : p.1.handle = some h) :
    (uploadMarked p).Ends
      (fun _ p' => p'.1 = p.1.unmarked ∧ ∃ later, p'.2.inner.events = p.2.inner.events ++ later)
      (fun p' => calm p' = calm p)
      (fun _ => ∃ s, p.1.marks.span = some s ∧ ¬ p.1.SpanFits s) := by
  obtain ⟨a, g⟩ := p
  obtain ⟨hs, hrun⟩ | ⟨s, hs, hunfit, t, hrun⟩ | ⟨s, -, -, -, hrun⟩ |
    ⟨s, -, -, -, reason, -, -, hrun⟩ | ⟨s, -, -, -, al, -, hrun⟩ := uploadMarked_cases hh g
  · have hmarks : a.marks = .clean := congrArg Marks.mk hs
    rw [hrun]
    refine Run.ends_ok ⟨?_, [], (List.append_nil _).symm⟩
    rw [unmarked, ← hmarks]
  · rw [hrun]
    exact Run.ends_trapped ⟨s, hs, hunfit⟩
  · rw [hrun]
    exact Run.ends_error rfl
  · rw [hrun]
    exact Run.ends_error rfl
  · rw [hrun]
    exact Run.ends_ok ⟨rfl, _, MemoryDevice.events_uploaded _ _ _ _ _⟩

/-! ## What a stopped flush has left -/

/-- The array `b` is what a call has left of the array `a`, with `new` as the requests that were
granted: nothing that the array answers for is forgotten. -/
structure Upheld (a b : SyncedArray c) (new : List Event) : Prop where
  /-- The elements are the same, and so is all of their storage. -/
  host : b.host = a.host
  /-- The name is the same. -/
  label : b.label = a.label
  /-- The usage is the same. -/
  usage : b.usage = a.usage
  /-- A pending allocation is pending still or was given back. -/
  pending : ∀ h, a.pending = some h → b.pending = some h ∨ .released h ∈ new

/-- The array `b` is what a stopped call has left of the array `a`, with `d` as the device and `new`
as the requests that were granted. -/
structure Interrupted (a b : SyncedArray c) (d : MemoryDevice) (new : List Event) : Prop
    extends Upheld a b new where
  /-- The marks are the same. -/
  marks : b.marks = a.marks
  /-- The allocation is the same, or the array has moved to a new one, and the old one was given
  back or is pending. -/
  allocation : b.handle = a.handle ∧ b.deviceCapacity = a.deviceCapacity ∨
    ∃ h, .allocated h (a.host.capacity * c.size) ∈ new ∧ b.handle = some h ∧
      b.deviceCapacity = a.host.capacity ∧ d.size? h = some (a.host.capacity * c.size) ∧
      ∀ old, a.handle = some old → .released old ∈ new ∨ b.pending = some old

theorem upheld_refl (a : SyncedArray c) (new : List Event) : Upheld a a new :=
  ⟨rfl, rfl, rfl, fun _ hp => .inl hp⟩

theorem interrupted_refl (a : SyncedArray c) (d : MemoryDevice) : Interrupted a a d [] :=
  ⟨upheld_refl a [], rfl, .inl ⟨rfl, rfl⟩⟩

/-- The pending allocation was given back before. -/
theorem Upheld.after_relieved (hb : Upheld (relieved p).1 b new) :
    Upheld p.1 b (p.1.pending.toList.map .released ++ new) := by
  rw [relieved_fst] at hb
  refine ⟨hb.host, hb.label, hb.usage, ?_⟩
  intro h hp
  refine .inr (List.mem_append_left _ ?_)
  rw [hp]
  exact List.mem_singleton_self _

theorem Interrupted.after_relieved (hb : Interrupted (relieved p).1 b d new) :
    Interrupted p.1 b d (p.1.pending.toList.map .released ++ new) := by
  refine ⟨hb.toUpheld.after_relieved, ?_, ?_⟩
  · rw [hb.marks, relieved_fst]
  · obtain hsame | ⟨h, hmade, hh, hcapacity, hsize, hold⟩ := hb.allocation
    · rw [relieved_fst] at hsame
      exact .inl hsame
    · rw [relieved_fst] at hmade hcapacity hsize hold
      refine .inr ⟨h, List.mem_append_right _ hmade, hh, hcapacity, hsize, ?_⟩
      intro old ho
      exact (hold old ho).imp_left (List.mem_append_right _)

/-- A coherent array that was stopped is coherent. -/
theorem Interrupted.coherent (hb : Interrupted a b d new) (ha : a.Coherent)
    (hh : a.handle = some h) : b.Coherent := by
  refine ⟨?_, ⟨?_, ?_⟩, ?_, ?_⟩
  · rw [hb.host]
    exact ha.packed
  · rw [hb.marks, hb.host]
    exact ha.wellMarked.below
  · intro ho
    rw [hb.marks, hb.host]
    obtain ⟨-, hcapacity⟩ | ⟨h', -, -, hcapacity, -⟩ := hb.allocation
    · rw [outgrown, hcapacity, hb.host] at ho
      exact ha.wellMarked.full ho
    · rw [outgrown, hcapacity, hb.host] at ho
      exact absurd (of_decide_eq_true ho) (Nat.lt_irrefl _)
  · obtain ⟨-, hcapacity⟩ | ⟨h', -, -, hcapacity, -⟩ := hb.allocation
    · rw [hcapacity]
      exact ha.deviceFits
    · rw [hcapacity]
      exact ha.packed.fits (Nat.le_refl _)
  · intro hnone
    obtain ⟨hhandle, -⟩ | ⟨h', -, hhandle, -⟩ := hb.allocation
    · rw [hhandle, hh] at hnone
      cases hnone
    · rw [hhandle] at hnone
      cases hnone

/-- The move does not widen the marks of an array that has outgrown its allocation. -/
theorem WellMarked.marks_moved (ha : a.WellMarked) (ho : a.outgrown = true) (h : Handle) :
    (a.moved h).marks = a.marks := by
  have hbefore : a.marks.span = Span.firstOnes? a.host.count := ha.full ho
  have hafter : (a.moved h).marks.span = Span.firstOnes? a.host.count := ha.below.full_mark?
  exact congrArg Marks.mk (hafter.trans hbefore.symm)

/-- The new allocation holds nothing yet. -/
theorem find?_carried (hg : p.2.inner.table.Sound) :
    (carried p).2.inner.table.find? p.2.inner.table.nextHandle =
      some { bytes := Region.zeros p.1.host.storage.length, usage := p.1.usage } :=
  (HandleTable.find?_insert hg _ _).trans (if_pos rfl)

/-- The release of the old allocation does not reach the new one. -/
theorem find?_rehoused (hheld : p.1.Held p.2) (hp : p.1.pending = none)
    (ho : p.1.outgrown = true) (hlive : ∀ old, p.1.handle = some old → (carried p).2.Live old) :
    (rehoused p).2.inner.table.find? p.2.inner.table.nextHandle =
      some { bytes := Region.zeros p.1.host.storage.length, usage := p.1.usage } := by
  have hheld' : (carried p).1.Held (carried p).2 := (custody_moved hheld hp).held hheld
  rw [rehoused_of_outgrown ho, ← find?_carried hheld.sound]
  cases hold : p.1.handle with
  | none => rw [relieved_of_none (p := carried p) hold]
  | some old =>
    rw [SyncedArray.relieved, show (carried p).1.pending = some old from hold]
    exact hheld'.find?_afterRelease hold (hlive old hold) rfl

theorem size?_of_zeros (hpacked : a.host.Packed) {d : MemoryDevice}
    (hfind : d.table.find? h =
      some { bytes := Region.zeros a.host.storage.length, usage := a.usage }) :
    d.size? h = some (a.host.capacity * c.size) := by
  rw [MemoryDevice.size?, MemoryDevice.contents?, hfind, ← hpacked.length_storage]
  exact congrArg some (Region.length_zeros _)

theorem upheld_of_none (hp : a.pending = none) (hhost : b.host = a.host)
    (hlabel : b.label = a.label) (husage : b.usage = a.usage) (new : List Event) :
    Upheld a b new := by
  refine ⟨hhost, hlabel, husage, ?_⟩
  intro h hsome
  rw [hp] at hsome
  cases hsome

theorem interrupted_carried (hg : p.2.inner.table.Sound) (ha : p.1.Coherent)
    (hp : p.1.pending = none) (ho : p.1.outgrown = true) :
    Interrupted p.1 (carried p).1 (carried p).2.inner
      [.allocated p.2.inner.table.nextHandle (p.1.host.capacity * c.size)] where
  toUpheld := upheld_of_none (b := (carried p).1) hp rfl rfl rfl _
  marks := ha.wellMarked.marks_moved ho _
  allocation := .inr ⟨_, List.mem_singleton_self _, rfl, rfl,
    size?_of_zeros ha.packed (find?_carried hg), fun _ hold => .inr hold⟩

theorem interrupted_rehoused (hheld : p.1.Held p.2) (ha : p.1.Coherent) (hp : p.1.pending = none)
    (ho : p.1.outgrown = true)
    (hlive : ∀ old, p.1.handle = some old → (carried p).2.Live old) :
    Interrupted p.1 (rehoused p).1 (rehoused p).2.inner
      (.allocated p.2.inner.table.nextHandle (p.1.host.capacity * c.size) ::
        p.1.handle.toList.map .released) := by
  have hfirst := rehoused_fst ho
  refine ⟨upheld_of_none hp ?_ ?_ ?_ _, ?_, .inr ⟨_, List.mem_cons_self, ?_, ?_, ?_, ?_⟩⟩
  · rw [hfirst]
    rfl
  · rw [hfirst]
    rfl
  · rw [hfirst]
    rfl
  · rw [hfirst]
    exact ha.wellMarked.marks_moved ho _
  · rw [hfirst]
    rfl
  · rw [hfirst]
    rfl
  · exact size?_of_zeros ha.packed (find?_rehoused hheld hp ho hlive)
  · intro old hold
    rw [hold]
    exact .inl (List.mem_cons_of_mem _ List.mem_cons_self)

/-- The state `p'` is what a call from `p` that was stopped has left. -/
def Interrupts (p p' : SyncedArray c × Gate MemoryDevice) : Prop :=
  ∃ new, p'.2.inner.events = p.2.inner.events ++ new ∧ Interrupted p.1 p'.1 p'.2.inner new

/-- A fault that has struck makes no difference. -/
theorem Interrupts.of_calm (hq : Interrupts p q) (hcalm : calm p' = calm q) : Interrupts p p' := by
  obtain ⟨new, hevents, hb⟩ := hq
  have harray : p'.1 = q.1 := congrArg (fun r => r.1) hcalm
  have htable : p'.2.inner.table = q.2.inner.table := congrArg (fun r => r.2.inner.table) hcalm
  have hsize : ∀ h, p'.2.inner.size? h = q.2.inner.size? h := by
    intro h
    rw [MemoryDevice.size?, MemoryDevice.contents?, htable]
    rfl
  refine ⟨new, ?_, ?_⟩
  · rw [← hevents]
    exact congrArg (fun r => r.2.inner.events) hcalm
  · rw [harray]
    refine ⟨hb.toUpheld, hb.marks, ?_⟩
    simp only [hsize]
    exact hb.allocation

theorem interrupts_start (hcalm : calm p' = calm p) : Interrupts p p' :=
  .of_calm ⟨[], (List.append_nil _).symm, interrupted_refl _ _⟩ hcalm

theorem interrupts_relieved (p : SyncedArray c × Gate MemoryDevice) :
    Interrupts p (relieved p) := by
  refine ⟨_, ?_, (interrupted_refl _ _).after_relieved⟩
  rw [events_relieved, List.append_nil]

theorem interrupts_carried (hheld : (relieved p).1.Held (relieved p).2) (ha : p.1.Coherent)
    (ho : (relieved p).1.outgrown = true) : Interrupts p (carried (relieved p)) := by
  have hp : (relieved p).1.pending = none := by rw [relieved_fst]
  refine ⟨_, ?_, (interrupted_carried hheld.sound ha.relieved hp ho).after_relieved⟩
  rw [← List.append_assoc, ← events_relieved, ← ha.relieved.packed.length_storage]
  exact MemoryDevice.events_allocated _ _ _

theorem interrupts_rehoused (hheld : (relieved p).1.Held (relieved p).2) (ha : p.1.Coherent)
    (hlive : (relieved p).1.outgrown = true → ∀ old, (relieved p).1.handle = some old →
      (carried (relieved p)).2.Live old) : Interrupts p (rehoused (relieved p)) := by
  cases ho : (relieved p).1.outgrown with
  | false =>
    rw [rehoused_of_fits ho]
    exact interrupts_relieved p
  | true =>
    have hp : (relieved p).1.pending = none := by rw [relieved_fst]
    refine ⟨_, ?_, (interrupted_rehoused hheld ha.relieved hp ho (hlive ho)).after_relieved⟩
    rw [← List.append_assoc, ← events_relieved, ← ha.relieved.packed.length_storage]
    exact events_rehoused ho

theorem handle_rehoused (hh : p.1.handle.isSome = true) :
    (rehoused p).1.handle.isSome = true := by
  cases ho : p.1.outgrown with
  | false =>
    rw [rehoused_of_fits ho]
    exact hh
  | true =>
    rw [rehoused_fst ho]
    rfl

/-- The state `p'` is what a flush from `p` that has come to its end has left. -/
def Completes (p p' : SyncedArray c × Gate MemoryDevice) : Prop :=
  p'.1 = (rehoused (relieved p)).1.unmarked ∧
    ∃ new, p'.2.inner.events = p.2.inner.events ++ new ∧ Upheld p.1 p'.1 new

/-- A flush comes to its end or is stopped; it never breaks down. -/
theorem ends_flush (hheld : p.1.Held p.2) (ha : p.1.Coherent) (hh : p.1.handle = some h) :
    (flush p).Ends (fun _ p' => Completes p p') (Interrupts p) (fun _ => False) := by
  rw [flush_eq, Op.bind_of_ok (liveHandle_of_some hh p.2), Run.after_nil]
  refine Op.ends_bind ((ends_releasePending hheld).mono (fun _ _ hq => hq)
    (fun p' hcalm => interrupts_start hcalm.1) (fun _ => id)) ?_
  rintro - _ ⟨rfl, hheld₁, -⟩
  have hp₁ : (relieved p).1.pending = none := by rw [relieved_fst]
  have hh₁ : (relieved p).1.handle = some h := by rw [relieved_fst, hh]
  have ha₁ := ha.relieved
  refine Op.ends_bind ((ends_syncAllocation hheld₁ ha₁ hp₁).mono (fun _ _ hq => hq) ?_
    (fun _ => id)) ?_
  · rintro p' (hcalm | ⟨ho, hcalm⟩)
    · exact (interrupts_relieved p).of_calm hcalm
    · exact (interrupts_carried hheld₁ ha ho).of_calm hcalm
  · rintro - _ ⟨rfl, hlive⟩
    have hrehoused := interrupts_rehoused hheld₁ ha hlive
    obtain ⟨h₂, hh₂⟩ := Option.isSome_iff_exists.mp
      (handle_rehoused (Option.isSome_of_eq_some hh₁))
    refine (ends_uploadMarked hh₂).mono ?_ ?_ ?_
    · rintro _ p' ⟨hp', later, hlater⟩
      obtain ⟨new, hnew, hb⟩ := hrehoused
      refine ⟨hp', new ++ later, ?_, ?_⟩
      · rw [hlater, hnew, List.append_assoc]
      · rw [hp']
        exact ⟨hb.host, hb.label, hb.usage, fun k hk =>
          (hb.pending k hk).imp_right (List.mem_append_left _)⟩
    · intro p' hcalm
      exact hrehoused.of_calm hcalm
    · rintro p' ⟨s, hs, hunfit⟩
      exact hunfit (ha₁.rehoused.spanFits (outgrown_rehoused _) hs)

theorem Completes.coherent (hp' : Completes p p') (ha : p.1.Coherent) : p'.1.Coherent := by
  rw [hp'.1]
  exact ha.relieved.rehoused.unmarked (outgrown_rehoused _)

theorem Completes.handle (hp' : Completes p p') (hh : p.1.handle.isSome = true) :
    p'.1.handle.isSome = true := by
  rw [hp'.1]
  refine handle_rehoused ?_
  rw [relieved_fst]
  exact hh

/-! ## The other calls -/

theorem ends_bindCurrent (hh : p.1.handle = some h) :
    (bindCurrent p).Ends (fun _ p' => p'.1 = p.1) (fun p' => calm p' = calm p)
      (fun _ => False) := by
  obtain ⟨a, g⟩ := p
  obtain ⟨-, hrun⟩ | ⟨-, -, hrun⟩ | ⟨-, -, hrun⟩ := bindCurrent_cases hh g
  · rw [hrun]
    exact Run.ends_error rfl
  · rw [hrun]
    exact Run.ends_error rfl
  · rw [hrun]
    exact Run.ends_ok rfl

/-- A bind is stopped in its flush or behind it. -/
theorem ends_bind (hheld : p.1.Held p.2) (ha : p.1.Coherent) (hh : p.1.handle = some h) :
    (SyncedArray.bind p).Ends (fun _ p' => p'.1.Coherent)
      (fun p' => Interrupts p p' ∨
        (flush p).outcome = .ok () ∧ Completes p (flush p).state ∧ calm p' = calm (flush p).state)
      (fun _ => False) := by
  have hflush := ends_flush hheld ha hh
  rw [show p = (p.1, p.2) from rfl, bind_of_some hh]
  rcases hrun : flush p with ⟨v | e | t, p₁, l⟩
  · rw [hrun] at hflush
    have hdone : Completes p p₁ := hflush
    obtain ⟨h₁, hh₁⟩ := Option.isSome_iff_exists.mp (hdone.handle (Option.isSome_of_eq_some hh))
    rw [Op.bind_of_ok hrun]
    refine ((ends_bindCurrent hh₁).after _).mono ?_ ?_ (fun _ => id)
    · intro _ p' hp'
      rw [hp']
      exact hdone.coherent ha
    · intro p' hcalm
      exact .inr ⟨rfl, hdone, hcalm⟩
  · rw [hrun] at hflush
    rw [Op.bind_of_error hrun]
    exact Run.ends_error (.inl hflush)
  · rw [hrun] at hflush
    rw [Op.bind_of_trapped hrun]
    exact Run.ends_trapped hflush

theorem ends_unbind (p : SyncedArray c × Gate MemoryDevice) :
    (unbind p).Ends (fun _ p' => p'.1 = p.1) (fun p' => calm p' = calm p) (fun _ => False) := by
  obtain ⟨a, g⟩ := p
  cases hh : a.handle with
  | none =>
    rw [unbind, Op.bind_of_error ((liveHandle_of_none hh g).trans (Op.raise_apply _ _ _))]
    exact Run.ends_error rfl
  | some h =>
    obtain ⟨-, hrun⟩ | ⟨-, hrun⟩ := unbind_cases hh g
    · rw [hrun]
      exact Run.ends_error rfl
    · rw [hrun]
      exact Run.ends_ok rfl

theorem ends_releaseHandle (p : SyncedArray c × Gate MemoryDevice) :
    (releaseHandle p).Ends (fun _ p' => p'.1 = { p.1 with handle := none })
      (fun p' => calm p' = calm p ∧ p.1.handle.isSome = true) (fun _ => False) := by
  obtain ⟨a, g⟩ := p
  obtain ⟨hh, hrun⟩ | ⟨h, hh, -, hrun⟩ | ⟨h, hh, -, -, hrun⟩ | ⟨h, -, -, -, hrun⟩ :=
    releaseHandle_cases a g
  · rw [hrun]
    refine Run.ends_ok ?_
    rw [← hh]
  · rw [hrun]
    exact Run.ends_error ⟨rfl, Option.isSome_of_eq_some hh⟩
  · rw [hrun]
    exact Run.ends_error ⟨rfl, Option.isSome_of_eq_some hh⟩
  · rw [hrun]
    exact Run.ends_ok rfl

/-- A disposal that is stopped leaves the array live. -/
theorem ends_dispose (hheld : p.1.Held p.2) (ha : p.1.Coherent) :
    (dispose p).Ends (fun _ p' => p'.1.Coherent)
      (fun p' => Interrupts p p' ∧ p'.1.handle = p.1.handle ∧
        p'.1.deviceCapacity = p.1.deviceCapacity ∧ p.1.handle.isSome = true)
      (fun _ => False) := by
  rw [dispose_eq]
  refine Op.ends_bind ((ends_releasePending hheld).mono (fun _ _ hq => hq) ?_ (fun _ => id)) ?_
  · rintro p' ⟨hcalm, hpending⟩
    have harray : p'.1 = p.1 := congrArg (fun r => r.1) hcalm
    refine ⟨interrupts_start hcalm, by rw [harray], by rw [harray], ?_⟩
    -- something was pending, so the array is not disposed
    cases hh : p.1.handle with
    | none =>
      rw [ha.disposed hh] at hpending
      cases hpending
    | some h => rfl
  · rintro - _ ⟨rfl, -, -⟩
    refine (ends_releaseHandle (relieved p)).mono ?_ ?_ (fun _ => id)
    · intro _ p' hp'
      rw [hp', relieved_fst]
      exact ⟨ha.packed, ⟨ha.wellMarked.below, ha.wellMarked.full⟩, ha.deviceFits, fun _ => rfl⟩
    · rintro p' ⟨hcalm, hsome⟩
      have harray : p'.1 = (relieved p).1 := congrArg (fun r => r.1) hcalm
      rw [relieved_fst] at harray hsome
      exact ⟨(interrupts_relieved p).of_calm hcalm, by rw [harray], by rw [harray], hsome⟩

theorem Interrupts.coherent (hp' : Interrupts p p') (ha : p.1.Coherent) (hh : p.1.handle = some h) :
    p'.1.Coherent := by
  obtain ⟨new, -, hb⟩ := hp'
  exact hb.coherent ha hh

/-- However a call ends, it leaves a coherent array. -/
theorem Coherent.perform (hc : c.Lawful) (hheld : p.1.Held p.2) (ha : p.1.Coherent)
    (call : Call α) : (SyncedArray.perform call p).state.1.Coherent := by
  cases hh : p.1.handle with
  | none =>
    rw [show p = (p.1, p.2) from rfl, Released.perform_state ⟨hh, ha.disposed hh⟩]
    exact ha
  | some h =>
    cases call with
    | array call =>
      rw [SyncedArray.perform, show p = (p.1, p.2) from rfl, performArray_of_some hh]
      exact ha.afterCall hc call
    | flush =>
      rw [SyncedArray.perform, Op.map_apply]
      exact ((ends_flush hheld ha hh).mono (fun _ p' hp' => hp'.coherent ha)
        (fun p' hp' => hp'.coherent ha hh) (fun _ => False.elim)).elim
    | bind =>
      rw [SyncedArray.perform, Op.map_apply]
      refine ((ends_bind hheld ha hh).mono (fun _ _ => id) ?_ (fun _ => False.elim)).elim
      rintro p' (hp' | ⟨-, hdone, hcalm⟩)
      · exact hp'.coherent ha hh
      · rw [show p'.1 = (flush p).state.1 from congrArg (fun r => r.1) hcalm]
        exact hdone.coherent ha
    | unbind =>
      rw [SyncedArray.perform, Op.map_apply]
      have hsame : (unbind p).state.1 = p.1 :=
        ((ends_unbind p).mono (fun _ _ => id) (fun _ hcalm => congrArg (fun r => r.1) hcalm)
          (fun _ => False.elim)).elim
      rwa [hsame]
    | dispose =>
      rw [SyncedArray.perform, Op.map_apply]
      exact ((ends_dispose hheld ha).mono (fun _ _ => id)
        (fun p' hp' => hp'.1.coherent ha hh) (fun _ => False.elim)).elim

/-! ## Calls that end with an error -/

/-- A call on the elements that is refused leaves the array as it is. -/
theorem performArray_of_error (hc : c.Lawful) (ha : p.1.Coherent) {call : ArrayCall α} {e : Error}
    (he : (performArray call p).outcome = .error e) : (performArray call p).state = p := by
  obtain ⟨a, g⟩ := p
  cases hh : a.handle with
  | none =>
    rw [performArray_of_none hh]
    rfl
  | some h =>
    rw [performArray_of_some hh] at he ⊢
    have hhost : (HostArray.perform call a.host).outcome = .error e := he
    simp only [afterCall, hhost]
    rw [HostArray.state_of_error hc ha.packed hhost]

theorem flush_of_disposed (hh : p.1.handle = none) : (flush p).state = p := by
  rw [flush_eq, Op.bind_of_error ((liveHandle_of_none hh p.2).trans (Op.raise_apply _ _ _))]

/-- What a flush that is refused has left. -/
theorem interrupts_flush (hheld : p.1.Held p.2) (ha : p.1.Coherent) {e : Error}
    (he : (flush p).outcome = .error e) : Interrupts p (flush p).state := by
  cases hh : p.1.handle with
  | none =>
    rw [flush_of_disposed hh]
    exact interrupts_start rfl
  | some h => exact (ends_flush hheld ha hh).of_error he

/-- What a bind that is refused has left. -/
theorem interrupts_bind (hheld : p.1.Held p.2) (ha : p.1.Coherent) {e : Error}
    (he : (SyncedArray.bind p).outcome = .error e) :
    Interrupts p (SyncedArray.bind p).state ∨
      (flush p).outcome = .ok () ∧ Completes p (flush p).state ∧
        calm (SyncedArray.bind p).state = calm (flush p).state := by
  cases hh : p.1.handle with
  | none =>
    refine .inl ?_
    rw [show p = (p.1, p.2) from rfl, bind_of_none hh]
    exact interrupts_start rfl
  | some h => exact (ends_bind hheld ha hh).of_error he

/-- What a call that ends with an error has left: `p` is the array with its gate before and `p'`
afterwards, and `new` are the requests that were granted. -/
structure Atomic (call : Call α) (p p' : SyncedArray c × Gate MemoryDevice) (new : List Event) :
    Prop extends Upheld p.1 p'.1 new where
  /-- A call on the elements has changed nothing of the array. -/
  array : ∀ asked, call = .array asked → p'.1 = p.1
  /-- An unbind has changed nothing of the array. -/
  unbind : call = .unbind → p'.1 = p.1
  /-- A disposal has changed nothing but what is pending, and the array is live. -/
  dispose : call = .dispose → p'.1.marks = p.1.marks ∧ p'.1.handle = p.1.handle ∧
    p'.1.deviceCapacity = p.1.deviceCapacity ∧ p'.1.isDisposed = false
  /-- A flush was stopped. -/
  flush : call = .flush → Interrupted p.1 p'.1 p'.2.inner new
  /-- A bind was stopped in its flush, or all is as its flush has left it. -/
  bind : call = .bind → Interrupted p.1 p'.1 p'.2.inner new ∨
    (SyncedArray.flush p).outcome = .ok () ∧ calm p' = calm (SyncedArray.flush p).state

theorem atomic_array (hb : Upheld p.1 p'.1 new) (hsame : p'.1 = p.1) (asked : ArrayCall α) :
    Atomic (.array asked) p p' new :=
  { hb with
    array := fun _ _ => hsame
    unbind := nofun
    dispose := nofun
    flush := nofun
    bind := nofun }

theorem atomic_flush (hb : Interrupted p.1 p'.1 p'.2.inner new) : Atomic .flush p p' new :=
  { hb.toUpheld with
    array := nofun
    unbind := nofun
    dispose := nofun
    flush := fun _ => hb
    bind := nofun }

theorem atomic_bind (hb : Upheld p.1 p'.1 new)
    (hbind : Interrupted p.1 p'.1 p'.2.inner new ∨
      (SyncedArray.flush p).outcome = .ok () ∧ calm p' = calm (SyncedArray.flush p).state) :
    Atomic .bind p p' new :=
  { hb with
    array := nofun
    unbind := nofun
    dispose := nofun
    flush := nofun
    bind := fun _ => hbind }

theorem atomic_unbind (hb : Upheld p.1 p'.1 new) (hsame : p'.1 = p.1) : Atomic .unbind p p' new :=
  { hb with
    array := nofun
    unbind := fun _ => hsame
    dispose := nofun
    flush := nofun
    bind := nofun }

theorem atomic_dispose (hb : Upheld p.1 p'.1 new) (hdispose : p'.1.marks = p.1.marks ∧
      p'.1.handle = p.1.handle ∧ p'.1.deviceCapacity = p.1.deviceCapacity ∧
      p'.1.isDisposed = false) : Atomic .dispose p p' new :=
  { hb with
    array := nofun
    unbind := nofun
    dispose := fun _ => hdispose
    flush := nofun
    bind := nofun }

theorem exists_atomic (hc : c.Lawful) (hheld : p.1.Held p.2) (ha : p.1.Coherent) {call : Call α}
    {e : Error} (he : (perform call p).outcome = .error e) :
    ∃ new, (perform call p).state.2.inner.events = p.2.inner.events ++ new ∧
      Atomic call p (perform call p).state new := by
  cases call with
  | array asked =>
    rw [perform, performArray_of_error hc ha he]
    exact ⟨[], (List.append_nil _).symm, atomic_array (upheld_refl _ _) rfl asked⟩
  | flush =>
    rw [perform, Op.map_apply] at he ⊢
    obtain ⟨new, hevents, hb⟩ := interrupts_flush hheld ha (Outcome.error_of_map he)
    exact ⟨new, hevents, atomic_flush hb⟩
  | bind =>
    rw [perform, Op.map_apply] at he ⊢
    obtain ⟨new, hevents, hb⟩ | ⟨hok, ⟨-, new, hevents, hb⟩, hcalm⟩ :=
      interrupts_bind hheld ha (Outcome.error_of_map he)
    · exact ⟨new, hevents, atomic_bind hb.toUpheld (.inl hb)⟩
    · have harray : (SyncedArray.bind p).state.1 = (SyncedArray.flush p).state.1 :=
        congrArg (fun r => r.1) hcalm
      rw [← harray] at hb
      refine ⟨new, ?_, atomic_bind hb (.inr ⟨hok, hcalm⟩)⟩
      rw [← hevents]
      exact congrArg (fun r => r.2.inner.events) hcalm
  | unbind =>
    rw [perform, Op.map_apply] at he ⊢
    have hcalm := (ends_unbind p).of_error (Outcome.error_of_map he)
    have harray : (SyncedArray.unbind p).state.1 = p.1 := congrArg (fun r => r.1) hcalm
    obtain ⟨new, hevents, hb⟩ := interrupts_start hcalm
    exact ⟨new, hevents, atomic_unbind hb.toUpheld harray⟩
  | dispose =>
    rw [perform, Op.map_apply] at he ⊢
    obtain ⟨⟨new, hevents, hb⟩, hhandle, hcapacity, hsome⟩ :=
      (ends_dispose hheld ha).of_error (Outcome.error_of_map he)
    have hlive : (SyncedArray.dispose p).state.1.isDisposed = false := by
      rw [isDisposed, hhandle]
      exact Option.isNone_eq_false_iff.mpr hsome
    exact ⟨new, hevents,
      atomic_dispose hb.toUpheld ⟨hb.marks, hhandle, hcapacity, hlive⟩⟩

end SyncedArray

namespace Scene

variable {s : Scene} {k : Nat} {m : Member} {h : Handle} {action : Action}

open SyncedArray (Coherent Atomic)

/-! ## Arrays in a scene -/

theorem coherent_step (hs : s.Sound) (ha : ∀ m, s.member? k = some m → m.array.Coherent)
    (action : Action) : ∀ m, (step action s).state.member? k = some m → m.array.Coherent := by
  intro m hm
  obtain hsame | hgone | ⟨f, config, vs, rfl, rfl, -⟩ | ⟨m', call, hm', rfl, hmember⟩ :=
    member?_step_cases hs action k
  · exact ha m (hsame ▸ hm)
  · rw [hgone] at hm
    cases hm
  · obtain ⟨-, habsent⟩ | ⟨hroom, -, hmember⟩ := step_create_cases hs f config vs
    · rw [habsent] at hm
      cases hm
    · obtain rfl := Option.some.inj (hmember.symm.trans hm)
      have hhandle : (SyncedArray.filled config vs s.gate.inner.table.nextHandle :
          SyncedArray f.codec).handle = some s.gate.inner.table.nextHandle := by
        obtain ⟨host, marks, heq⟩ := SyncedArray.filled_eq (c := f.codec) config vs
          s.gate.inner.table.nextHandle
        rw [heq]
        rfl
      exact (SyncedArray.synced_filled f.lawful hs.table hroom vs).coherent hhandle
  · obtain rfl := Option.some.inj (hmember.symm.trans hm)
    exact (ha m' hm').perform (p := (m'.array, s.gate)) m'.format.lawful (hs.array_held hm') call

theorem coherent_run (actions : List Action) (k : Nat) :
    ∀ m, (Scene.run {} actions).member? k = some m → m.array.Coherent := by
  have hrun : (Scene.run {} actions).Sound ∧
      ∀ m, (Scene.run {} actions).member? k = some m → m.array.Coherent :=
    run_invariant (P := fun _ _ => True)
      (I := fun s => s.Sound ∧ ∀ m, s.member? k = some m → m.array.Coherent)
      (fun _ action hs _ => ⟨hs.1.step action, coherent_step hs.1 hs.2 action⟩)
      ⟨sound_empty, fun m hm => by cases hm⟩ (along_of_forall (fun _ _ => trivial) _ _)
  exact hrun.2

/-- A call that ends with an error leaves the elements with their storage, the name and the usage of
the array as they were, and forgets no pending allocation that was not given back.  Beyond that, a
call on the elements and an unbind change nothing of the array, a disposal at most what is pending,
and a flush not the marks; the allocation is the same then, or it is a new one for all that the host
array has room for, and the old one was given back or is pending.  A bind is stopped in the same way
by its flush, or the flush has ended well and all is as it has left it.  The scene is that of any
run, whatever requests were made to the device. -/
theorem refusal_atomic (actions : List Action) (hm : (Scene.run {} actions).member? k = some m)
    {call : SyncedArray.Call m.format.Element} {e : Error}
    (he : (Scene.step (.call k m.format call) (Scene.run {} actions)).outcome = .error e) :
    ∃ b, (Scene.step (.call k m.format call) (Scene.run {} actions)).state.member? k =
        some { m with array := b } ∧
      Atomic call (m.array, (Scene.run {} actions).gate)
        (b, (Scene.step (.call k m.format call) (Scene.run {} actions)).state.gate)
        (recorded (.call k m.format call) (Scene.run {} actions)) := by
  have hsound := sound_empty.run actions
  have ha := coherent_run actions k m hm
  generalize Scene.run {} actions = s at *
  have herror := Outcome.error_of_map ((congrArg Run.outcome (step_call hm call)).symm.trans he)
  obtain ⟨new, hevents, hatomic⟩ := SyncedArray.exists_atomic (p := (m.array, s.gate))
    m.format.lawful (hsound.array_held hm) ha herror
  have hnew : recorded (.call k m.format call) s = new := by
    apply recorded_eq
    rw [device, gate_step_call hm]
    exact hevents
  refine ⟨_, member?_step_call hm call, ?_⟩
  rw [gate_step_call hm, hnew]
  exact hatomic

/-- An array grows after somebody else has given its allocation back. -/
def undermined : List Action :=
  [.create .uint8 { capacity := 1 } [7], .request (.release ⟨1, 1⟩),
    .call 0 .uint8 (.array (.append 9))]

theorem refusal_atomic_undermined :
    (Scene.step (.call 0 .uint8 .flush) (Scene.run {} undermined)).outcome =
        .error (.device (MemoryDevice.releaseUnknown ⟨1, 1⟩)) ∧
      ∃ b : SyncedArray Format.uint8.codec,
        (Scene.step (.call 0 .uint8 .flush) (Scene.run {} undermined)).state.member? 0 =
            some ⟨.uint8, b⟩ ∧
          b.host.storage = [7, 9] ∧ b.marks.span = some { first := 0, last := 1 } ∧
          (b.handle = some ⟨1, 1⟩ ∧ b.deviceCapacity = 1 ∨
            b.deviceCapacity = 2 ∧ b.pending = some ⟨1, 1⟩) := by
  have herror : (Scene.step (.call 0 .uint8 .flush) (Scene.run {} undermined)).outcome =
      .error (.device (MemoryDevice.releaseUnknown ⟨1, 1⟩)) := rfl
  obtain ⟨b, hb, hatomic⟩ := refusal_atomic undermined (k := 0) rfl herror
  have hflush := hatomic.flush rfl
  refine ⟨herror, b, hb, ?_, ?_, ?_⟩
  · rw [hflush.host]
    rfl
  · rw [hflush.marks]
    rfl
  · obtain hsame | ⟨h, -, -, hcapacity, -, hold⟩ := hflush.allocation
    · exact .inl hsame
    · refine .inr ⟨hcapacity, (hold ⟨1, 1⟩ rfl).resolve_left ?_⟩
      decide

end Scene

end BufferSync
