import BufferSync.Proofs.Dependability

/-!
# Arrays without the names of their allocations

An array knows its allocation by a handle, and which handle that is depends on everything else that
happens on the device.  The imprint of an array is the array with its handle blotted out, next to
the allocation itself.

On a device without armed faults an array is a machine of its own: what a call answers is a function
of the imprint, and so is the imprint behind the call (`Imprint.respond`).  The same holds of a new
array, whose imprint depends on nothing but what it is made of.
-/

namespace BufferSync.SyncedArray

variable {α : Type} {c : Codec α} {β : Type} {a : SyncedArray c} {g : Gate MemoryDevice}
  {h : Handle} {p : SyncedArray c × Gate MemoryDevice}

/-- The array with its handle blotted out. -/
def anonymous (a : SyncedArray c) : SyncedArray c :=
  { a with handle := a.handle.map fun _ => .null }

/-- An array without names, and its allocation. -/
structure Imprint (c : Codec α) where
  /-- The array. -/
  array : SyncedArray c
  /-- Its allocation; none after disposal. -/
  allocation : Option Allocation
deriving DecidableEq

/-- What is left of an array and its device without the names. -/
def imprint (p : SyncedArray c × Gate MemoryDevice) : Imprint c where
  array := p.1.anonymous
  allocation := p.1.handle.bind p.2.inner.table.find?

namespace Imprint

/-- An array that has outgrown its allocation gets a new one. -/
def rehoused (i : Imprint c) : Imprint c :=
  if i.array.outgrown then
    { array := { i.array.moved .null with pending := none }
      allocation :=
        some { bytes := Region.zeros i.array.host.storage.length, usage := i.array.usage } }
  else i

/-- The marked elements are uploaded. -/
def delivered (i : Imprint c) : Imprint c :=
  match i.array.marks.span with
  | none => i
  | some s =>
    { array := i.array.unmarked
      allocation := i.allocation.map fun al =>
        { al with bytes := Region.overwrite al.bytes (s.first * c.size) (i.array.spanBytes s) } }

/-- What a live array answers to a call, and what becomes of it. -/
def answer (i : Imprint c) : Call α → Outcome (Reply α) × Imprint c
  | .array call =>
    ((HostArray.perform call i.array.host).outcome,
      { i with array := afterCall call i.array (HostArray.perform call i.array.host) })
  | .flush | .bind => (.ok .done, i.rehoused.delivered)
  | .unbind => (.ok .done, i)
  | .dispose => (.ok .done, { array := { i.array with handle := none }, allocation := none })

/-- What an array answers to a call, and what becomes of it. -/
def respond (i : Imprint c) (call : Call α) : Outcome (Reply α) × Imprint c :=
  if i.array.isDisposed then (refused i.array.label call, i) else i.answer call

end Imprint

/-! ## The stages of a flush -/

theorem imprint_of_some (hh : a.handle = some h) :
    imprint (a, g) =
      { array := { a with handle := some .null }, allocation := g.inner.table.find? h } := by
  rw [imprint, anonymous, hh]
  rfl

theorem imprint_of_none (hh : a.handle = none) :
    imprint (a, g) = { array := { a with handle := none }, allocation := none } := by
  rw [imprint, anonymous, hh]
  rfl

theorem imprint_rehoused (hready : Ready p) (hp : p.1.pending = none) :
    imprint (rehoused p) = (imprint p).rehoused := by
  cases ho : p.1.outgrown with
  | false =>
    rw [rehoused_of_fits ho, Imprint.rehoused, show (imprint p).array.outgrown = false from ho]
    rfl
  | true =>
    have hlive : ∀ old, p.1.handle = some old → (carried p).2.Live old := fun old hold =>
      (custody_moved hready.held hp).owned_live hready.live old (mem_owned_of_pending hold)
    rw [Imprint.rehoused, show (imprint p).array.outgrown = true from ho, imprint, rehoused_fst ho]
    exact congrArg (Imprint.mk _) (find?_rehoused hready.held hp ho hlive)

theorem imprint_delivered (hready : Ready p) : imprint (delivered p) = (imprint p).delivered := by
  obtain ⟨h, hh⟩ := Option.isSome_iff_exists.mp hready.handle
  obtain ⟨al, hal, -⟩ := hready.synced.device h hh
  cases hs : p.1.marks.span with
  | none =>
    rw [delivered_of_clean hs, Imprint.delivered, show (imprint p).array.marks.span = none from hs]
  | some s =>
    have hfind := HandleTable.find?_replace hal
      { al with bytes := Region.overwrite al.bytes (s.first * c.size) (p.1.spanBytes s) } h
    rw [if_pos rfl] at hfind
    rw [delivered_of_marked hh hs hal, Imprint.delivered,
      show (imprint p).array.marks.span = some s from hs, show p = (p.1, p.2) from rfl,
      imprint_of_some hh, imprint_of_some (a := p.1.unmarked) hh, hal]
    exact congrArg (Imprint.mk _) hfind

theorem imprint_settled (hready : Ready p) (hcalm : calm p = p) (hp : p.1.pending = none) :
    imprint (settled p) = (imprint p).rehoused.delivered := by
  rw [settled, relieved_of_none hp, imprint_delivered (hready.rehoused hcalm hp).1,
    imprint_rehoused hready hp]

/-! ## Calls -/

/-- An array on a device without faults: nothing is in its way. -/
structure Untroubled (p : SyncedArray c × Gate MemoryDevice) : Prop where
  /-- A live array can be brought to the device. -/
  ready : p.1.isDisposed = false → Ready p
  /-- No fault is armed. -/
  calm : calm p = p
  /-- No allocation is pending. -/
  pending : p.1.pending = none

/-- The run gives a response of the imprint and leaves everything as calm as before. -/
structure Responds (response : Outcome β × Imprint c)
    (r : Run (SyncedArray c × Gate MemoryDevice) β) : Prop where
  /-- The outcome is that of the response. -/
  outcome : r.outcome = response.1
  /-- The imprint is that of the response. -/
  imprint : imprint r.state = response.2
  /-- No fault is armed. -/
  calm : calm r.state = r.state
  /-- No allocation is pending. -/
  pending : r.state.1.pending = none

theorem Responds.map {γ : Type} {response : Outcome β × Imprint c}
    {x : Op (SyncedArray c × Gate MemoryDevice) β} (hx : Responds response (x p)) (f : β → γ) :
    Responds (response.1.map f, response.2) ((x >>= fun v => pure (f v)) p) := by
  rw [Op.map_apply]
  exact ⟨congrArg (Outcome.map f) hx.outcome, hx.imprint, hx.calm, hx.pending⟩

theorem imprint_afterCall (call : ArrayCall α) (a : SyncedArray c)
    (r : Run (HostArray c) (Reply α)) (g : Gate MemoryDevice) :
    imprint (afterCall call a r, g) =
      { imprint (a, g) with array := afterCall call (imprint (a, g)).array r } := by
  obtain ⟨marks, heq⟩ := afterCall_eq call a r
  have hhandle : (afterCall call a r).handle = a.handle := by rw [heq]
  have hanonymous : (afterCall call a r).anonymous = afterCall call a.anonymous r := by
    rw [anonymous, hhandle]
    exact (afterCall_handle call a r _).symm
  rw [imprint, hanonymous, hhandle]
  rfl

theorem responds_performArray (hp : Untroubled p) (hh : p.1.handle = some h)
    (call : ArrayCall α) : Responds ((imprint p).answer (.array call)) (performArray call p) := by
  rw [show p = (p.1, p.2) from rfl, performArray_of_some hh]
  obtain ⟨marks, heq⟩ := afterCall_eq call p.1 (HostArray.perform call p.1.host)
  refine ⟨rfl, imprint_afterCall call p.1 _ p.2, ?_, ?_⟩
  · exact Prod.ext rfl (congrArg (fun q => q.2) hp.calm)
  · rw [heq]
    exact hp.pending

theorem responds_flush (hp : Untroubled p) (hready : Ready p) :
    Responds (.ok (), (imprint p).rehoused.delivered) (flush p) := by
  obtain ⟨l, hrun⟩ := flush_of_calm hready hp.calm
  obtain ⟨h, hflushed, -, -⟩ := exists_settled hready hp.calm
  rw [hrun]
  refine ⟨rfl, imprint_settled hready hp.calm hp.pending, ?_, hflushed.settled.pending⟩
  rw [calm_settled, hp.calm]

theorem responds_bind (hp : Untroubled p) (hready : Ready p) :
    Responds (.ok (), (imprint p).rehoused.delivered) (SyncedArray.bind p) := by
  obtain ⟨l, hrun⟩ := bind_of_calm hready hp.calm
  obtain ⟨h, hflushed, hh, -⟩ := exists_settled hready hp.calm
  have hcalm : calm (settled p) = settled p := by rw [calm_settled, hp.calm]
  rw [hrun, rebound_of_some hh]
  refine ⟨rfl, imprint_settled hready hp.calm hp.pending, ?_, hflushed.settled.pending⟩
  exact Prod.ext rfl (congrArg (fun q : SyncedArray c × _ => afterBind q.2 h) hcalm)

theorem responds_unbind (hp : Untroubled p) (hh : p.1.handle = some h) :
    Responds (.ok (), imprint p) (unbind p) := by
  obtain ⟨hf, -⟩ | ⟨-, hrun⟩ := unbind_cases hh p.2
  · rw [← congrArg (fun q => q.2.refuseUnbind) hp.calm] at hf
    cases hf
  · rw [show p = (p.1, p.2) from rfl, hrun]
    refine ⟨rfl, rfl, ?_, hp.pending⟩
    exact Prod.ext rfl (congrArg (fun q : SyncedArray c × _ => afterUnbind q.2 p.1.usage) hp.calm)

theorem responds_dispose (hp : Untroubled p) (hready : Ready p) :
    Responds (.ok (), { array := { (imprint p).array with handle := none }, allocation := none })
      (dispose p) := by
  obtain ⟨h, hh⟩ := Option.isSome_iff_exists.mp hready.handle
  rw [dispose_eq, show p = (p.1, p.2) from rfl,
    Op.bind_of_ok (releasePending_of_none hp.pending p.2), Run.after_nil]
  obtain ⟨hnone, -⟩ | ⟨h', -, hf, -⟩ | ⟨h', hh', -, hl, -⟩ | ⟨h', -, -, -, hrun⟩ :=
    releaseHandle_cases p.1 p.2
  · rw [hh] at hnone
    cases hnone
  · rw [faults_of_calm hp.calm] at hf
    cases hf
  · exact absurd (hready.live h' (mem_owned_of_handle hh')) hl
  · rw [hrun]
    refine ⟨rfl, rfl, ?_, hp.pending⟩
    exact Prod.ext rfl (congrArg (fun q : SyncedArray c × _ => afterRelease q.2 h') hp.calm)

/-- Without faults, what a call answers and what it leaves is a matter of the imprint. -/
theorem responds_perform (hp : Untroubled p) (call : Call α) :
    Responds ((imprint p).respond call) (perform call p) := by
  cases hh : p.1.handle with
  | none =>
    have hdisposed : (imprint p).array.isDisposed = true := by
      rw [isDisposed, imprint, anonymous, hh]
      rfl
    have hrun := Released.perform_eq ⟨hh, hp.pending⟩ call p.2
    rw [Imprint.respond, if_pos hdisposed, show p = (p.1, p.2) from rfl, hrun]
    exact ⟨rfl, rfl, hp.calm, hp.pending⟩
  | some h =>
    have hlive : (imprint p).array.isDisposed = false := by
      rw [isDisposed, imprint, anonymous, hh]
      rfl
    have hready : Ready p := hp.ready (by rw [isDisposed, hh]; rfl)
    rw [Imprint.respond, hlive, if_neg Bool.false_ne_true]
    cases call with
    | array asked => exact responds_performArray hp hh asked
    | flush => exact (responds_flush hp hready).map fun _ => Reply.done
    | bind => exact (responds_bind hp hready).map fun _ => Reply.done
    | unbind => exact (responds_unbind hp hh).map fun _ => Reply.done
    | dispose => exact (responds_dispose hp hready).map fun _ => Reply.done

/-! ## The end of an array -/

theorem calm_afterRelease (hcalm : g.calm = g) (h : Handle) :
    (afterRelease g h).calm = afterRelease g h :=
  congrArg (afterRelease · h) hcalm

theorem calm_spentRelease (hcalm : g.calm = g) : (spentRelease g).calm = spentRelease g :=
  congrArg spentRelease hcalm

/-- Dropping an array arms no fault. -/
theorem calm_drop (hcalm : g.calm = g) (a : SyncedArray c) :
    (drop (a, g)).state.2.calm = (drop (a, g)).state.2 := by
  have hpending : ∃ b g' l, dropPending a (a, g) =
      { outcome := .ok (), state := (b, g'), log := l } ∧ g'.calm = g' := by
    obtain ⟨-, hrun⟩ | ⟨p, -, -, text, hrun⟩ | ⟨p, -, -, -, text, hrun⟩ | ⟨p, -, -, -, hrun⟩ :=
      dropPending_cases a g
    · exact ⟨_, _, _, hrun, hcalm⟩
    · exact ⟨_, _, _, hrun, calm_spentRelease hcalm⟩
    · exact ⟨_, _, _, hrun, hcalm⟩
    · exact ⟨_, _, _, hrun, calm_afterRelease hcalm p⟩
  obtain ⟨b, g', l, hrun, hcalm'⟩ := hpending
  rw [drop_eq, Op.bind_of_ok hrun, Run.state_after]
  obtain ⟨-, hrun⟩ | ⟨h, -, -, text, hrun⟩ | ⟨h, -, -, -, text, hrun⟩ | ⟨h, -, -, -, hrun⟩ :=
    dropHandle_cases a b g'
  · rw [hrun]
    exact hcalm'
  · rw [hrun]
    exact calm_spentRelease hcalm'
  · rw [hrun]
    exact hcalm'
  · rw [hrun]
    exact calm_afterRelease hcalm' h

/-! ## New arrays -/

/-- What is left of a new array without its name. -/
def newborn (c : Codec α) (config : ArrayConfig) (vs : List α) : Imprint c where
  array := filled config vs .null
  allocation := some { bytes := Region.zeros (config.capacity * c.size), usage := config.usage }

/-- The outcome of a creation without faults, apart from the array. -/
def lodging (c : Codec α) (config : ArrayConfig) (vs : List α) : Outcome Unit :=
  if c.Fits config.capacity then
    (HostArray.perform (.appendAll vs)
      (HostArray.vacant config.capacity : HostArray c)).outcome.map fun _ => ()
  else .trapped (HostArray.excess c config.capacity)

theorem imprint_filled (hg : g.inner.table.Sound) (config : ArrayConfig) (vs : List α) :
    imprint (filled config vs g.inner.table.nextHandle, afterCreate c config g) =
      newborn c config vs := by
  have hfind : (afterCreate c config g).inner.table.find? g.inner.table.nextHandle =
      some { bytes := Region.zeros (config.capacity * c.size), usage := config.usage } :=
    (HandleTable.find?_insert hg _ _).trans (if_pos rfl)
  rw [filled, imprint_afterCall, imprint_of_some (a := fresh config _) rfl, hfind]
  rfl

theorem calm_ofList (hleft : g.allocatesLeft = none) (hcalm : g.calm = g) (config : ArrayConfig)
    (vs : List α) :
    (ofList config vs g : Run _ (SyncedArray c)).state.calm =
      (ofList config vs g : Run _ (SyncedArray c)).state := by
  have hcreate : (afterCreate c config g).calm = afterCreate c config g :=
    congrArg (afterCreate c config) hcalm
  obtain ⟨t, hrun⟩ | ⟨n, hrun⟩ | ⟨-, l, -, hrun | ⟨o, -, hrun⟩⟩ :=
    ofList_cases (c := c) hleft config vs
  · rw [hrun]
    exact hcalm
  · rw [hrun]
    exact congrArg spentAllocate hcalm
  · rw [hrun]
    exact hcreate
  · rw [hrun]
    exact calm_drop hcreate _

/-- Without faults, whether an array can be made depends on what it is made of. -/
theorem outcome_ofList (hleft : g.allocatesLeft = none) (hcalm : g.calm = g)
    (config : ArrayConfig) (vs : List α) :
    (ofList config vs g : Run _ (SyncedArray c)).outcome =
      (lodging c config vs).map fun _ => filled config vs g.inner.table.nextHandle := by
  rw [lodging]
  obtain ⟨hnone, hrun⟩ | ⟨hf, -⟩ | ⟨hroom, hrun⟩ := create_cases (c := c) hleft config
  · rw [ofList, Op.bind_of_trapped hrun, if_neg hnone]
    rfl
  · rw [← hcalm] at hf
    cases hf
  · obtain ⟨o, happend, hmap⟩ := appendAll_run (a := fresh config g.inner.table.nextHandle) rfl vs
      (afterCreate c config g)
    change o.map _ = (HostArray.perform _ (HostArray.vacant config.capacity)).outcome at hmap
    rw [ofList, Op.bind_of_ok hrun, if_pos hroom, ← hmap]
    rcases o with b | e | t
    · rw [Op.bind_of_ok (Op.beside_of_eq (Op.finishing_of_ok happend drop))]
      rfl
    · rw [Op.bind_of_error (Op.beside_of_eq (Op.finishing_of_error happend drop))]
      rfl
    · rw [Op.bind_of_trapped (Op.beside_of_eq (Op.finishing_of_trapped happend drop))]
      rfl

end BufferSync.SyncedArray
