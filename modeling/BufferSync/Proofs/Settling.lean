import BufferSync.Proofs.SceneMirror
import BufferSync.Proofs.Upkeep
import Mathlib.Logic.Function.Iterate

/-!
# Where a flush is heading

A flush goes through three stages, and a fault can stop it at each of them.  What it does without
faults is a function of the array and the gate, `settled`, made of one function for each stage.  Up
to armed faults (`calm`), a flush that ends well has applied this function, and one that was stopped
has left a state from which the function leads to the same place.  This is `Nears`; it passes from
stage to stage.

A bind goes on to make the allocation the active one (`rebound`) and is stopped there or not.
-/

namespace BufferSync

/-- The gate with no fault armed. -/
def Gate.calm (g : Gate MemoryDevice) : Gate MemoryDevice :=
  { g with
    inner := { g.inner with faults := {} }
    refuseBind := false
    refuseUnbind := false }

namespace SyncedArray

variable {α : Type} {c : Codec α} {β γ : Type} {a : SyncedArray c} {g g' : Gate MemoryDevice}
  {h : Handle} {p q goal : SyncedArray c × Gate MemoryDevice}

/-- The array and its gate with no fault armed. -/
def calm (p : SyncedArray c × Gate MemoryDevice) : SyncedArray c × Gate MemoryDevice :=
  (p.1, p.2.calm)

/-! ## The stages without faults -/

/-- A pending allocation is given back. -/
def relieved (p : SyncedArray c × Gate MemoryDevice) : SyncedArray c × Gate MemoryDevice :=
  match p.1.pending with
  | none => p
  | some h => ({ p.1 with pending := none }, afterRelease p.2 h)

/-- An array that has outgrown its allocation moves to a new one and gives the old one back. -/
def rehoused (p : SyncedArray c × Gate MemoryDevice) : SyncedArray c × Gate MemoryDevice :=
  if p.1.outgrown then
    relieved (p.1.moved p.2.inner.table.nextHandle,
      afterAllocate p.2 p.1.host.storage.length p.1.usage)
  else p

/-- The marked elements are uploaded. -/
def delivered (p : SyncedArray c × Gate MemoryDevice) : SyncedArray c × Gate MemoryDevice :=
  match p.1.handle, p.1.marks.span with
  | some h, some s =>
    match p.2.inner.table.find? h with
    | some al => (p.1.unmarked, p.1.afterUpload p.2 h al s)
    | none => p
  | _, _ => p

/-- Nothing is left to do. -/
def settled (p : SyncedArray c × Gate MemoryDevice) : SyncedArray c × Gate MemoryDevice :=
  delivered (rehoused (relieved p))

/-- The allocation is the active one. -/
def rebound (p : SyncedArray c × Gate MemoryDevice) : SyncedArray c × Gate MemoryDevice :=
  match p.1.handle with
  | some h => (p.1, afterBind p.2 h)
  | none => p

theorem relieved_of_none (hp : p.1.pending = none) : relieved p = p := by
  rw [relieved, hp]

theorem rehoused_of_fits (ho : p.1.outgrown = false) : rehoused p = p := by
  rw [rehoused, if_neg (by rw [ho]; exact Bool.false_ne_true)]

theorem delivered_of_clean (hs : p.1.marks.span = none) : delivered p = p := by
  rw [delivered, hs]
  split
  · contradiction
  · rfl

theorem delivered_of_marked {s : Span} {al : Allocation} (hh : p.1.handle = some h)
    (hs : p.1.marks.span = some s) (hal : p.2.inner.table.find? h = some al) :
    delivered p = (p.1.unmarked, p.1.afterUpload p.2 h al s) := by
  rw [delivered, hh, hs]
  simp only [hal]

theorem rebound_of_some (hh : p.1.handle = some h) : rebound p = (p.1, afterBind p.2 h) := by
  rw [rebound, hh]

theorem relieved_outgrown (p : SyncedArray c × Gate MemoryDevice) :
    (relieved p).1.outgrown = p.1.outgrown := by
  rw [relieved]
  split
  · rfl
  · rfl

theorem outgrown_moved (a : SyncedArray c) (h : Handle) : (a.moved h).outgrown = false :=
  decide_eq_false (Nat.lt_irrefl _)

/-- With nothing pending and enough room, only the upload is left. -/
theorem settled_of_housed (hp : p.1.pending = none) (ho : p.1.outgrown = false) :
    settled p = delivered p := by
  rw [settled, relieved_of_none hp, rehoused_of_fits ho]

/-- A settled array stays as it is. -/
theorem settled_of_settled (hs : p.1.Settled) : settled p = p := by
  rw [settled_of_housed hs.pending hs.outgrown, delivered_of_clean hs.span]

/-! ## Stages with faults -/

/-- If the run ends well it has come to `q`; if not, what is left to do leads to `goal`.  Armed
faults do not count. -/
structure Nears (q goal : SyncedArray c × Gate MemoryDevice)
    (r : Run (SyncedArray c × Gate MemoryDevice) β) : Prop where
  /-- The run has come to `q`. -/
  done : r.outcome.isOk = true → calm r.state = q
  /-- What is left to do leads to `goal`. -/
  rest : r.outcome.isOk = false → settled (calm r.state) = goal

theorem Nears.of_ok {v : β} {l : List Log.Entry} (hq : calm p = q) :
    Nears q goal { outcome := .ok v, state := p, log := l } where
  done _ := hq
  rest hfail := by cases hfail

theorem Nears.of_error {e : Error} {l : List Log.Entry} (hgoal : settled (calm p) = goal) :
    Nears q goal ({ outcome := .error e, state := p, log := l } : Run _ β) where
  done hok := by cases hok
  rest _ := hgoal

theorem Nears.of_trapped {t : Trap} {l : List Log.Entry} (hgoal : settled (calm p) = goal) :
    Nears q goal ({ outcome := .trapped t, state := p, log := l } : Run _ β) where
  done hok := by cases hok
  rest _ := hgoal

/-- A sequence nears its goal stage by stage. -/
theorem Nears.bind {q' : SyncedArray c × Gate MemoryDevice}
    {x : Op (SyncedArray c × Gate MemoryDevice) β}
    {f : β → Op (SyncedArray c × Gate MemoryDevice) γ} (hx : Nears q goal (x p))
    (hf : ∀ v p' l, x p = { outcome := .ok v, state := p', log := l } → calm p' = q →
      Nears q' goal (f v p')) :
    Nears q' goal ((x >>= f) p) := by
  rcases hrun : x p with ⟨v | e | t, p', l⟩
  · rw [hrun] at hx
    have hrest := hf v p' l hrun (hx.done rfl)
    rw [Op.bind_of_ok hrun]
    exact ⟨hrest.done, hrest.rest⟩
  · rw [hrun] at hx
    rw [Op.bind_of_error hrun]
    exact .of_error (hx.rest rfl)
  · rw [hrun] at hx
    rw [Op.bind_of_trapped hrun]
    exact .of_trapped (hx.rest rfl)

theorem nears_releasePending (p : SyncedArray c × Gate MemoryDevice) :
    Nears (relieved (calm p)) (settled (calm p)) (releasePending p) := by
  obtain ⟨a, g⟩ := p
  obtain ⟨hp, hrun⟩ | ⟨h, -, -, hrun⟩ | ⟨h, -, -, -, hrun⟩ | ⟨h, hp, -, -, hrun⟩ :=
    releasePending_cases a g
  · rw [hrun]
    exact .of_ok (relieved_of_none hp).symm
  · rw [hrun]
    exact .of_error rfl
  · rw [hrun]
    exact .of_error rfl
  · rw [hrun, relieved, calm, hp]
    exact .of_ok rfl

theorem nears_syncAllocation (hleft : p.2.allocatesLeft = none) (hp : p.1.pending = none) :
    Nears (rehoused (calm p)) (delivered (rehoused (calm p))) (syncAllocation p) := by
  obtain ⟨a, g⟩ := p
  have hsame : settled (calm (a, g)) = delivered (rehoused (calm (a, g))) := by
    rw [settled, relieved_of_none (p := calm (a, g)) hp]
  obtain ⟨ho, hrun⟩ | ⟨-, -, hrun⟩ | ⟨-, -, hrun⟩ | ⟨ho, -, -, hrun⟩ := syncAllocation_cases hleft a
  · rw [hrun]
    exact .of_ok (rehoused_of_fits ho).symm
  · rw [hrun]
    exact .of_error hsame
  · rw [hrun]
    exact .of_trapped hsame
  · -- the array has moved; what is left is to give the old allocation back
    have hmoved : rehoused (calm (a, g)) =
        relieved (calm (a.moved g.inner.table.nextHandle,
          afterAllocate g a.host.storage.length a.usage)) := by
      rw [rehoused, calm, if_pos ho]
      rfl
    have hrest := nears_releasePending (a.moved g.inner.table.nextHandle,
      afterAllocate g a.host.storage.length a.usage)
    rw [hrun]
    refine ⟨?_, ?_⟩
    · intro hok
      exact (hrest.done hok).trans hmoved.symm
    · intro hfail
      refine (hrest.rest hfail).trans ?_
      rw [settled, hmoved, rehoused_of_fits]
      exact (relieved_outgrown _).trans (outgrown_moved _ _)

/-! ## Arrays that can be flushed -/

/-- The array is synced and not disposed, and the device knows its handles. -/
structure Ready (p : SyncedArray c × Gate MemoryDevice) : Prop where
  /-- The array holds its allocations. -/
  held : p.1.Held p.2
  /-- The array is synced. -/
  synced : p.1.Synced p.2
  /-- The device knows the handles. -/
  live : ∀ h ∈ p.1.owned, p.2.Live h
  /-- The array is not disposed. -/
  handle : p.1.handle.isSome = true

/-- Armed faults make no difference. -/
theorem Ready.of_calm_eq (hready : Ready (a, g)) (hcalm : g'.calm = g.calm) : Ready (a, g') := by
  have htable : g'.inner.table = g.inner.table := congrArg (fun g => g.inner.table) hcalm
  have hleft : g'.allocatesLeft = g.allocatesLeft := congrArg (fun g => g.allocatesLeft) hcalm
  obtain ⟨⟨hsound, hunlimited, hissued, hnodup⟩, hsynced, hlive, hhandle⟩ := hready
  refine ⟨⟨?_, hleft.trans hunlimited, ?_, hnodup⟩, ?_, ?_, hhandle⟩
  · rw [htable]
    exact hsound
  · rw [htable]
    exact hissued
  · exact hsynced.frame fun h _ => by rw [htable]
  · intro h hh
    rw [Gate.Live, htable]
    exact hlive h hh

/-- What a run of a stage that leaves the host array alone keeps, however it ends. -/
theorem Ready.of_stage {x : Op (SyncedArray c × Gate MemoryDevice) Unit}
    {Q : SyncedArray c → Prop} (hready : Ready p) (hsettles : Settles Q (x p))
    (hconduct : Conduct p.1 p.2 (x p)) (hanchors : Anchors True p.1.host x) :
    Ready (x p).state := by
  obtain ⟨new, hcustody⟩ := hconduct.custody
  have hanchored := (hanchors p ⟨rfl, fun _ => hready.handle⟩).1
  exact ⟨hsettles.held, hsettles.synced, hcustody.owned_live hready.live, hanchored.2 trivial⟩

/-- After the first stage nothing is pending. -/
theorem Ready.releasePending (hready : Ready p) {p' : SyncedArray c × Gate MemoryDevice}
    {l : List Log.Entry}
    (hrun : releasePending p = { outcome := .ok (), state := p', log := l }) :
    Ready p' ∧ p'.1.pending = none := by
  have hsettles := settles_releasePending hready.held hready.synced
  have hready' := hready.of_stage hsettles (conduct_releasePending hready.held)
    steady_anchored.releasePending
  have hresult := hsettles.result ()
  rw [hrun] at hready' hresult
  refine ⟨hready', ?_⟩
  rw [hresult rfl]

/-- After the second stage the allocation is large enough. -/
theorem Ready.syncAllocation (hready : Ready p) (hp : p.1.pending = none)
    {p' : SyncedArray c × Gate MemoryDevice} {l : List Log.Entry}
    (hrun : syncAllocation p = { outcome := .ok (), state := p', log := l }) :
    Ready p' ∧ p'.1.pending = none ∧ p'.1.outgrown = false := by
  have hsettles := settles_syncAllocation hready.held hready.synced hp hready.handle
  have hready' := hready.of_stage hsettles (conduct_syncAllocation hready.held hp)
    steady_anchored.syncAllocation
  have hresult := hsettles.result ()
  rw [hrun] at hready' hresult
  exact ⟨hready', (hresult rfl).2⟩

theorem nears_uploadMarked (hready : Ready p) (hp : p.1.pending = none)
    (ho : p.1.outgrown = false) :
    Nears (delivered (calm p)) (delivered (calm p)) (uploadMarked p) := by
  obtain ⟨a, g⟩ := p
  obtain ⟨h, hh⟩ := Option.isSome_iff_exists.mp hready.handle
  have hsame : settled (calm (a, g)) = delivered (calm (a, g)) := settled_of_housed hp ho
  obtain ⟨hs, hrun⟩ | ⟨s, hs, hunfit, -⟩ | ⟨s, -, -, -, hrun⟩ | ⟨s, -, -, -, reason, -, -, hrun⟩ |
    ⟨s, hs, -, -, al, hal, hrun⟩ := uploadMarked_cases hh g
  · rw [hrun]
    exact .of_ok (delivered_of_clean (p := calm (a, g)) hs).symm
  · exact absurd (hready.synced.spanFits ho hs) hunfit
  · rw [hrun]
    exact .of_error hsame
  · rw [hrun]
    exact .of_error hsame
  · rw [hrun]
    exact .of_ok (delivered_of_marked (p := calm (a, g)) hh hs hal).symm

/-- A flush nears the settled state. -/
theorem nears_flush (hready : Ready p) :
    Nears (settled (calm p)) (settled (calm p)) (flush p) := by
  obtain ⟨h, hh⟩ := Option.isSome_iff_exists.mp hready.handle
  rw [flush_eq, Op.bind_of_ok (liveHandle_of_some hh p.2), Run.after_nil]
  refine (nears_releasePending p).bind fun _ p₁ _ hrun₁ hcalm₁ => ?_
  obtain ⟨hready₁, hp₁⟩ := hready.releasePending hrun₁
  rw [settled, ← hcalm₁]
  refine (nears_syncAllocation hready₁.held.unlimited hp₁).bind fun _ p₂ _ hrun₂ hcalm₂ => ?_
  obtain ⟨hready₂, hp₂, ho₂⟩ := hready₁.syncAllocation hp₁ hrun₂
  rw [← hcalm₂]
  exact nears_uploadMarked hready₂ hp₂ ho₂

/-- A bind nears the settled state and, if it ends well, the active allocation. -/
theorem nears_bind (hready : Ready p) :
    Nears (rebound (settled (calm p))) (settled (calm p)) (SyncedArray.bind p) := by
  obtain ⟨h, hh⟩ := Option.isSome_iff_exists.mp hready.handle
  have hflush := settles_flush hready.held hready.synced
  rw [show p = (p.1, p.2) from rfl, bind_of_some hh]
  refine (nears_flush hready).bind fun v p₁ _ hrun hcalm => ?_
  obtain ⟨a₁, g₁⟩ := p₁
  rw [hrun] at hflush
  obtain ⟨hsome, hsettled⟩ := hflush.result v rfl
  obtain ⟨h₁, hh₁⟩ := Option.isSome_iff_exists.mp hsome
  have hgoal : settled (calm (a₁, g₁)) = settled (calm p) := by
    rw [settled_of_settled (p := calm (a₁, g₁)) hsettled, hcalm]
  obtain ⟨-, hrun⟩ | ⟨-, -, hrun⟩ | ⟨-, -, hrun⟩ := bindCurrent_cases hh₁ g₁
  · rw [hrun]
    exact .of_error hgoal
  · rw [hrun]
    exact .of_error hgoal
  · rw [hrun, ← hcalm, rebound_of_some (p := calm (a₁, g₁)) hh₁]
    exact .of_ok rfl

/-- What a flush or a bind adds to the settled state. -/
def crowned (call : Call α) (p : SyncedArray c × Gate MemoryDevice) :
    SyncedArray c × Gate MemoryDevice :=
  match call with
  | .bind => rebound p
  | _ => p

theorem nears_perform (hready : Ready p) {call : Call α} (hsyncs : call.Syncs) :
    Nears (crowned call (settled (calm p))) (settled (calm p)) (perform call p) := by
  cases call with
  | flush => exact (nears_flush hready).bind fun _ _ _ _ hcalm => .of_ok hcalm
  | bind => exact (nears_bind hready).bind fun _ _ _ _ hcalm => .of_ok hcalm
  | array _ | unbind | dispose => exact absurd hsyncs id

/-- An array that was ready for a flush or a bind is so afterwards, and if the call ends well
nothing is left to do. -/
theorem Ready.perform (hready : Ready p) {call : Call α} (hsyncs : call.Syncs) :
    Ready (SyncedArray.perform call p).state ∧
      ((SyncedArray.perform call p : Run _ (Reply α)).outcome.isOk = true →
        (SyncedArray.perform call p).state.1.Settled) := by
  cases call with
  | flush =>
    have hsettles := settles_flush hready.held hready.synced
    rw [SyncedArray.perform, Op.map_apply, Outcome.isOk_map]
    refine ⟨hready.of_stage hsettles (conduct_flush hready.held) steady_anchored.flush, ?_⟩
    intro hok
    obtain ⟨v, hv⟩ := Outcome.exists_of_isOk hok
    exact (hsettles.result v hv).2
  | bind =>
    have hsettles := settles_bind hready.held hready.synced
    rw [SyncedArray.perform, Op.map_apply, Outcome.isOk_map]
    have hanchors : Anchors True p.1.host
        (SyncedArray.bind : Op (SyncedArray c × Gate MemoryDevice) Unit) :=
      steady_anchored.bind fun _ => anchors_onDevice _
    refine ⟨hready.of_stage hsettles (conduct_bind hready.held) hanchors, ?_⟩
    intro hok
    obtain ⟨v, hv⟩ := Outcome.exists_of_isOk hok
    exact (hsettles.result v hv).2
  | array _ | unbind | dispose => exact absurd hsyncs id

/-! ## Runs without faults -/

theorem calm_relieved (p : SyncedArray c × Gate MemoryDevice) :
    calm (relieved p) = relieved (calm p) := by
  rw [relieved, relieved]
  cases hp : p.1.pending with
  | none =>
    rw [show (calm p).1.pending = none from hp]
  | some h =>
    rw [show (calm p).1.pending = some h from hp]
    rfl

theorem calm_rehoused (p : SyncedArray c × Gate MemoryDevice) :
    calm (rehoused p) = rehoused (calm p) := by
  rw [rehoused, rehoused]
  cases ho : p.1.outgrown with
  | false =>
    rw [show (calm p).1.outgrown = false from ho]
    rfl
  | true =>
    rw [show (calm p).1.outgrown = true from ho]
    exact calm_relieved _

theorem calm_delivered (p : SyncedArray c × Gate MemoryDevice) :
    calm (delivered p) = delivered (calm p) := by
  rw [delivered, delivered]
  cases hh : p.1.handle with
  | none =>
    rw [show (calm p).1.handle = none from hh]
  | some h =>
    cases hs : p.1.marks.span with
    | none =>
      rw [show (calm p).1.handle = some h from hh, show (calm p).1.marks.span = none from hs]
    | some s =>
      rw [show (calm p).1.handle = some h from hh, show (calm p).1.marks.span = some s from hs]
      cases hal : p.2.inner.table.find? h with
      | none =>
        simp only [hal, show (calm p).2.inner.table.find? h = none from hal]
      | some al =>
        simp only [hal, show (calm p).2.inner.table.find? h = some al from hal]
        rfl

theorem calm_settled (p : SyncedArray c × Gate MemoryDevice) :
    calm (settled p) = settled (calm p) := by
  rw [settled, settled, calm_delivered, calm_rehoused, calm_relieved]

theorem faults_of_calm (hcalm : calm p = p) : p.2.inner.faults = {} := by
  rw [← hcalm]
  rfl

theorem releasePending_of_calm (hcalm : calm p = p) (hlive : ∀ h ∈ p.1.owned, p.2.Live h) :
    ∃ l, releasePending p = { outcome := .ok (), state := relieved p, log := l } := by
  obtain ⟨a, g⟩ := p
  have hfaults := faults_of_calm hcalm
  obtain ⟨hp, hrun⟩ | ⟨h, -, hf, -⟩ | ⟨h, hp, -, hl, -⟩ | ⟨h, hp, -, -, hrun⟩ :=
    releasePending_cases a g
  · exact ⟨_, by rw [hrun, relieved_of_none (p := (a, g)) hp]⟩
  · rw [hfaults] at hf
    cases hf
  · exact absurd (hlive h (mem_owned_of_pending hp)) hl
  · exact ⟨_, by rw [hrun, relieved, hp]⟩

theorem syncAllocation_of_calm (hready : Ready p) (hcalm : calm p = p)
    (hp : p.1.pending = none) :
    ∃ l, syncAllocation p = { outcome := .ok (), state := rehoused p, log := l } := by
  obtain ⟨a, g⟩ := p
  have hfaults := faults_of_calm hcalm
  obtain ⟨ho, hrun⟩ | ⟨-, hf, -⟩ | ⟨-, hsize, -⟩ | ⟨ho, -, -, hrun⟩ :=
    syncAllocation_cases hready.held.unlimited a
  · exact ⟨_, by rw [hrun, rehoused_of_fits (p := (a, g)) ho]⟩
  · rw [hfaults] at hf
    cases hf
  · exact absurd hsize (Nat.not_lt.mpr hready.synced.packed.length_le)
  · have hmoved : calm (a.moved g.inner.table.nextHandle,
        afterAllocate g a.host.storage.length a.usage) =
          (a.moved g.inner.table.nextHandle, afterAllocate g a.host.storage.length a.usage) := by
      refine Prod.ext rfl ?_
      change afterAllocate (calm (a, g)).2 a.host.storage.length a.usage = _
      rw [hcalm]
    obtain ⟨l, hrest⟩ :=
      releasePending_of_calm hmoved ((custody_moved hready.held hp).owned_live hready.live)
    rw [hrun, hrest, rehoused, if_pos ho]
    exact ⟨_, rfl⟩

/-- The device has room for a span that fits. -/
theorem Synced.upload_of_fits (ha : a.Synced g) (hh : a.handle = some h) {s : Span}
    (hfits : a.SpanFits s) (hf : g.inner.faults.upload = false) :
    ∃ al, MemoryDevice.upload h (s.first * c.size) (a.spanBytes s) g.inner =
      { outcome := .ok ()
        state := g.inner.uploaded h al (s.first * c.size) (a.spanBytes s)
        log := [] } := by
  obtain ⟨al, hal, hmirror⟩ := ha.device h hh
  have hlength := length_spanBytes hfits.inside.2
  have hword := hfits.word.2
  have hroom := hfits.inside.1
  rw [← hmirror.length] at hroom
  exact ⟨al, MemoryDevice.upload_of_le hf hal (by omega) (by omega)⟩

theorem uploadMarked_of_calm (hready : Ready p) (hcalm : calm p = p)
    (ho : p.1.outgrown = false) :
    ∃ l, uploadMarked p = { outcome := .ok (), state := delivered p, log := l } := by
  obtain ⟨a, g⟩ := p
  obtain ⟨h, hh⟩ := Option.isSome_iff_exists.mp hready.handle
  have hfaults := faults_of_calm hcalm
  obtain ⟨hs, hrun⟩ | ⟨s, hs, hunfit, -⟩ | ⟨s, -, -, hf, -⟩ |
    ⟨s, hs, hfits, hf, reason, -, hup, -⟩ | ⟨s, hs, -, -, al, hal, hrun⟩ := uploadMarked_cases hh g
  · exact ⟨_, by rw [hrun, delivered_of_clean (p := (a, g)) hs]⟩
  · exact absurd (hready.synced.spanFits ho hs) hunfit
  · rw [hfaults] at hf
    cases hf
  · obtain ⟨al, hgranted⟩ := hready.synced.upload_of_fits hh hfits hf
    rw [hgranted] at hup
    cases hup
  · exact ⟨_, by rw [hrun, delivered_of_marked (p := (a, g)) hh hs hal]⟩

/-- Without faults a flush goes through all its stages. -/
theorem flush_of_calm (hready : Ready p) (hcalm : calm p = p) :
    ∃ l, flush p = { outcome := .ok (), state := settled p, log := l } := by
  obtain ⟨h, hh⟩ := Option.isSome_iff_exists.mp hready.handle
  obtain ⟨l₁, hrun₁⟩ := releasePending_of_calm hcalm hready.live
  obtain ⟨hready₁, hp₁⟩ := hready.releasePending hrun₁
  have hcalm₁ : calm (relieved p) = relieved p := by rw [calm_relieved, hcalm]
  obtain ⟨l₂, hrun₂⟩ := syncAllocation_of_calm hready₁ hcalm₁ hp₁
  obtain ⟨hready₂, -, ho₂⟩ := hready₁.syncAllocation hp₁ hrun₂
  have hcalm₂ : calm (rehoused (relieved p)) = rehoused (relieved p) := by
    rw [calm_rehoused, hcalm₁]
  obtain ⟨l₃, hrun₃⟩ := uploadMarked_of_calm hready₂ hcalm₂ ho₂
  rw [flush_eq, Op.bind_of_ok (liveHandle_of_some hh p.2), Op.bind_of_ok hrun₁,
    Op.bind_of_ok hrun₂, hrun₃]
  exact ⟨_, rfl⟩

/-- Without faults a bind flushes and makes the allocation the active one. -/
theorem bind_of_calm (hready : Ready p) (hcalm : calm p = p) :
    ∃ l, SyncedArray.bind p =
      { outcome := .ok (), state := rebound (settled p), log := l } := by
  obtain ⟨h, hh⟩ := Option.isSome_iff_exists.mp hready.handle
  obtain ⟨l, hrun⟩ := flush_of_calm hready hcalm
  have hready' := hready.of_stage (settles_flush hready.held hready.synced)
    (conduct_flush hready.held) steady_anchored.flush
  rw [hrun] at hready'
  obtain ⟨h', hh'⟩ := Option.isSome_iff_exists.mp hready'.handle
  have hbind : SyncedArray.bind p = (flush >>= fun _ => bindCurrent) p := bind_of_some hh p.2
  have hcalm' : calm (settled p) = settled p := by rw [calm_settled, hcalm]
  rw [hbind, Op.bind_of_ok hrun]
  obtain ⟨hrefused, -⟩ | ⟨-, hl, -⟩ | ⟨-, -, hgranted⟩ := bindCurrent_cases hh' (settled p).2
  · rw [← hcalm'] at hrefused
    cases hrefused
  · exact absurd (hready'.live h' (mem_owned_of_handle hh')) hl
  · rw [show bindCurrent (settled p) = _ from hgranted, rebound_of_some hh']
    exact ⟨_, rfl⟩

/-- Without faults a flush and a bind end well. -/
theorem isOk_of_calm (hready : Ready p) (hcalm : calm p = p) {call : Call α}
    (hsyncs : call.Syncs) : (perform call p : Run _ (Reply α)).outcome.isOk = true := by
  cases call with
  | flush =>
    obtain ⟨l, hrun⟩ := flush_of_calm hready hcalm
    rw [perform, Op.map_apply, Outcome.isOk_map, hrun]
    rfl
  | bind =>
    obtain ⟨l, hrun⟩ := bind_of_calm hready hcalm
    rw [perform, Op.map_apply, Outcome.isOk_map, hrun]
    rfl
  | array _ | unbind | dispose => exact absurd hsyncs id

end SyncedArray

end BufferSync
