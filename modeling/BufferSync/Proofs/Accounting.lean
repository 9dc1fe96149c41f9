import BufferSync.Proofs.Holdings

/-!
# Every allocation is accounted for

The live allocations of a device are those that the arrays of its scene hold, those that were made
by requests past all arrays, and those that nobody holds any more because the device refused to take
them back when their array went.  A `Ledger` keeps the last two kinds; it is written from the events
that each action records.  `Balanced` says that the ledger and the arrays together list every live
allocation, and each once.

Requests past the arrays can do as they like, as long as they do not give back what an array holds
(`Scene.Respects`).
-/

namespace BufferSync.Scene

variable {s : Scene} {k : Nat} {m : Member} {h : Handle} {action : Action}

open Device (made gone named)
open MemoryDevice (UnknownRelease)
open SyncedArray (Unrefused)

/-- The action is no request that gives back what an array holds. -/
def Respects (s : Scene) (action : Action) : Prop :=
  action.Direct → ∀ h ∈ gone (recorded action s), h ∉ s.held

/-- The live allocations that no array holds. -/
structure Ledger where
  /-- Made by a request to the device and not given back since. -/
  direct : List Handle := []
  /-- Left behind by an array that went, and not given back since. -/
  abandoned : List Handle := []

/-- The ledger after an action. -/
def Ledger.next (b : Ledger) (s : Scene) (action : Action) : Ledger :=
  match action with
  | .request _ =>
      { direct :=
          (b.direct ++ made (recorded action s)).filter fun h => h ∉ gone (recorded action s)
        abandoned := b.abandoned.filter fun h => h ∉ gone (recorded action s) }
  | _ => { b with abandoned := b.abandoned ++ s.givenUp action }

/-- The ledger after a run that starts with the ledger `b`. -/
def ledger (b : Ledger) : Scene → List Action → Ledger
  | _, [] => b
  | s, action :: rest => ledger (b.next s action) (step action s).state rest

/-- The arrays and the ledger list the live allocations, each once. -/
structure Balanced (s : Scene) (b : Ledger) : Prop where
  /-- Nothing is listed twice. -/
  nodup : (s.held ++ (b.direct ++ b.abandoned)).Nodup
  /-- What is live is listed, and what is listed is live. -/
  live : ∀ h, s.gate.Live h ↔ h ∈ s.held ++ (b.direct ++ b.abandoned)

theorem balanced_empty : Balanced {} {} where
  nodup := List.nodup_nil
  live h := by
    constructor
    · intro hl
      obtain ⟨b, hb⟩ := HandleTable.contains_iff.mp hl
      rw [HandleTable.find?_empty] at hb
      cases hb
    · intro hm
      cases hm

/-- The device knows what an array holds. -/
theorem Balanced.array_live {b : Ledger} {i : Nat} (hb : Balanced s b) (hm : s.member? i = some m) :
    ∀ h ∈ m.array.owned, s.gate.Live h := by
  intro h hh
  refine (hb.live h).mpr (List.mem_append_left _ (mem_held_of_mem_heldBy (k := i) ?_))
  rw [heldBy_of_member? hm]
  exact hh

/-! ## One action -/

theorem mem_held_of_mem_reach (hdirect : ¬ action.Direct) (hm : h ∈ s.reach action) :
    h ∈ s.held := by
  cases action with
  | create f config vs => cases hm
  | drop i => exact mem_held_of_mem_heldBy hm
  | call i f call => exact mem_held_of_mem_heldBy hm
  | request r => exact absurd trivial hdirect
  | arm fault => cases hm
  | forgetEvents => cases hm

/-- An action of the arrays leaves the ledger alone, apart from what is given up. -/
theorem Balanced.step_of_not_direct {b : Ledger} (hs : s.Sound) (hb : Balanced s b)
    (hdirect : ¬ action.Direct) :
    Balanced (step action s).state { b with abandoned := b.abandoned ++ s.givenUp action } := by
  have hsteward := stewardship hs hdirect
  obtain ⟨-, hledger, hapart⟩ := List.nodup_append.mp hb.nodup
  have hissued : ∀ h ∈ b.direct ++ b.abandoned, s.gate.inner.table.Issued h := fun h hm =>
    Gate.Live.issued ((hb.live h).mpr (List.mem_append_right _ hm))
  have hmade : ∀ h ∈ b.direct ++ b.abandoned, h ∉ made (recorded action s) := fun h hm hnew =>
    hsteward.chronicle.made_fresh h hnew (hissued h hm)
  have hheld : ∀ h ∈ b.direct ++ b.abandoned, h ∉ s.held := fun h hm hh => hapart h hh h hm rfl
  have hgone : ∀ h ∈ b.direct ++ b.abandoned, h ∉ gone (recorded action s) := by
    intro h hm hg
    rcases hsteward.named h (Device.named_of_gone hg) with hnew | hreach
    · exact hmade h hm hnew
    · exact hheld h hm (mem_held_of_mem_reach hdirect hreach)
  have hperm : ((step action s).state.held ++
      (b.direct ++ (b.abandoned ++ s.givenUp action))).Perm
      (((step action s).state.held ++ s.givenUp action) ++ (b.direct ++ b.abandoned)) := by
    grind
  constructor
  · rw [hperm.nodup_iff]
    refine List.nodup_append.mpr ⟨hsteward.nodup, hledger, ?_⟩
    rintro h hm _ hl rfl
    rcases ((hsteward.held h).mp hm).1 with hh | hnew
    · exact hheld h hl hh
    · exact hmade h hl hnew
  · intro h
    have hlive := hb.live h
    have hgone := hgone h
    rw [hperm.mem_iff, List.mem_append, hsteward.held, hsteward.chronicle.live, hlive,
      List.mem_append]
    grind

theorem Balanced.step_of_request {b : Ledger} (hs : s.Sound) (hb : Balanced s b)
    {r : Device.Request} (hrespects : Respects s (.request r)) :
    Balanced (step (.request r) s).state (b.next s (.request r)) := by
  obtain ⟨hchronicle, -⟩ := chronicle_step hs (.request r)
  have hheld : (step (.request r) s).state.held = s.held := by
    rw [held, members_request]
    rfl
  have hgone := hrespects trivial
  have hissued : ∀ h ∈ s.held ++ (b.direct ++ b.abandoned), s.gate.inner.table.Issued h :=
    fun h hm => Gate.Live.issued ((hb.live h).mpr hm)
  have hmade : ∀ h ∈ s.held ++ (b.direct ++ b.abandoned), h ∉ made (recorded (.request r) s) :=
    fun h hm hnew => hchronicle.made_fresh h hnew (hissued h hm)
  rw [Ledger.next]
  generalize recorded (.request r) s = new at *
  have hperm : (s.held ++ (b.direct ++ made new ++ b.abandoned)).Perm
      (s.held ++ (b.direct ++ b.abandoned) ++ made new) := by
    grind
  have hall : (s.held ++ (b.direct ++ made new ++ b.abandoned)).Nodup := by
    rw [hperm.nodup_iff]
    refine List.nodup_append.mpr ⟨hb.nodup, hchronicle.made_nodup, ?_⟩
    rintro h hm _ hnew rfl
    exact hmade h hm hnew
  constructor
  · rw [hheld]
    refine hall.sublist (.append (.refl _) (.append ?_ ?_))
    · exact List.filter_sublist
    · exact List.filter_sublist
  · intro h
    have hgone := hgone h
    rw [hheld, hchronicle.live, hb.live]
    simp only [List.mem_append, List.mem_filter, decide_eq_true_eq]
    grind

/-- Whatever is done, the books stay balanced. -/
theorem Balanced.step {b : Ledger} (hs : s.Sound) (hb : Balanced s b)
    (hrespects : Respects s action) : Balanced (step action s).state (b.next s action) := by
  cases action with
  | create f config vs => exact hb.step_of_not_direct hs id
  | drop i => exact hb.step_of_not_direct hs id
  | call i f call => exact hb.step_of_not_direct hs id
  | request r => exact hb.step_of_request hs hrespects
  | arm fault => exact hb.step_of_not_direct hs id
  | forgetEvents => exact hb.step_of_not_direct hs id

/-! ## Runs -/

/-- The books of a whole run are balanced. -/
theorem Balanced.run {b : Ledger} {actions : List Action} (hs : s.Sound) (hb : Balanced s b)
    (hrespects : Along Respects s actions) :
    Balanced (run s actions) (ledger b s actions) := by
  induction actions generalizing s b with
  | nil => exact hb
  | cons action rest ih => exact ih (hs.step action) (hb.step hs hrespects.1) hrespects.2

/-- The events of a whole run tell about the allocations. -/
theorem chronicle_run (hs : s.Sound) (actions : List Action) :
    Chronicle s.gate (run s actions).gate (trace s actions) := by
  induction actions generalizing s with
  | nil => exact .refl hs.table
  | cons action rest ih => exact (chronicle_step hs action).1.trans (ih (hs.step action))

/-! ## Refusals -/

/-- What an action of the arrays reports is no refusal of an unknown handle. -/
theorem Balanced.civil {b : Ledger} (hs : s.Sound) (hb : Balanced s b) (hdirect : ¬ action.Direct) :
    ∀ e ∈ (Scene.step action s).log, ¬ UnknownRelease e := by
  cases action with
  | create f config vs =>
    obtain ⟨new, hbirth⟩ := SyncedArray.exists_birth (c := f.codec) hs.table hs.unlimited config vs
    rw [step_create]
    exact hbirth.civil
  | drop i =>
    cases hm : s.member? i with
    | none =>
      rw [step_drop_absent hm]
      intro e he
      cases he
    | some m =>
      obtain ⟨new, hdrop⟩ := SyncedArray.exists_surrender_drop (hs.array_held hm)
      rw [step_drop hm hdrop.outcome]
      exact hdrop.civil (hb.array_live hm)
  | call i f call =>
    obtain habsent | ⟨m, hm, rfl⟩ := step_call_cases s i f call
    · rw [habsent]
      intro e he
      cases he
    · rw [step_call hm]
      exact (SyncedArray.conduct_perform (hs.array_held hm) call).civil (hb.array_live hm)
  | request r => exact absurd trivial hdirect
  | arm fault =>
    intro e he
    cases he
  | forgetEvents =>
    intro e he
    cases he

/-- Nothing is given up unless a release was refused. -/
theorem Balanced.givenUp_eq_nil {b : Ledger} (hs : s.Sound) (hb : Balanced s b)
    (hun : Unrefused (Scene.step action s).log) : s.givenUp action = [] := by
  cases action with
  | create f config vs =>
    obtain ⟨new, hbirth⟩ := SyncedArray.exists_birth (c := f.codec) hs.table hs.unlimited config vs
    rw [givenUp, recorded_create hbirth]
    rw [step_create] at hun ⊢
    rw [Outcome.isOk_map]
    split
    next => rfl
    next hfail =>
      have hall := hbirth.complete (Bool.not_eq_true _ ▸ hfail) hun
      rw [List.filter_eq_nil_iff]
      intro h hm
      simpa using hall h hm
  | drop i =>
    rw [givenUp, List.filter_eq_nil_iff]
    intro h hm
    cases hmember : s.member? i with
    | none =>
      rw [heldBy, hmember] at hm
      cases hm
    | some m =>
      obtain ⟨new, hdrop⟩ := SyncedArray.exists_surrender_drop (hs.array_held hmember)
      have hrun := step_drop hmember hdrop.outcome
      have hnew : recorded (.drop i) s = new := recorded_eq (by rw [hrun]; exact hdrop.events)
      rw [hrun] at hun
      rw [heldBy_of_member? hmember] at hm
      rw [hnew]
      simpa using hdrop.complete (hb.array_live hmember) hun h hm
  | call i f call => rfl
  | request r => rfl
  | arm fault => rfl
  | forgetEvents => rfl

end BufferSync.Scene
