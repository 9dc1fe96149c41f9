import BufferSync.Proofs.Interruptions

/-!
# What can stop a call

A flush, a bind, an unbind or a disposal goes through a few requests to the device.  For an array
that nobody has disturbed, each of these is granted unless a fault is armed against it: the array
knows the size of its allocation, the marked elements lie inside it, and its handles are live.  So
such a call never breaks down, and it ends with an error only if a fault has struck, which is armed
no more afterwards.

`Dependable` says this of one run; it passes from stage to stage.  Beside it goes an invariant of
all runs: the allocation of an array has the usage of the array (`Housed`).
-/

namespace BufferSync

/-! ## Faults -/

namespace Scene.Fault

/-- Whether the fault is armed. -/
def isArmed (fault : Fault) (g : Gate MemoryDevice) : Bool :=
  match fault with
  | .allocate => g.inner.faults.allocate
  | .upload => g.inner.faults.upload
  | .release => g.inner.faults.release
  | .bind => g.refuseBind
  | .unbind => g.refuseUnbind

/-- The gate after the fault has struck. -/
def spent (fault : Fault) (g : Gate MemoryDevice) : Gate MemoryDevice :=
  match fault with
  | .allocate => SyncedArray.spentAllocate g
  | .upload => SyncedArray.spentUpload g
  | .release => SyncedArray.spentRelease g
  | .bind => { g with refuseBind := false }
  | .unbind => { g with refuseUnbind := false }

/-- A fault that has struck is gone. -/
theorem isArmed_spent (fault : Fault) (g : Gate MemoryDevice) :
    fault.isArmed (fault.spent g) = false := by
  cases fault <;> rfl

theorem table_spent (fault : Fault) (g : Gate MemoryDevice) :
    (fault.spent g).inner.table = g.inner.table := by
  cases fault <;> rfl

/-- When a fault has struck, no other one has come. -/
theorem armed_of_spent (struck : Fault) (g : Gate MemoryDevice) (fault : Fault)
    (hf : fault.isArmed (struck.spent g) = true) : fault.isArmed g = true := by
  cases struck <;> cases fault <;> first | exact hf | cases hf

/-- Nothing matters but the faults themselves. -/
theorem armed_of_same {g g' : Gate MemoryDevice} (hfaults : g'.inner.faults = g.inner.faults)
    (hbind : g'.refuseBind = g.refuseBind) (hunbind : g'.refuseUnbind = g.refuseUnbind)
    (fault : Fault) (hf : fault.isArmed g' = true) : fault.isArmed g = true := by
  cases fault with
  | allocate | upload | release => rwa [isArmed, hfaults] at hf
  | bind => rwa [isArmed, hbind] at hf
  | unbind => rwa [isArmed, hunbind] at hf

/-- What is said when the fault strikes. -/
inductive Reason : Fault → String → Prop
  /-- The device refuses an allocation. -/
  | allocate (size : Nat) : Reason .allocate (MemoryDevice.allocateFault size)
  /-- The device refuses an upload. -/
  | upload (h : Handle) (bytes : Bytes) : Reason .upload (MemoryDevice.uploadFault h bytes)
  /-- The device refuses a release. -/
  | release (h : Handle) : Reason .release (MemoryDevice.releaseFault h)
  /-- The gate turns a binding away. -/
  | bind : Reason .bind SyncedArray.bindTurnedAway
  /-- The gate turns an unbinding away. -/
  | unbind : Reason .unbind SyncedArray.unbindTurnedAway

/-- On the way from `g` to `g'` the fault has struck, and the error says so. -/
structure Struck (fault : Fault) (g g' : Gate MemoryDevice) (e : Error) : Prop where
  /-- The fault was armed. -/
  before : fault.isArmed g = true
  /-- The fault is spent. -/
  after : fault.isArmed g' = false
  /-- The error is that of the fault. -/
  reason : ∃ text, e = .device text ∧ fault.Reason text

end Scene.Fault

namespace MemoryDevice

/-- The entry reports no upload that was refused without a fault. -/
def Proper (entry : Log.Entry) : Prop :=
  ∀ reason, StrayUpload reason → entry ≠ refusal reason

theorem proper_of_severity {entry : Log.Entry} (hs : entry.severity ≠ .error) : Proper entry := by
  rintro reason - rfl
  exact hs rfl

theorem proper_of_head? {text : String} (hI : text.toList.head? = some 'I') :
    Proper (refusal text) := by
  intro reason hstray heq
  have hsame : text = reason := congrArg Log.Entry.message heq
  rw [hsame, hstray.head?] at hI
  cases hI

end MemoryDevice

namespace SyncedArray

variable {α : Type} {c : Codec α} {β γ : Type} {a : SyncedArray c} {g g' : Gate MemoryDevice}
  {h : Handle} {p : SyncedArray c × Gate MemoryDevice} {faults : List Scene.Fault}

open MemoryDevice (Proper proper_of_severity proper_of_head?)
open Scene (Fault)
open Scene.Fault (armed_of_same)

/-! ## Allocations that suit their array -/

/-- The allocation has the usage of the array. -/
def Housed (a : SyncedArray c) (g : Gate MemoryDevice) : Prop :=
  ∀ h al, a.handle = some h → g.inner.table.find? h = some al → al.usage = a.usage

theorem Housed.frame (ha : a.Housed g) {b : SyncedArray c}
    (hhandle : b.handle = a.handle ∨ b.handle = none) (husage : b.usage = a.usage)
    (hfind : ∀ h al', g'.inner.table.find? h = some al' →
      ∃ al, g.inner.table.find? h = some al ∧ al'.usage = al.usage) : b.Housed g' := by
  intro h al' hh hal'
  rcases hhandle with hsame | hnone
  · obtain ⟨al, hal, huse⟩ := hfind h al' hal'
    rw [huse, husage]
    exact ha h al (hsame ▸ hh) hal
  · rw [hnone] at hh
    cases hh

/-- Nothing matters but the table. -/
theorem Housed.of_table (ha : a.Housed g) (htable : g'.inner.table = g.inner.table) :
    a.Housed g' :=
  ha.frame (.inl rfl) rfl fun _ al hal => ⟨al, htable ▸ hal, rfl⟩

/-- Giving an allocation back leaves the others as they are. -/
theorem Housed.afterRelease (ha : a.Housed g) (hl : g.Live h) {b : SyncedArray c}
    (hhandle : b.handle = a.handle ∨ b.handle = none) (husage : b.usage = a.usage) :
    b.Housed (afterRelease g h) := by
  obtain ⟨al, hal⟩ := HandleTable.contains_iff.mp hl
  refine ha.frame hhandle husage fun k al' hal' => ?_
  have hfind := HandleTable.find?_erase hal k
  change (g.inner.table.erase h).find? k = some al' at hal'
  rw [hfind] at hal'
  split at hal'
  · cases hal'
  · exact ⟨al', hal', rfl⟩

/-- A new allocation is made for the array. -/
theorem housed_moved (hg : g.inner.table.Sound) (a : SyncedArray c) :
    (a.moved g.inner.table.nextHandle).Housed
      (afterAllocate g a.host.storage.length a.usage) := by
  intro h al hh hal
  obtain rfl : g.inner.table.nextHandle = h := Option.some.inj hh
  have hfind := HandleTable.find?_insert hg
    { bytes := Region.zeros a.host.storage.length, usage := a.usage } g.inner.table.nextHandle
  rw [if_pos rfl] at hfind
  obtain rfl := Option.some.inj (hfind.symm.trans hal)
  rfl

theorem Housed.afterUpload (ha : a.Housed g) {al : Allocation}
    (hal : g.inner.table.find? h = some al) (s : Span) :
    a.unmarked.Housed (a.afterUpload g h al s) := by
  refine ha.frame (.inl rfl) rfl fun k al' hal' => ?_
  have hfind := HandleTable.find?_replace hal
    { al with bytes := Region.overwrite al.bytes (s.first * c.size) (a.spanBytes s) } k
  change (g.inner.table.replace h _).find? k = some al' at hal'
  rw [hfind] at hal'
  split at hal'
  next heq =>
    obtain rfl := Option.some.inj hal'
    exact ⟨al, heq ▸ hal, rfl⟩
  next => exact ⟨al', hal', rfl⟩

/-! ## Runs that only faults can stop -/

/-- The run, which starts at the gate `g`, can be stopped by the given faults only. -/
structure Dependable (faults : List Fault) (g : Gate MemoryDevice)
    (r : Run (SyncedArray c × Gate MemoryDevice) β) : Prop where
  /-- It does not break down. -/
  total : ∀ t, r.outcome ≠ .trapped t
  /-- An error is the work of one of the faults. -/
  struck : ∀ e, r.outcome = .error e → ∃ fault ∈ faults, fault.Struck g r.state.2 e
  /-- No fault is armed on the way. -/
  armed : ∀ fault : Fault, fault.isArmed r.state.2 = true → fault.isArmed g = true
  /-- No upload is refused without a fault. -/
  proper : ∀ entry ∈ r.log, Proper entry
  /-- The allocation has the usage of the array. -/
  housed : r.state.1.Housed r.state.2

theorem Dependable.of_ok {v : β} {l : List Log.Entry}
    (harmed : ∀ fault : Fault, fault.isArmed p.2 = true → fault.isArmed g = true)
    (hproper : ∀ entry ∈ l, Proper entry) (hhoused : p.1.Housed p.2) :
    Dependable faults g { outcome := .ok v, state := p, log := l } where
  total t heq := by cases heq
  struck e heq := by cases heq
  armed := harmed
  proper := hproper
  housed := hhoused

theorem Dependable.of_struck (fault : Fault) {text : String} {l : List Log.Entry}
    (hmem : fault ∈ faults) (hbefore : fault.isArmed g = true) (hreason : fault.Reason text)
    (hproper : ∀ entry ∈ l, Proper entry) (ha : a.Housed g) :
    Dependable faults g
      ({ outcome := .error (.device text), state := (a, fault.spent g), log := l } : Run _ β) where
  total t heq := by cases heq
  struck e heq := by
    cases heq
    exact ⟨fault, hmem, hbefore, fault.isArmed_spent g, text, rfl, hreason⟩
  armed := fault.armed_of_spent g
  proper := hproper
  housed := ha.of_table (fault.table_spent g)

/-- What went before was no error. -/
theorem Dependable.after {r : Run (SyncedArray c × Gate MemoryDevice) β} {l : List Log.Entry}
    (hr : Dependable faults g' r)
    (harmed : ∀ fault : Fault, fault.isArmed g' = true → fault.isArmed g = true)
    (hproper : ∀ entry ∈ l, Proper entry) : Dependable faults g (r.after l) where
  total := hr.total
  struck e he := by
    obtain ⟨fault, hmem, hstruck⟩ := hr.struck e he
    exact ⟨fault, hmem, harmed fault hstruck.before, hstruck.after, hstruck.reason⟩
  armed fault hf := harmed fault (hr.armed fault hf)
  proper entry hentry := by
    rcases List.mem_append.mp hentry with hearly | hlate
    · exact hproper entry hearly
    · exact hr.proper entry hlate
  housed := hr.housed

theorem Dependable.bind {x : Op (SyncedArray c × Gate MemoryDevice) β}
    {f : β → Op (SyncedArray c × Gate MemoryDevice) γ} (hx : Dependable faults p.2 (x p))
    (hf : ∀ v p' l, x p = { outcome := .ok v, state := p', log := l } → p'.1.Housed p'.2 →
      Dependable faults p'.2 (f v p')) :
    Dependable faults p.2 ((x >>= f) p) := by
  rcases hrun : x p with ⟨v | e | t, p', l⟩
  · rw [hrun] at hx
    rw [Op.bind_of_ok hrun]
    exact (hf v p' l hrun hx.housed).after hx.armed hx.proper
  · rw [hrun] at hx
    rw [Op.bind_of_error hrun]
    refine ⟨?_, ?_, hx.armed, hx.proper, hx.housed⟩
    · intro t heq
      cases heq
    · intro e' heq
      cases heq
      exact hx.struck e rfl
  · rw [hrun] at hx
    exact absurd rfl (hx.total t)

/-! ## Stages -/

theorem proper_nil : ∀ entry ∈ ([] : List Log.Entry), Proper entry :=
  fun _ he => absurd he List.not_mem_nil

theorem proper_cons {entry : Log.Entry} {l : List Log.Entry} (he : Proper entry)
    (hl : ∀ e ∈ l, Proper e) : ∀ e ∈ entry :: l, Proper e :=
  List.forall_mem_cons.mpr ⟨he, hl⟩

theorem dependable_releasePending (hlive : ∀ h ∈ a.owned, g.Live h) (ha : a.Housed g)
    (hmem : .release ∈ faults) : Dependable faults g (releasePending (a, g)) := by
  obtain ⟨-, hrun⟩ | ⟨h, -, hf, hrun⟩ | ⟨h, hp, -, hl, -⟩ | ⟨h, hp, -, hl, hrun⟩ :=
    releasePending_cases a g
  · rw [hrun]
    exact .of_ok (fun _ => id) proper_nil ha
  · rw [hrun]
    exact .of_struck .release hmem hf (.release h)
      (proper_cons (proper_of_head? (MemoryDevice.head?_releaseFault h)) proper_nil) ha
  · exact absurd (hlive h (mem_owned_of_pending hp)) hl
  · rw [hrun]
    exact .of_ok (armed_of_same rfl rfl rfl) (proper_cons (proper_of_severity (by rintro ⟨⟩))
      proper_nil) (ha.afterRelease hl (.inl rfl) rfl)

theorem dependable_syncAllocation (hready : Ready p) (hp : p.1.pending = none)
    (ha : p.1.Housed p.2) (hrelease : .release ∈ faults) (hallocate : .allocate ∈ faults) :
    Dependable faults p.2 (syncAllocation p) := by
  obtain ⟨a, g⟩ := p
  obtain ⟨-, hrun⟩ | ⟨-, hf, hrun⟩ | ⟨-, hsize, -⟩ | ⟨-, -, -, hrun⟩ :=
    syncAllocation_cases hready.held.unlimited a
  · rw [hrun]
    exact .of_ok (fun _ => id) proper_nil ha
  · rw [hrun]
    exact .of_struck .allocate hallocate hf (.allocate _)
      (proper_cons (proper_of_head? (MemoryDevice.head?_allocateFault _)) proper_nil) ha
  · exact absurd hsize (Nat.not_lt.mpr hready.synced.packed.length_le)
  · have hrest := dependable_releasePending
      ((custody_moved hready.held hp).owned_live hready.live)
      (housed_moved hready.held.sound a) hrelease
    rw [hrun]
    exact hrest.after (armed_of_same rfl rfl rfl) (proper_cons (proper_of_severity (by rintro ⟨⟩))
      (proper_cons (proper_of_severity (by rintro ⟨⟩)) proper_nil))

theorem dependable_uploadMarked (hready : Ready p) (ho : p.1.outgrown = false)
    (ha : p.1.Housed p.2) (hmem : .upload ∈ faults) : Dependable faults p.2 (uploadMarked p) := by
  obtain ⟨a, g⟩ := p
  obtain ⟨h, hh⟩ := Option.isSome_iff_exists.mp hready.handle
  obtain ⟨-, hrun⟩ | ⟨s, hs, hunfit, -⟩ | ⟨s, -, -, hf, hrun⟩ |
    ⟨s, hs, hfits, hf, reason, -, hup, -⟩ | ⟨s, hs, -, -, al, hal, hrun⟩ := uploadMarked_cases hh g
  · rw [hrun]
    exact .of_ok (fun _ => id) proper_nil ha
  · exact absurd (hready.synced.spanFits ho hs) hunfit
  · rw [hrun]
    exact .of_struck .upload hmem hf (.upload _ _)
      (proper_cons (proper_of_head? (MemoryDevice.head?_uploadFault _ _)) proper_nil) ha
  · obtain ⟨al, hgranted⟩ := hready.synced.upload_of_fits hh hfits hf
    rw [hgranted] at hup
    cases hup
  · rw [hrun]
    exact .of_ok (armed_of_same rfl rfl rfl) (proper_cons (proper_of_severity (by rintro ⟨⟩))
      proper_nil) (ha.afterUpload hal s)

theorem dependable_bindCurrent (hready : Ready p) (ha : p.1.Housed p.2) (hmem : .bind ∈ faults) :
    Dependable faults p.2 (bindCurrent p) := by
  obtain ⟨a, g⟩ := p
  obtain ⟨h, hh⟩ := Option.isSome_iff_exists.mp hready.handle
  obtain ⟨hf, hrun⟩ | ⟨-, hl, -⟩ | ⟨-, -, hrun⟩ := bindCurrent_cases hh g
  · rw [hrun]
    exact .of_struck .bind hmem hf .bind proper_nil ha
  · exact absurd (hready.live h (mem_owned_of_handle hh)) hl
  · rw [hrun]
    exact .of_ok (armed_of_same rfl rfl rfl) (proper_cons (proper_of_severity (by rintro ⟨⟩))
      proper_nil) (ha.of_table rfl)

theorem dependable_unbind (hready : Ready p) (ha : p.1.Housed p.2) (hmem : .unbind ∈ faults) :
    Dependable faults p.2 (unbind p) := by
  obtain ⟨a, g⟩ := p
  obtain ⟨h, hh⟩ := Option.isSome_iff_exists.mp hready.handle
  obtain ⟨hf, hrun⟩ | ⟨-, hrun⟩ := unbind_cases hh g
  · rw [hrun]
    exact .of_struck .unbind hmem hf .unbind proper_nil ha
  · rw [hrun]
    exact .of_ok (armed_of_same rfl rfl rfl) (proper_cons (proper_of_severity (by rintro ⟨⟩))
      proper_nil) (ha.of_table rfl)

theorem dependable_releaseHandle (hready : Ready p) (ha : p.1.Housed p.2)
    (hmem : .release ∈ faults) : Dependable faults p.2 (releaseHandle p) := by
  obtain ⟨a, g⟩ := p
  obtain ⟨-, hrun⟩ | ⟨h, -, hf, hrun⟩ | ⟨h, hh, -, hl, -⟩ | ⟨h, hh, -, hl, hrun⟩ :=
    releaseHandle_cases a g
  · rw [hrun]
    exact .of_ok (fun _ => id) proper_nil ha
  · rw [hrun]
    exact .of_struck .release hmem hf (.release h)
      (proper_cons (proper_of_head? (MemoryDevice.head?_releaseFault h)) proper_nil) ha
  · exact absurd (hready.live h (mem_owned_of_handle hh)) hl
  · rw [hrun]
    exact .of_ok (armed_of_same rfl rfl rfl) (proper_cons (proper_of_severity (by rintro ⟨⟩))
      (proper_cons (proper_of_severity (by rintro ⟨⟩)) proper_nil))
      (ha.afterRelease hl (.inr rfl) rfl)

/-! ## Calls -/

/-- The faults that can stop a call. -/
def Call.hazards : Call α → List Fault
  | .array _ => []
  | .flush => [.release, .allocate, .upload]
  | .bind => [.release, .allocate, .upload, .bind]
  | .unbind => [.unbind]
  | .dispose => [.release]

/-- The call is one of those that reach the device. -/
def Call.Reaches : Call α → Prop
  | .array _ => False
  | _ => True

theorem dependable_flush (hready : Ready p) (ha : p.1.Housed p.2) (hrelease : .release ∈ faults)
    (hallocate : .allocate ∈ faults) (hupload : .upload ∈ faults) :
    Dependable faults p.2 (flush p) := by
  obtain ⟨h, hh⟩ := Option.isSome_iff_exists.mp hready.handle
  rw [flush_eq, Op.bind_of_ok (liveHandle_of_some hh p.2), Run.after_nil]
  refine (dependable_releasePending hready.live ha hrelease).bind fun _ p₁ _ hrun₁ ha₁ => ?_
  obtain ⟨hready₁, hp₁⟩ := hready.releasePending hrun₁
  refine (dependable_syncAllocation hready₁ hp₁ ha₁ hrelease hallocate).bind
    fun _ p₂ _ hrun₂ ha₂ => ?_
  obtain ⟨hready₂, -, ho₂⟩ := hready₁.syncAllocation hp₁ hrun₂
  exact dependable_uploadMarked hready₂ ho₂ ha₂ hupload

theorem dependable_bind (hready : Ready p) (ha : p.1.Housed p.2) (hrelease : .release ∈ faults)
    (hallocate : .allocate ∈ faults) (hupload : .upload ∈ faults) (hbind : .bind ∈ faults) :
    Dependable faults p.2 (SyncedArray.bind p) := by
  obtain ⟨h, hh⟩ := Option.isSome_iff_exists.mp hready.handle
  have hready' := hready.of_stage (settles_flush hready.held hready.synced)
    (conduct_flush hready.held) steady_anchored.flush
  rw [show p = (p.1, p.2) from rfl, bind_of_some hh]
  refine (dependable_flush hready ha hrelease hallocate hupload).bind fun _ p₁ _ hrun ha₁ => ?_
  rw [hrun] at hready'
  exact dependable_bindCurrent hready' ha₁ hbind

theorem dependable_dispose (hready : Ready p) (ha : p.1.Housed p.2) (hmem : .release ∈ faults) :
    Dependable faults p.2 (dispose p) := by
  rw [dispose_eq]
  refine (dependable_releasePending hready.live ha hmem).bind fun _ p₁ _ hrun ha₁ => ?_
  exact dependable_releaseHandle (hready.releasePending hrun).1 ha₁ hmem

/-- A call that reaches the device can be stopped by its faults only. -/
theorem dependable_perform (hready : Ready p) (ha : p.1.Housed p.2) (call : Call α)
    (hreaches : call.Reaches) : Dependable call.hazards p.2 (perform call p) := by
  have hpure : ∀ p' : SyncedArray c × Gate MemoryDevice, p'.1.Housed p'.2 →
      Dependable call.hazards p'.2 ((pure .done : Op _ (Reply α)) p') :=
    fun _ hb => .of_ok (fun _ => id) proper_nil hb
  cases call with
  | array _ => exact absurd hreaches id
  | flush =>
    refine Dependable.bind ?_ fun _ p' _ _ hb => hpure p' hb
    apply dependable_flush hready ha <;> simp [Call.hazards]
  | bind =>
    refine Dependable.bind ?_ fun _ p' _ _ hb => hpure p' hb
    apply dependable_bind hready ha <;> simp [Call.hazards]
  | unbind =>
    refine Dependable.bind ?_ fun _ p' _ _ hb => hpure p' hb
    exact dependable_unbind hready ha List.mem_cons_self
  | dispose =>
    refine Dependable.bind ?_ fun _ p' _ _ hb => hpure p' hb
    exact dependable_dispose hready ha List.mem_cons_self

theorem Housed.afterCall (ha : a.Housed g) (call : ArrayCall α)
    (r : Run (HostArray c) (Reply α)) : (afterCall call a r).Housed g := by
  obtain ⟨marks, heq⟩ := afterCall_eq call a r
  rw [heq]
  exact ha

theorem housed_filled (hg : g.inner.table.Sound) (config : ArrayConfig) (vs : List α) :
    (filled config vs g.inner.table.nextHandle : SyncedArray c).Housed
      (afterCreate c config g) := by
  apply Housed.afterCall (a := fresh config g.inner.table.nextHandle)
  intro h al hh hal
  obtain rfl : g.inner.table.nextHandle = h := Option.some.inj hh
  have hfind := HandleTable.find?_insert hg
    { bytes := Region.zeros (config.capacity * c.size), usage := config.usage }
    g.inner.table.nextHandle
  rw [if_pos rfl] at hfind
  obtain rfl := Option.some.inj (hfind.symm.trans hal)
  rfl

end SyncedArray

namespace Scene

variable {s : Scene} {k : Nat} {m : Member} {action : Action}

/-! ## Arrays in a scene -/

/-- Array `k`, if it is there, was not disturbed, and its allocation has its usage. -/
structure Sheltered (k : Nat) (s : Scene) : Prop where
  /-- Nobody has disturbed the array. -/
  undisturbed : s.Undisturbed k
  /-- The array is coherent. -/
  coherent : ∀ m, s.member? k = some m → m.array.Coherent
  /-- The allocation has the usage of the array. -/
  housed : ∀ m, s.member? k = some m → m.array.Housed s.gate

theorem sheltered_empty (k : Nat) : Sheltered k {} where
  undisturbed := undisturbed_empty k
  coherent m hm := by cases hm
  housed m hm := by cases hm

/-- A call on the array itself. -/
theorem Sheltered.housed_perform (hs : Sheltered k s) (hm : s.member? k = some m)
    (call : SyncedArray.Call m.format.Element) :
    (SyncedArray.perform call (m.array, s.gate)).state.1.Housed
      (SyncedArray.perform call (m.array, s.gate)).state.2 := by
  have ha := hs.housed m hm
  cases hh : m.array.handle with
  | none =>
    rw [SyncedArray.Released.perform_state ⟨hh, (hs.coherent m hm).disposed hh⟩]
    exact ha
  | some h =>
    have hlive : m.array.isDisposed = false := by
      rw [SyncedArray.isDisposed, hh]
      rfl
    have hready := hs.undisturbed.ready hm hlive
    cases call with
    | array asked =>
      rw [SyncedArray.perform, SyncedArray.performArray_of_some hh]
      exact ha.afterCall asked _
    | flush => exact (SyncedArray.dependable_perform hready ha .flush trivial).housed
    | bind => exact (SyncedArray.dependable_perform hready ha .bind trivial).housed
    | unbind => exact (SyncedArray.dependable_perform hready ha .unbind trivial).housed
    | dispose => exact (SyncedArray.dependable_perform hready ha .dispose trivial).housed

theorem Sheltered.housed_step (hs : Sheltered k s) (hspares : Spares k s action) :
    ∀ m, (step action s).state.member? k = some m → m.array.Housed (step action s).state.gate := by
  intro m hm
  have hsound := hs.undisturbed.sound
  by_cases habout : About k s action
  · cases action with
    | create f config vs =>
      obtain rfl : s.members.length = k := habout
      obtain ⟨-, habsent⟩ | ⟨-, hgate, hmember⟩ := step_create_cases hsound f config vs
      · rw [habsent] at hm
        cases hm
      · obtain rfl := Option.some.inj (hmember.symm.trans hm)
        rw [hgate]
        exact SyncedArray.housed_filled hsound.table config vs
    | drop i =>
      obtain rfl : i = k := habout
      cases hmember : s.member? i with
      | none =>
        rw [step_drop_absent hmember] at hm ⊢
        exact hs.housed m hm
      | some m' =>
        obtain ⟨new, hdrop⟩ := SyncedArray.exists_surrender_drop (hsound.array_held hmember)
        rw [step_drop hmember hdrop.outcome] at hm
        rw [member?_withMember_self (lt_of_member? hmember)] at hm
        cases hm
    | call i f asked =>
      obtain rfl : i = k := habout
      obtain habsent | ⟨m', hm', rfl⟩ := step_call_cases s i f asked
      · rw [habsent] at hm ⊢
        exact hs.housed m hm
      · rw [member?_step_call hm'] at hm
        cases hm
        rw [gate_step_call hm']
        exact hs.housed_perform hm' asked
    | request _ | arm _ | forgetEvents => exact absurd habout id
  · rw [member?_step hsound habout] at hm
    intro h al hh hal
    rw [hspares.find?_step hsound habout hm hh] at hal
    exact hs.housed m hm h al hh hal

theorem Sheltered.step (hs : Sheltered k s) (hspares : Spares k s action) :
    Sheltered k (step action s).state where
  undisturbed := hs.undisturbed.step hspares
  coherent := coherent_step hs.undisturbed.sound hs.coherent action
  housed := hs.housed_step hspares

theorem Sheltered.run (hs : Sheltered k s) {actions : List Action}
    (hspares : Along (Spares k) s actions) : Sheltered k (run s actions) :=
  run_invariant (fun _ _ hs hspares => hs.step hspares) hs hspares

theorem Untampered.sheltered (hs : Untampered k s) : Sheltered k s := by
  obtain ⟨actions, hspares, rfl⟩ := hs
  exact (sheltered_empty k).run hspares

/-- What the device knows of the allocation of a live array. -/
theorem Sheltered.exists_handle (hs : Sheltered k s) (hm : s.member? k = some m)
    (hlive : m.array.isDisposed = false) :
    ∃ h, m.array.handle = some h ∧
      s.device.size? h = some (m.array.deviceCapacity * m.format.codec.size) ∧
      s.device.usage? h = some m.array.usage := by
  have hready := hs.undisturbed.ready hm hlive
  obtain ⟨h, hh⟩ := Option.isSome_iff_exists.mp hready.handle
  obtain ⟨al, hal, hmirror⟩ := hready.synced.device h hh
  have hfind : s.device.table.find? h = some al := hal
  refine ⟨h, hh, ?_, ?_⟩
  · rw [MemoryDevice.size?, MemoryDevice.contents?, hfind, ← hmirror.length]
    rfl
  · rw [MemoryDevice.usage?, hfind, ← hs.housed m hm h al hh hal]
    rfl

/-- A live array that nobody has tampered with marks none but its elements, and its allocation is
live, as large as it believes and of its usage.  So it can be dropped at any time, and a flush, a
bind, an unbind or a disposal never breaks down: it ends with an error only if one of the faults
that it can meet strikes during the call, and no upload is refused for another reason. -/
theorem only_faults_stop (hs : Untampered k s) (hm : s.member? k = some m)
    (hlive : m.array.isDisposed = false) :
    (∀ span, m.array.marks.span = some span → span.last < m.array.host.count) ∧
    m.array.host.count ≤ m.array.host.capacity ∧
    (∃ h, m.array.handle = some h ∧
      s.device.size? h = some (m.array.deviceCapacity * m.format.codec.size) ∧
      s.device.usage? h = some m.array.usage) ∧
    (step (.drop k) s).outcome = .ok .done ∧
    ∀ call : SyncedArray.Call m.format.Element, call.Reaches →
      (∀ t, (step (.call k m.format call) s).outcome ≠ .trapped t) ∧
      (∀ e, (step (.call k m.format call) s).outcome = .error e →
        ∃ fault ∈ call.hazards,
          fault.Struck s.gate (step (.call k m.format call) s).state.gate e) ∧
      ∀ entry ∈ (step (.call k m.format call) s).log, MemoryDevice.Proper entry := by
  have hsheltered := hs.sheltered
  have hready := hs.ready hm hlive
  refine ⟨?_, hready.synced.packed.count_le, hsheltered.exists_handle hm hlive, ?_, ?_⟩
  · intro span hspan
    exact hready.synced.wellMarked.below span hspan
  · obtain ⟨new, hdrop⟩ := SyncedArray.exists_surrender_drop hready.held
    rw [step_drop hm hdrop.outcome]
  · intro call hreaches
    have hrun := SyncedArray.dependable_perform hready (hsheltered.housed m hm) call hreaches
    rw [gate_step_call hm, step_call hm]
    refine ⟨?_, ?_, hrun.proper⟩
    · intro t ht
      exact hrun.total t (Outcome.trapped_of_map ht)
    · intro e he
      exact hrun.struck e (Outcome.error_of_map he)

/-- An array whose elements take no bytes and whose capacity is the largest machine word; its next
upload is to be refused. -/
def boundless : List Action :=
  [.create .empty { capacity := wordLimit - 1 } [(), ()], .arm .upload]

theorem only_faults_stop_boundless :
    Untampered 0 (Scene.run {} boundless) ∧
      ∃ e, (step (.call 0 .empty .flush) (Scene.run {} boundless)).outcome = .error e ∧
        ∃ fault ∈ ([.release, .allocate, .upload] : List Fault),
          fault.Struck (Scene.run {} boundless).gate
            (step (.call 0 .empty .flush) (Scene.run {} boundless)).state.gate e := by
  have hs : Untampered 0 (Scene.run {} boundless) := by
    refine ⟨boundless, ⟨?_, ?_, trivial⟩, rfl⟩
    · rintro r h ⟨⟩
    · rintro r h ⟨⟩
  obtain ⟨-, -, -, -, hcalls⟩ := only_faults_stop hs rfl rfl
  exact ⟨hs, _, rfl, (hcalls .flush trivial).2.1 _ rfl⟩

end Scene

end BufferSync
