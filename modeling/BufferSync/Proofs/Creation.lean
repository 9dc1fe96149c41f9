import BufferSync.Proofs.Custody
import BufferSync.Proofs.ListView

/-!
# Making synced arrays

A new array has an allocation of its own and no other, and nothing else on the device is touched.
An array that finds no room for its elements is dropped at once; its allocation is then given back,
unless the device refuses.
-/

namespace BufferSync.SyncedArray

variable {α : Type} {c : Codec α} {D : Type} {a : SyncedArray c} {g : Gate MemoryDevice}
  {h : Handle}

open Device (made gone named)
open MemoryDevice (UnknownRelease refusal allocateFault allocateEntry)

/-- An array without elements on the allocation `h`. -/
def fresh (config : ArrayConfig) (h : Handle) : SyncedArray c where
  host := HostArray.vacant config.capacity
  marks := .clean
  handle := some h
  pending := none
  deviceCapacity := config.capacity
  label := config.label
  usage := config.usage

/-- What is reported about a new array. -/
def createEntry (c : Codec α) (config : ArrayConfig) : Log.Entry where
  severity := .debug
  source := source
  message := s!"Created '{config.label}' (" ++ config.usage.name ++
    s!"): {config.capacity} elements x {c.size} bytes"

/-- The gate after the allocation of a new array. -/
def afterCreate (c : Codec α) (config : ArrayConfig) (g : Gate MemoryDevice) : Gate MemoryDevice :=
  afterAllocate g (config.capacity * c.size) config.usage

/-- What is reported on the way to a new array. -/
def creationLog (c : Codec α) (config : ArrayConfig) (g : Gate MemoryDevice) : List Log.Entry :=
  [allocateEntry g.inner.table.nextHandle (config.capacity * c.size) config.usage,
    createEntry c config]

/-- If there is no room on the host, the device is not asked. -/
theorem create_of_not_fits [Device D] {config : ArrayConfig} (hroom : ¬ c.Fits config.capacity)
    (d : D) : (create config : Op D (SyncedArray c)) d =
      { outcome := .trapped (HostArray.excess c config.capacity), state := d, log := [] } := by
  rw [create, Op.bind_of_trapped (HostArray.withCapacity_of_not_fits hroom d)]

/-- There is no room, or a fault strikes the allocation, or the array is made. -/
theorem create_cases (hleft : g.allocatesLeft = none) (config : ArrayConfig) :
    (¬ c.Fits config.capacity ∧ (create config : Op _ (SyncedArray c)) g =
      { outcome := .trapped (HostArray.excess c config.capacity), state := g, log := [] }) ∨
    (g.inner.faults.allocate = true ∧ ∃ n, (create config : Op _ (SyncedArray c)) g =
      { outcome := .error (.device (allocateFault n))
        state := spentAllocate g
        log := [refusal (allocateFault n)] }) ∨
    (c.Fits config.capacity ∧ (create config : Op _ (SyncedArray c)) g =
      { outcome := .ok (fresh config g.inner.table.nextHandle)
        state := afterCreate c config g
        log := creationLog c config g }) := by
  by_cases hroom : c.Fits config.capacity
  · have hlength : (HostArray.vacant config.capacity : HostArray c).storage.length =
        config.capacity * c.size := Region.length_zeros _
    rw [create, Op.bind_of_ok (HostArray.withCapacity_of_fits hroom g), hlength]
    obtain ⟨hf, hrun⟩ | ⟨-, hgt, -⟩ | ⟨-, -, hrun⟩ :=
      gate_allocate_cases hleft (config.capacity * c.size) config.usage
    · exact .inr (.inl ⟨hf, _, by rw [Op.bind_of_error hrun]; rfl⟩)
    · exact absurd hgt (Nat.not_lt.mpr hroom.size_le)
    · exact .inr (.inr ⟨hroom, by rw [Op.bind_of_ok hrun]; rfl⟩)
  · exact .inl ⟨hroom, create_of_not_fits hroom g⟩

/-- The new array on the allocation `h`, with as many of the elements as found room. -/
def filled (config : ArrayConfig) (vs : List α) (h : Handle) : SyncedArray c :=
  afterCall (.appendAll vs) (fresh config h)
    (HostArray.perform (.appendAll vs) (HostArray.vacant config.capacity))

/-- Behind the creation only the host array and the marks are new. -/
theorem filled_eq (config : ArrayConfig) (vs : List α) (h : Handle) :
    ∃ host marks, (filled config vs h : SyncedArray c) =
      { (fresh config h : SyncedArray c) with host, marks } := by
  obtain ⟨marks, heq⟩ := afterCall_eq (.appendAll vs) (fresh config h : SyncedArray c)
    (HostArray.perform (.appendAll vs) (HostArray.vacant config.capacity))
  exact ⟨_, marks, heq⟩

theorem owned_filled (config : ArrayConfig) (vs : List α) (h : Handle) :
    (filled config vs h : SyncedArray c).owned = [h] := by
  obtain ⟨host, marks, heq⟩ := filled_eq config vs h
  rw [heq]
  rfl

/-- The elements are added as by a call. -/
theorem appendAll_run (hh : a.handle = some h) (vs : List α) (d : D) :
    ∃ o, appendAll vs (a, d) =
        { outcome := o
          state := (afterCall (.appendAll vs) a (HostArray.perform (.appendAll vs) a.host), d)
          log := (HostArray.perform (.appendAll vs) a.host).log } ∧
      o.map .positions = (HostArray.perform (.appendAll vs) a.host).outcome := by
  have hcall := performArray_of_some hh (.appendAll vs) d
  rw [performArray, Op.map_apply] at hcall
  obtain ⟨houtcome, hstate, hlog⟩ := Run.mk.inj hcall
  exact ⟨(appendAll vs (a, d)).outcome, by rw [← hstate, ← hlog], houtcome⟩

/-- How the new array is dropped. -/
def dropFilled (c : Codec α) (config : ArrayConfig) (vs : List α) (g : Gate MemoryDevice) :
    Run (SyncedArray c × Gate MemoryDevice) Unit :=
  drop (filled config vs g.inner.table.nextHandle, afterCreate c config g)

/-- There is no allocation, or the elements find room, or they do not and the array is dropped. -/
theorem ofList_cases (hleft : g.allocatesLeft = none) (config : ArrayConfig) (vs : List α) :
    (∃ t, (ofList config vs : Op _ (SyncedArray c)) g =
      { outcome := .trapped t, state := g, log := [] }) ∨
    (∃ n, (ofList config vs : Op _ (SyncedArray c)) g =
      { outcome := .error (.device (allocateFault n))
        state := spentAllocate g
        log := [refusal (allocateFault n)] }) ∨
    (c.Fits config.capacity ∧ ∃ l, (∀ e ∈ l, ¬ UnknownRelease e) ∧
      ((ofList config vs : Op _ (SyncedArray c)) g =
        { outcome := .ok (filled config vs g.inner.table.nextHandle)
          state := afterCreate c config g
          log := l } ∨
      ∃ o : Outcome (SyncedArray c), o.isOk = false ∧ ofList config vs g =
        { outcome := o
          state := (dropFilled c config vs g).state.2
          log := l ++ (dropFilled c config vs g).log })) := by
  obtain ⟨-, hrun⟩ | ⟨-, n, hrun⟩ | ⟨hroom, hrun⟩ := create_cases (c := c) hleft config
  · exact .inl ⟨_, by rw [ofList, Op.bind_of_trapped hrun]⟩
  · exact .inr (.inl ⟨n, by rw [ofList, Op.bind_of_error hrun]⟩)
  · refine .inr (.inr ⟨hroom, creationLog c config g ++ (HostArray.perform (.appendAll vs)
      (HostArray.vacant config.capacity : HostArray c)).log, ?_, ?_⟩)
    · intro e he
      rcases List.mem_append.mp he with he | he
      · simp only [creationLog, List.mem_cons, List.not_mem_nil, or_false] at he
        rcases he with rfl | rfl
        · exact MemoryDevice.not_unknownRelease_of_ne (.inr (by simp [allocateEntry]))
        · exact not_unknownRelease_source rfl
      · have hreports := HostArray.reports_perform (c := c) (.appendAll vs)
        have hsource := (hreports (HostArray.vacant config.capacity) trivial).2 e he
        apply MemoryDevice.not_unknownRelease_of_ne (.inl ?_)
        rw [show e.source = HostArray.source from hsource]
        decide
    · rw [ofList, Op.bind_of_ok hrun]
      obtain ⟨o, happend, hmap⟩ := appendAll_run (a := fresh config g.inner.table.nextHandle) rfl vs
        (afterCreate c config g)
      rcases o with b | e | t
      · refine .inl ?_
        rw [Op.bind_of_ok (Op.beside_of_eq (Op.finishing_of_ok happend drop)), Run.after_after]
        change Run.mk _ _ (_ ++ []) = _
        rw [List.append_nil]
        rfl
      · refine .inr ⟨.error e, rfl, ?_⟩
        rw [Op.bind_of_error (Op.beside_of_eq (Op.finishing_of_error happend drop)), Run.after,
          ← List.append_assoc]
        rfl
      · refine .inr ⟨.trapped t, rfl, ?_⟩
        rw [Op.bind_of_trapped (Op.beside_of_eq (Op.finishing_of_trapped happend drop)), Run.after,
          ← List.append_assoc]
        rfl

/-- The run of a creation from `g` touches nothing but what it makes.  If it ends well, the new
array answers for exactly what was made. -/
structure Birth (g : Gate MemoryDevice) (r : Run (Gate MemoryDevice) (SyncedArray c))
    (new : List Device.Event) : Prop extends Recorded g r.state new where
  /-- No other allocation is touched. -/
  named : ∀ h ∈ named new, h ∈ made new
  /-- Only known handles are given back. -/
  civil : ∀ e ∈ r.log, ¬ UnknownRelease e
  /-- The new array answers for what was made. -/
  owned : ∀ a, r.outcome = .ok a → a.owned = made new ∧ gone new = []
  /-- If there is no array in the end, everything is given back, unless a release is refused. -/
  complete : r.outcome.isOk = false → Unrefused r.log → ∀ h ∈ made new, h ∈ gone new

theorem exists_birth (hg : g.inner.table.Sound) (hleft : g.allocatesLeft = none)
    (config : ArrayConfig) (vs : List α) :
    ∃ new, Birth g ((ofList config vs : Op _ (SyncedArray c)) g) new := by
  obtain ⟨t, hrun⟩ | ⟨n, hrun⟩ | ⟨-, l, hcivil, hrun | ⟨o, ho, hrun⟩⟩ :=
    ofList_cases (c := c) hleft config vs
  · rw [hrun]
    exact ⟨[],
      { toRecorded := .refl hg
        named := fun h hm => by cases hm
        civil := fun e he => by cases he
        owned := fun a ha => by cases ha
        complete := fun _ _ h hm => by cases hm }⟩
  · rw [hrun]
    refine ⟨[],
      { toRecorded := ⟨.of_table_eq hg rfl rfl rfl rfl, (List.append_nil _).symm⟩
        named := fun h hm => by cases hm
        civil := ?_
        owned := fun a ha => by cases ha
        complete := fun _ _ h hm => by cases hm }⟩
    intro e he
    obtain rfl := List.mem_singleton.mp he
    exact MemoryDevice.not_unknownRelease_allocateFault n
  · rw [hrun]
    refine ⟨_,
      { toRecorded := .of_allocated hg _ _
        named := fun h hm => hm
        civil := hcivil
        owned := ?_
        complete := fun hfail => by cases hfail }⟩
    intro a ha
    obtain rfl := Outcome.ok.inj ha
    exact ⟨owned_filled config vs _, rfl⟩
  · -- the array is dropped, and only its own allocation is touched
    have hmade : Recorded g (afterCreate c config g) _ := .of_allocated hg _ _
    have hlive : (afterCreate c config g).Live g.inner.table.nextHandle :=
      (hmade.live _).mpr ⟨.inr List.mem_cons_self, List.not_mem_nil⟩
    have hlives : ∀ h ∈ [g.inner.table.nextHandle], (afterCreate c config g).Live h := by
      intro h hm
      obtain rfl := List.mem_singleton.mp hm
      exact hlive
    have howned := owned_filled (c := c) config vs g.inner.table.nextHandle
    have hheld : Held (filled config vs g.inner.table.nextHandle : SyncedArray c)
        (afterCreate c config g) := by
      refine ⟨hmade.sound, hleft, ?_, ?_⟩
      · intro h hm
        rw [howned] at hm
        exact (hlives h hm).issued
      · rw [howned]
        exact List.pairwise_singleton _ _
    obtain ⟨later, hdrop⟩ := exists_surrender_drop hheld
    rw [howned] at hdrop
    have hall : made ([.allocated g.inner.table.nextHandle (config.capacity * c.size)] ++ later) =
        [g.inner.table.nextHandle] := by
      rw [Device.made_append, hdrop.made_nil]
      rfl
    rw [hrun]
    refine ⟨_,
      { toRecorded := hmade.trans hdrop.toRecorded
        named := ?_
        civil := ?_
        owned := ?_
        complete := ?_ }⟩
    · intro h hm
      rw [Device.named_append, List.mem_append] at hm
      rw [hall]
      exact hm.elim id (hdrop.named h)
    · intro e he
      rcases List.mem_append.mp he with he | he
      · exact hcivil e he
      · exact hdrop.civil hlives e he
    · intro a ha
      obtain rfl : o = .ok a := ha
      cases ho
    · intro _ hun h hm
      rw [hall] at hm
      have hdropped : Unrefused (dropFilled c config vs g).log := fun k =>
        ⟨fun hk => (hun k).1 (List.mem_append_right _ hk),
          fun hk => (hun k).2 (List.mem_append_right _ hk)⟩
      rw [Device.gone_append, List.mem_append]
      exact .inr (hdrop.complete hlives hdropped h hm)

end BufferSync.SyncedArray
