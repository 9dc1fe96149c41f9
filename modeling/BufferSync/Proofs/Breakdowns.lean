import BufferSync.Proofs.Interruptions

/-!
# Breakdowns

There are many places at which a call checks something and breaks down if it does not hold: that a
place in the storage or a number of elements is a machine word, that an access or a move lies inside
the storage, that a codec has taken as many bytes as an element has, that a cursor is not behind the
end.  An array breaks down for one reason all the same: a call needs more room than there is, and no
region is large enough for it (`ArrayCall.Overtaxes`).  The room is found before anything is
written, so a call that breaks down has changed nothing, neither the elements with their storage
nor, on a synced array, its marks, its handles or the device.

*Host arrays.*  On a packed array all checks but those for room hold.  So a call breaks down exactly
if it overtaxes the array, and what it leaves is packed (`HostArray.Bears`).  A run of calls
therefore keeps the representation invariant, however the calls end.

*Synced arrays.*  On any device, a call on the elements breaks down exactly if it does so on the
host array; no other call touches the host array.

*Scenes.*  On the device in memory the calls that reach the device never break down.
-/

namespace BufferSync

namespace Outcome

variable {α β : Type}

/-- The operation has broken down. -/
def Trapped (o : Outcome α) : Prop :=
  ∃ t, o = .trapped t

theorem trapped_trapped (t : Trap) : (.trapped t : Outcome α).Trapped :=
  ⟨t, rfl⟩

theorem not_trapped_ok (v : α) : ¬ (.ok v : Outcome α).Trapped := nofun

theorem not_trapped_error (e : Error) : ¬ (.error e : Outcome α).Trapped := nofun

@[simp] theorem trapped_map (f : α → β) (o : Outcome α) : (o.map f).Trapped ↔ o.Trapped := by
  constructor
  · rintro ⟨t, ht⟩
    exact ⟨t, trapped_of_map ht⟩
  · rintro ⟨t, rfl⟩
    exact ⟨t, rfl⟩

end Outcome

/-- A run that cannot end by a breakdown has not broken down. -/
theorem Run.Ends.not_trapped {σ α : Type} {r : Run σ α} {Q : α → σ → Prop} {E T : σ → Prop}
    (hends : r.Ends Q E T) (hT : ¬ T r.state) : ¬ r.outcome.Trapped := by
  rintro ⟨t, ht⟩
  exact hT (hends.of_trapped ht)

namespace HostArray

variable {α β : Type} {c : Codec α} {a : HostArray c} {call : ArrayCall α}

/-! ## Room that cannot be had -/

/-- There is no room for `n` elements, and no region has room for them. -/
def Exceeded (a : HostArray c) (n : Nat) : Prop :=
  a.capacity < n ∧ regionLimit < n * c.size

/-- What exceeds a packed array cannot be had by any. -/
theorem exceeded_iff (ha : a.Packed) {n : Nat} : wordLimit ≤ n ∨ a.Exceeded n ↔ ¬ c.Fits n := by
  constructor
  · intro hover hfits
    exact hover.elim (Nat.not_le.mpr hfits.word) fun hexceeded =>
      Nat.not_le.mpr hexceeded.2 hfits.size_le
  · intro hnone
    exact (Codec.not_fits_iff.mp hnone).imp_right fun hlarge => ⟨ha.lt_of_not_fits hnone, hlarge⟩

end HostArray

/-- The call needs more room than the array has, and the room cannot be had.  To add one element, a
full array makes room for twice its elements; the other calls make room for what they are asked
for.  Only `appendAll` computes that number; where it is given, it is a machine word to begin with,
and a number that is none asks for too much. -/
def ArrayCall.Overtaxes {α : Type} {c : Codec α} (a : HostArray c) : ArrayCall α → Prop
  | .append _ => a.Saturated
  | .insert i _ => i ≤ a.count ∧ a.Saturated
  | .appendAll vs => wordLimit ≤ a.count + vs.length ∨ a.Exceeded (a.count + vs.length)
  | .resize n _ => wordLimit ≤ n ∨ a.Exceeded n
  | .setCapacity n => wordLimit ≤ n ∨ a.Exceeded n
  | .reserve n => wordLimit ≤ n ∨ a.Exceeded n
  | _ => False

namespace HostArray

variable {α β : Type} {c : Codec α} {a : HostArray c} {call : ArrayCall α}

/-! ## Calls -/

/-- The call breaks down exactly if it overtaxes the array, which is then as before; in any case it
leaves a packed array. -/
structure Bears (a : HostArray c) (call : ArrayCall α) : Prop where
  /-- It breaks down for want of room. -/
  trapped_iff : (perform call a).outcome.Trapped ↔ call.Overtaxes a
  /-- If it breaks down, it has changed nothing. -/
  unchanged : (perform call a).outcome.Trapped → (perform call a).state = a
  /-- It leaves a packed array. -/
  packed : (perform call a).state.Packed

theorem bears_of_eq {x : Op (HostArray c) β} {g : β → Reply α} {o : Outcome β} {b : HostArray c}
    {l : List Log.Entry} (hcall : perform call = x >>= fun v => pure (g v))
    (hrun : x a = { outcome := o, state := b, log := l }) (ho : ¬ o.Trapped) (hb : b.Packed)
    (hfree : ¬ call.Overtaxes a) : a.Bears call := by
  have hperform : perform call a = { outcome := o.map g, state := b, log := l } := by
    rw [hcall, Op.map_apply, hrun]
  have hnot : ¬ (perform call a).outcome.Trapped := by
    rw [hperform, Outcome.trapped_map]
    exact ho
  refine ⟨iff_of_false hnot hfree, fun htrap => absurd htrap hnot, ?_⟩
  rw [hperform]
  exact hb

/-- An operation that finds the room it needs. -/
theorem bears_of_ok {x : Op (HostArray c) β} {g : β → Reply α} {v : β} {b : HostArray c}
    {l : List Log.Entry} (hcall : perform call = x >>= fun v => pure (g v))
    (hrun : x a = { outcome := .ok v, state := b, log := l }) (hb : b.Packed)
    (hfree : ¬ call.Overtaxes a) : a.Bears call :=
  bears_of_eq hcall hrun (Outcome.not_trapped_ok v) hb hfree

/-- An operation that is refused. -/
theorem bears_of_raise {x : Op (HostArray c) β} {g : β → Reply α} {e : Error}
    (hcall : perform call = x >>= fun v => pure (g v)) (hrun : x a = Op.raise source e a)
    (ha : a.Packed) (hfree : ¬ call.Overtaxes a) : a.Bears call :=
  bears_of_eq hcall (hrun.trans (Op.raise_apply _ _ _)) (Outcome.not_trapped_error e) ha hfree

/-- An operation that breaks down if `P` holds and ends well if `Q` holds, where `P` says that it
overtaxes the array and `Q` that it does not. -/
theorem bears_of_cases {x : Op (HostArray c) β} {g : β → Reply α} {v : β} {P Q : Prop}
    {R : HostArray c → Prop} (hcall : perform call = x >>= fun v => pure (g v))
    (hcases : (P ∧ ∃ t l, x a = { outcome := .trapped t, state := a, log := l }) ∨
      (Q ∧ ∃ b l, x a = { outcome := .ok v, state := b, log := l } ∧ b.Packed ∧ R b))
    (ha : a.Packed) (hP : P → call.Overtaxes a) (hQ : Q → ¬ call.Overtaxes a) : a.Bears call := by
  obtain ⟨hp, t, l, hrun⟩ | ⟨hq, b, l, hrun, hb, -⟩ := hcases
  · have hperform : perform call a = { outcome := .trapped t, state := a, log := l } := by
      rw [hcall, Op.map_apply, hrun]
      rfl
    refine ⟨iff_of_true ?_ (hP hp), fun _ => ?_, ?_⟩
    · rw [hperform]
      exact Outcome.trapped_trapped t
    · rw [hperform]
    · rw [hperform]
      exact ha
  · exact bears_of_ok hcall hrun hb (hQ hq)

/-- An operation that makes room for `n` elements and breaks down if there can be none. -/
theorem bears_of_room {x : Op (HostArray c) β} {g : β → Reply α} {v : β} {n : Nat}
    {R : HostArray c → Prop} (hcall : perform call = x >>= fun v => pure (g v))
    (hcases : (¬ c.Fits n ∧ ∃ t l, x a = { outcome := .trapped t, state := a, log := l }) ∨
      (c.Fits n ∧ ∃ b l, x a = { outcome := .ok v, state := b, log := l } ∧ b.Packed ∧ R b))
    (ha : a.Packed) (hover : call.Overtaxes a ↔ wordLimit ≤ n ∨ a.Exceeded n) : a.Bears call := by
  have hnone : call.Overtaxes a ↔ ¬ c.Fits n := hover.trans (exceeded_iff ha)
  exact bears_of_cases hcall hcases ha hnone.mpr fun hfits hovertaxes => hnone.mp hovertaxes hfits

/-- An operation that does nothing else than make room. -/
theorem bears_of_sameCells {x : Op (HostArray c) β} {g : β → Reply α} {v : β} {n : Nat}
    {R : HostArray c → Prop} (hcall : perform call = x >>= fun v => pure (g v))
    (hcases : (¬ c.Fits n ∧ ∃ t l, x a = { outcome := .trapped t, state := a, log := l }) ∨
      (c.Fits n ∧ ∃ b l, x a = { outcome := .ok v, state := b, log := l } ∧ SameCells a b ∧ R b))
    (ha : a.Packed) (hover : call.Overtaxes a ↔ wordLimit ≤ n ∨ a.Exceeded n) : a.Bears call :=
  bears_of_room hcall (hcases.imp_right fun ⟨hfits, b, l, hrun, hb, hr⟩ =>
    ⟨hfits, b, l, hrun, hb.packed, hr⟩) ha hover

/-- An array has room for what it has room for. -/
theorem not_exceeded_of_le (ha : a.Packed) {n : Nat} (h : n ≤ a.capacity) :
    ¬ (wordLimit ≤ n ∨ a.Exceeded n) :=
  fun hover => (exceeded_iff ha).mp hover (ha.fits h)

/-- Every call on a packed array breaks down for want of room only. -/
theorem Packed.bears (hc : c.Sized) (ha : a.Packed) (call : ArrayCall α) : a.Bears call := by
  cases call with
  | get i =>
    by_cases h : i < a.count
    · exact bears_of_ok rfl (get_of_lt ha h) ha id
    · exact bears_of_raise rfl (get_of_ge (Nat.not_lt.mp h)) ha id
  | set i v =>
    by_cases h : i < a.count
    · have hlength : (c.bytes v).length = 1 * c.size := by rw [hc v, Nat.one_mul]
      have hroom : i + 1 ≤ a.capacity := Nat.le_trans h ha.count_le
      exact bears_of_ok rfl (set_of_lt hc ha h v) (ha.overwriteCells hlength hroom) id
    · exact bears_of_raise rfl (set_of_ge (Nat.not_lt.mp h) v) ha id
  | append v => exact bears_of_cases rfl (append_cases hc ha v) ha id id
  | appendAll vs => exact bears_of_room rfl (appendAll_cases hc ha vs) ha .rfl
  | insert i v =>
    by_cases h : i ≤ a.count
    · exact bears_of_cases rfl (insert_cases hc ha h v) ha (fun hfull => ⟨h, hfull⟩)
        fun hfree hover => hfree hover.2
    · exact bears_of_raise rfl (insert_of_gt (Nat.not_le.mp h) v) ha fun hover => h hover.1
  | removeAt i =>
    by_cases h : i < a.count
    · exact bears_of_ok rfl (removeAt_of_lt ha h) (packed_removed ha h) id
    · exact bears_of_raise rfl (removeAt_of_ge (Nat.not_lt.mp h)) ha id
  | truncate n =>
    exact bears_of_ok rfl (Op.update_apply _ a) (ha.truncate (Nat.min_le_left ..)) id
  | resize n v =>
    by_cases h : n ≤ a.count
    · exact bears_of_ok rfl (resize_of_le h v) (ha.truncate (Nat.min_le_left ..))
        (not_exceeded_of_le ha (Nat.le_trans h ha.count_le))
    · exact bears_of_room rfl (resize_cases hc ha (Nat.not_le.mp h) v) ha .rfl
  | clear => exact bears_of_ok rfl (Op.update_apply _ a) (ha.truncate (Nat.zero_le _)) id
  | setCapacity n =>
    by_cases h : n < a.count
    · exact bears_of_raise rfl (setCapacity_of_lt h) ha
        (not_exceeded_of_le ha (Nat.le_of_lt (Nat.lt_of_lt_of_le h ha.count_le)))
    · exact bears_of_sameCells rfl (setCapacity_cases ha (Nat.not_lt.mp h)) ha .rfl
  | reserve n => exact bears_of_sameCells rfl (reserve_cases ha n) ha .rfl
  | elements => exact bears_of_ok rfl (elements_eq ha) ha id
  | walk n => exact bears_of_ok rfl (walk_eq ha n) ha id

/-! ## Runs of calls -/

/-- The arrays that a run of calls leads to from a new one, whatever the outcomes of the calls. -/
inductive Attainable : HostArray c → Prop where
  /-- An array is made with some room. -/
  | withCapacity {n : Nat} {a : HostArray c}
      (made : ((withCapacity n : Op Unit (HostArray c)) ()).outcome = .ok a) : Attainable a
  /-- An array is made of some elements. -/
  | ofList {vs : List α} {a : HostArray c}
      (made : ((ofList vs : Op Unit (HostArray c)) ()).outcome = .ok a) : Attainable a
  /-- A call is run on an array. -/
  | perform {a : HostArray c} {call : ArrayCall α} (earlier : Attainable a) :
      Attainable (HostArray.perform call a).state

theorem trapped_withCapacity_iff (n : Nat) :
    ((withCapacity n : Op Unit (HostArray c)) ()).outcome.Trapped ↔
      wordLimit ≤ n ∨ regionLimit < n * c.size := by
  rw [← Codec.not_fits_iff]
  by_cases hroom : c.Fits n
  · rw [withCapacity_of_fits hroom]
    exact iff_of_false (Outcome.not_trapped_ok _) (not_not_intro hroom)
  · rw [withCapacity_of_not_fits hroom]
    exact iff_of_true (Outcome.trapped_trapped _) hroom

theorem trapped_ofList_iff (hc : c.Sized) (vs : List α) :
    ((ofList vs : Op Unit (HostArray c)) ()).outcome.Trapped ↔
      (ArrayCall.appendAll vs).Overtaxes (vacant 0 : HostArray c) := by
  rw [ofList_eq, Outcome.trapped_map, ← (packed_vacant_zero.bears hc (.appendAll vs)).trapped_iff,
    perform, Op.map_apply, Outcome.trapped_map]

theorem packed_of_ofList (hc : c.Sized) {vs : List α}
    (made : ((ofList vs : Op Unit (HostArray c)) ()).outcome = .ok a) : a.Packed := by
  have hperform := (packed_vacant_zero.bears hc (.appendAll vs)).packed
  rw [ofList_eq] at made
  obtain ⟨-, -, rfl⟩ := Outcome.exists_of_map made
  rwa [perform, Op.map_apply] at hperform

/-- Runs keep the representation invariant. -/
theorem Attainable.packed (hc : c.Sized) (ha : Attainable a) : a.Packed := by
  induction ha with
  | withCapacity made =>
    obtain ⟨rfl, hroom⟩ := eq_vacant_of_withCapacity made
    exact packed_vacant hroom
  | ofList made => exact packed_of_ofList hc made
  | @perform _ call _ ih => exact (ih.bears hc call).packed

end HostArray

namespace SyncedArray

variable {α : Type} {c : Codec α} {D : Type} {a : SyncedArray c}

/-! ## Synced arrays on any device -/

theorem trapped_performArray_iff (hc : c.Sized) (ha : a.host.Packed) (call : ArrayCall α) (d : D) :
    (performArray call (a, d)).outcome.Trapped ↔
      a.handle.isSome = true ∧ call.Overtaxes a.host := by
  cases hh : a.handle with
  | none =>
    rw [performArray_of_none hh, Op.raise_apply]
    exact iff_of_false (Outcome.not_trapped_error _) fun h => Bool.false_ne_true h.1
  | some h =>
    rw [performArray_of_some hh, (ha.bears hc call).trapped_iff]
    exact (and_iff_right rfl).symm

theorem performArray_of_trapped (hc : c.Sized) (ha : a.host.Packed) {call : ArrayCall α} {d : D}
    (htrap : (performArray call (a, d)).outcome.Trapped) :
    (performArray call (a, d)).state = (a, d) := by
  cases hh : a.handle with
  | none => rw [performArray_of_none hh, Op.raise_apply]
  | some h =>
    rw [performArray_of_some hh] at htrap ⊢
    have hhost : (HostArray.perform call a.host).outcome.Trapped := htrap
    have hsame := (ha.bears hc call).unchanged hhost
    obtain ⟨t, ht⟩ := hhost
    -- nothing is marked behind a call that breaks down
    simp only [afterCall, ht, hsame]

variable [Device D]

/-- What calls on a synced array do on the device `d`: they keep the host array packed, and those on
the elements break down exactly if the array is live and the call overtaxes the host array. -/
structure Bears (a : SyncedArray c) (d : D) : Prop where
  /-- Every call keeps the host array packed, however it ends. -/
  packed : ∀ call : Call α, (perform call (a, d)).state.1.host.Packed
  /-- A call on the elements breaks down for want of room. -/
  trapped_iff : ∀ call : ArrayCall α, (performArray call (a, d)).outcome.Trapped ↔
    a.handle.isSome = true ∧ call.Overtaxes a.host
  /-- If it breaks down, it has changed nothing of the array and of the device. -/
  unchanged : ∀ call : ArrayCall α, (performArray call (a, d)).outcome.Trapped →
    (performArray call (a, d)).state = (a, d)

theorem bears_of_packed (hc : c.Sized) (ha : a.host.Packed) (d : D) : a.Bears d where
  packed call := by
    obtain hsame | ⟨asked, rfl, hhost⟩ := host_perform_cases call a d
    · rwa [hsame]
    · rw [hhost]
      exact (ha.bears hc asked).packed
  trapped_iff call := trapped_performArray_iff hc ha call d
  unchanged _ := performArray_of_trapped hc ha

/-! ## Making synced arrays -/

/-- If there is room on the host, the device decides. -/
theorem outcome_create_of_fits {config : ArrayConfig} (h : c.Fits config.capacity) (d : D) :
    ((create config : Op D (SyncedArray c)) d).outcome =
      (Device.allocate (config.capacity * c.size) config.usage d).outcome.map (fresh config) := by
  have hlength : (HostArray.vacant config.capacity : HostArray c).storage.length =
      config.capacity * c.size := Region.length_zeros _
  rw [create, Op.bind_of_ok (HostArray.withCapacity_of_fits h d), hlength]
  rcases hrun : Device.allocate (config.capacity * c.size) config.usage d with ⟨h | e | t, d', l⟩
  · rw [Op.bind_of_ok hrun]
    rfl
  · rw [Op.bind_of_error hrun]
    rfl
  · rw [Op.bind_of_trapped hrun]
    rfl

theorem packed_of_create {config : ArrayConfig} {d : D}
    (made : ((create config : Op D (SyncedArray c)) d).outcome = .ok a) : a.host.Packed := by
  by_cases hroom : c.Fits config.capacity
  · rw [outcome_create_of_fits hroom] at made
    obtain ⟨h, -, rfl⟩ := Outcome.exists_of_map made
    exact HostArray.packed_vacant hroom
  · rw [create_of_not_fits hroom] at made
    cases made

/-- The device in memory does not break down over a region that can exist. -/
theorem trapped_create_iff (config : ArrayConfig) (d : MemoryDevice) :
    ((create config : Op MemoryDevice (SyncedArray c)) d).outcome.Trapped ↔
      wordLimit ≤ config.capacity ∨ regionLimit < config.capacity * c.size := by
  rw [← Codec.not_fits_iff]
  by_cases hroom : c.Fits config.capacity
  · refine iff_of_false ?_ (not_not_intro hroom)
    rw [outcome_create_of_fits hroom, Outcome.trapped_map]
    change ¬ (MemoryDevice.allocate _ _ d).outcome.Trapped
    cases hf : d.faults.allocate with
    | true =>
      rw [MemoryDevice.allocate_of_fault hf]
      exact Outcome.not_trapped_error _
    | false =>
      rw [MemoryDevice.allocate_of_le hf hroom.size_le]
      exact Outcome.not_trapped_ok _
  · rw [create_of_not_fits hroom]
    exact iff_of_true (Outcome.trapped_trapped _) hroom

/-! ## Calls that reach the device in memory -/

variable {p : SyncedArray c × Gate MemoryDevice} {h : Handle}

/-- Nothing breaks down on the way to the device: a coherent array uploads what both regions
have. -/
theorem not_trapped_perform (hheld : p.1.Held p.2) (ha : p.1.Coherent) {call : Call α}
    (hcall : ∀ asked, call ≠ .array asked) : ¬ (perform call p).outcome.Trapped := by
  cases hh : p.1.handle with
  | none =>
    have hrun := Released.perform_eq ⟨hh, ha.disposed hh⟩ call p.2
    rw [show p = (p.1, p.2) from rfl, hrun]
    cases call with
    | dispose => exact Outcome.not_trapped_ok _
    | array _ | flush | bind | unbind => exact Outcome.not_trapped_error _
  | some h =>
    cases call with
    | array asked => exact absurd rfl (hcall asked)
    | flush =>
      rw [perform, Op.map_apply, Outcome.trapped_map]
      exact (ends_flush hheld ha hh).not_trapped id
    | bind =>
      rw [perform, Op.map_apply, Outcome.trapped_map]
      exact (ends_bind hheld ha hh).not_trapped id
    | unbind =>
      rw [perform, Op.map_apply, Outcome.trapped_map]
      exact (ends_unbind p).not_trapped id
    | dispose =>
      rw [perform, Op.map_apply, Outcome.trapped_map]
      exact (ends_dispose hheld ha).not_trapped id

end SyncedArray

namespace Scene

variable {k : Nat} {m : Member} {actions : List Action}

/-! ## Arrays in a scene -/

/-- A call that breaks down in a scene is one on the elements that overtaxes the array. -/
theorem trapped_step_iff (hm : (Scene.run {} actions).member? k = some m)
    (call : SyncedArray.Call m.format.Element) :
    (step (.call k m.format call) (Scene.run {} actions)).outcome.Trapped ↔
      ∃ asked, call = .array asked ∧ m.array.handle.isSome = true ∧
        asked.Overtaxes m.array.host := by
  have ha := coherent_run actions k m hm
  rw [step_call hm, Outcome.trapped_map]
  by_cases hcall : ∃ asked, call = .array asked
  · obtain ⟨asked, rfl⟩ := hcall
    rw [SyncedArray.perform, SyncedArray.trapped_performArray_iff m.format.lawful.sized ha.packed]
    simp
  · have hnot := SyncedArray.not_trapped_perform (p := (m.array, (Scene.run {} actions).gate))
      ((sound_empty.run actions).array_held hm) ha (not_exists.mp hcall)
    refine iff_of_false hnot ?_
    rintro ⟨asked, rfl, -⟩
    exact hcall ⟨asked, rfl⟩

/-- A call that breaks down leaves the scene as it was. -/
theorem step_of_trapped (hm : (Scene.run {} actions).member? k = some m)
    {call : SyncedArray.Call m.format.Element}
    (htrap : (step (.call k m.format call) (Scene.run {} actions)).outcome.Trapped) :
    (step (.call k m.format call) (Scene.run {} actions)).state = Scene.run {} actions := by
  have hpacked := (coherent_run actions k m hm).packed
  obtain ⟨asked, rfl, -⟩ := (trapped_step_iff hm call).mp htrap
  rw [step_call hm, Outcome.trapped_map, SyncedArray.perform] at htrap
  rw [step_call hm, SyncedArray.perform,
    SyncedArray.performArray_of_trapped m.format.lawful.sized hpacked htrap]
  exact placed_self hm

end Scene

open SyncedArray (create)
open HostArray (withCapacity ofList content vacant)

/-- Arrays break down for want of room only, and then nothing has changed.

Let every value take the size of the codec, as it does for the codecs of all formats.  A host array
cannot be made exactly if no region has room for what is asked for.  After any run of calls, however
they ended, its representation is packed, its populated bytes can be taken out, and a further call
breaks down exactly if it overtaxes the array, which is then as before.  A synced array bears the
same calls on any device, which is then as before as well.  It cannot be made exactly if no region
has room for its capacity; the device is not asked then.  In a scene, whatever was asked of its
arrays and of its device, only calls on the elements break down, and the scene is as before. -/
theorem breaks_down_only_for_room :
    (∀ f : Format, f.codec.Sized) ∧
    (∀ (α : Type) (c : Codec α), c.Sized →
      (∀ n, ((withCapacity n : Op Unit (HostArray c)) ()).outcome.Trapped ↔
        wordLimit ≤ n ∨ regionLimit < n * c.size) ∧
      (∀ vs, ((ofList vs : Op Unit (HostArray c)) ()).outcome.Trapped ↔
        (ArrayCall.appendAll vs).Overtaxes (vacant 0 : HostArray c)) ∧
      (∀ a : HostArray c, a.Attainable →
        a.Packed ∧ (content a).outcome = .ok a.populated ∧ ∀ call, a.Bears call) ∧
      (∀ (D : Type) [Device D] (a : SyncedArray c), a.host.Packed → ∀ d : D, a.Bears d) ∧
      (∀ (D : Type) [Device D] (config : ArrayConfig) (d : D),
        (wordLimit ≤ config.capacity ∨ regionLimit < config.capacity * c.size →
          ∃ t, (create config : Op D (SyncedArray c)) d =
            { outcome := .trapped t, state := d, log := [] }) ∧
        ∀ a : SyncedArray c, (create config d).outcome = .ok a → a.host.Packed) ∧
      ∀ (config : ArrayConfig) (d : MemoryDevice),
        ((create config : Op MemoryDevice (SyncedArray c)) d).outcome.Trapped ↔
          wordLimit ≤ config.capacity ∨ regionLimit < config.capacity * c.size) ∧
    ∀ (actions : List Scene.Action) (k : Nat) (m : Member),
      (Scene.run {} actions).member? k = some m →
        m.array.host.Packed ∧
        ∀ call : SyncedArray.Call m.format.Element,
          ((Scene.step (.call k m.format call) (Scene.run {} actions)).outcome.Trapped ↔
            ∃ asked, call = .array asked ∧ m.array.handle.isSome = true ∧
              asked.Overtaxes m.array.host) ∧
          ((Scene.step (.call k m.format call) (Scene.run {} actions)).outcome.Trapped →
            (Scene.step (.call k m.format call) (Scene.run {} actions)).state =
              Scene.run {} actions) := by
  refine ⟨fun f => f.lawful.sized, ?_, ?_⟩
  · intro α c hc
    refine ⟨HostArray.trapped_withCapacity_iff, HostArray.trapped_ofList_iff hc, ?_, ?_, ?_,
      SyncedArray.trapped_create_iff⟩
    · intro a ha
      have hpacked := ha.packed hc
      exact ⟨hpacked, by rw [HostArray.content_eq hpacked], hpacked.bears hc⟩
    · intro D _ a ha d
      exact SyncedArray.bears_of_packed hc ha d
    · intro D _ config d
      exact ⟨fun hexcess => ⟨_, SyncedArray.create_of_not_fits (Codec.not_fits_iff.mpr hexcess) d⟩,
        fun a made => SyncedArray.packed_of_create made⟩
  · intro actions k m hm
    exact ⟨(Scene.coherent_run actions k m hm).packed, fun call =>
      ⟨Scene.trapped_step_iff hm call, Scene.step_of_trapped hm⟩⟩

/-- One array with one byte, for which it has room. -/
def Scene.single : List Scene.Action :=
  [.create .uint8 { capacity := 1 } [7]]

/-- One byte more than a region can have is too much: to reserve so many breaks down and changes
nothing, and no array is made with room for them.  There is room for a second byte. -/
theorem breaks_down_only_for_room_single :
    ((Scene.step (.call 0 .uint8 (.array (.reserve (regionLimit + 1))))
        (Scene.run {} Scene.single)).outcome.Trapped ∧
      (Scene.step (.call 0 .uint8 (.array (.reserve (regionLimit + 1))))
        (Scene.run {} Scene.single)).state = Scene.run {} Scene.single) ∧
    ¬ (Scene.step (.call 0 .uint8 (.array (.append 9)))
        (Scene.run {} Scene.single)).outcome.Trapped ∧
    (∃ a : HostArray Format.uint8.codec, a.Attainable ∧ a.Packed ∧
      (HostArray.perform (.reserve (regionLimit + 1)) a).outcome.Trapped ∧
      (HostArray.perform (.reserve (regionLimit + 1)) a).state = a) ∧
    ((create { capacity := regionLimit + 1 } : Op _ (SyncedArray Format.uint8.codec))
      ({} : MemoryDevice)).outcome.Trapped := by
  obtain ⟨hsized, hcodecs, hscenes⟩ := breaks_down_only_for_room
  obtain ⟨-, -, hhost, -, -, hcreate⟩ := hcodecs _ _ (hsized .uint8)
  have hm : (Scene.run {} Scene.single).member? 0 =
      some ⟨.uint8, SyncedArray.filled { capacity := 1 } [7] ⟨1, 1⟩⟩ := rfl
  obtain ⟨-, hcalls⟩ := hscenes Scene.single 0 _ hm
  have hreserve := (hcalls (.array (.reserve (regionLimit + 1)))).1.mpr
    ⟨_, rfl, rfl, .inr ⟨by decide, by decide⟩⟩
  have made : ((ofList [7] : Op Unit (HostArray Format.uint8.codec)) ()).outcome =
      .ok { storage := [7], capacity := 1, count := 1 } := rfl
  obtain ⟨hpacked, -, hbears⟩ := hhost _ (.ofList made)
  have htrap := (hbears (.reserve (regionLimit + 1))).trapped_iff.mpr (.inr ⟨by decide, by decide⟩)
  refine ⟨⟨hreserve, (hcalls _).2 hreserve⟩, ?_, ⟨_, .ofList made, hpacked, htrap, ?_⟩, ?_⟩
  · intro happend
    obtain ⟨_, ⟨⟩, -, -, hexcess⟩ := (hcalls _).1.mp happend
    exact absurd hexcess (by decide)
  · exact (hbears _).unchanged htrap
  · exact (hcreate _ _).mpr (by decide)

end BufferSync
