import BufferSync.Proofs.Holdings
import BufferSync.Proofs.Layouts
import BufferSync.Proofs.Marking

/-!
# The device mirrors the host

The device allocation of an array holds the bytes of every element that is not marked.  This is
`Synced`, and every call on the array keeps it, however the call ends: a call on the elements marks
what it changes, and a flush forgets marks only after their bytes have reached the device.

It takes one more fact to get through growth: an array that has outgrown its allocation has all its
elements marked.  The new allocation starts without contents, so nothing may be missing from the
next upload.

At the end of a flush or a bind that ends well nothing is marked, and the allocation starts with the
populated bytes of the host array.
-/

namespace BufferSync

namespace SyncedArray

variable {α : Type} {c : Codec α} {a b : SyncedArray c} {g g' : Gate MemoryDevice} {h : Handle}
  {bytes : Bytes}

/-- The bytes of an allocation hold every element of the array that is not marked. -/
structure Mirrors (a : SyncedArray c) (bytes : Bytes) : Prop where
  /-- The allocation has the size that the array believes it to have. -/
  length : bytes.length = a.deviceCapacity * c.size
  /-- An element is marked or on the device. -/
  cell : ∀ i < a.host.count,
    a.marks.Covers i ∨ Region.slice bytes (i * c.size) c.size = a.host.cell i

/-- The array and its allocation agree on everything that is not marked. -/
structure Synced (a : SyncedArray c) (g : Gate MemoryDevice) : Prop where
  /-- The host array is packed. -/
  packed : a.host.Packed
  /-- The array is well marked. -/
  wellMarked : a.WellMarked
  /-- There can be room for what the allocation has room for. -/
  deviceFits : c.Fits a.deviceCapacity
  /-- The allocation mirrors the host array. -/
  device : ∀ h, a.handle = some h → ∃ al, g.inner.table.find? h = some al ∧ a.Mirrors al.bytes

/-- Nothing but the allocation of the array matters. -/
theorem Synced.frame (ha : a.Synced g)
    (hfind : ∀ h, a.handle = some h → g'.inner.table.find? h = g.inner.table.find? h) :
    a.Synced g' := by
  refine ⟨ha.packed, ha.wellMarked, ha.deviceFits, ?_⟩
  intro h hh
  rw [hfind h hh]
  exact ha.device h hh

/-! ## Calls on the elements -/

/-- A call on the elements keeps the mirror if every element is marked or was there before. -/
theorem Synced.of_host (ha : a.Synced g) (hhandle : b.handle = a.handle)
    (hcapacity : b.deviceCapacity = a.deviceCapacity) (hb : b.host.Packed) (hw : b.WellMarked)
    (hcell : ∀ i < b.host.count, b.marks.Covers i ∨
      b.host.cells[i]? = a.host.cells[i]? ∧ (a.marks.Covers i → b.marks.Covers i)) :
    b.Synced g := by
  refine ⟨hb, hw, hcapacity ▸ ha.deviceFits, ?_⟩
  intro h hh
  obtain ⟨al, hal, hmirror⟩ := ha.device h (hhandle ▸ hh)
  refine ⟨al, hal, hcapacity ▸ hmirror.length, ?_⟩
  intro i hi
  rcases hcell i hi with hmarked | ⟨hsame, hmarks⟩
  · exact .inl hmarked
  · rw [HostArray.getElem?_cells, HostArray.getElem?_cells, if_pos hi] at hsame
    split at hsame
    next hcount =>
      rw [Option.some.inj hsame]
      exact (hmirror.cell i hcount).imp_left hmarks
    next => cases hsame

/-- A call that marks what it has written keeps the mirror. -/
theorem Synced.of_written (ha : a.Synced g) (hhandle : b.handle = a.handle)
    (hcapacity : b.deviceCapacity = a.deviceCapacity) (hb : b.host.Packed)
    (hbelow : b.marks.Below b.host.count)
    (hmarks : ∀ i < b.host.count, a.marks.Covers i → b.marks.Covers i) {start stop : Nat}
    (hstart : start < stop) (hstop : stop ≤ b.host.count)
    (hkept : ∀ i < b.host.count, i < start ∨ stop ≤ i →
      b.host.cells[i]? = a.host.cells[i]?) :
    (b.markWritten start stop).Synced g := by
  obtain ⟨hw, hwritten, hwider⟩ := wellMarked_markWritten hbelow hstart hstop
  obtain ⟨marks, heq⟩ := b.markWritten_marks start stop
  rw [heq] at hw hwritten hwider ⊢
  refine ha.of_host hhandle hcapacity hb hw ?_
  intro i hi
  by_cases hin : start ≤ i ∧ i < stop
  · exact .inl (hwritten i hin.1 hin.2)
  · exact .inr ⟨hkept i hi (by omega), fun hm => hwider i (hmarks i hi hm)⟩

/-- The number of elements is the number of cells. -/
theorem count_of_cells {b : HostArray c} {cs : List Bytes} (hcells : b.cells = cs) :
    b.count = cs.length := by
  rw [← hcells, HostArray.length_cells]

/-- A call that adds elements at the end and marks them keeps the mirror. -/
theorem Synced.of_appended (ha : a.Synced g) {b : HostArray c} (hb : b.Packed) {cs : List Bytes}
    (hcells : b.cells = a.host.cells ++ cs) (hcs : cs ≠ []) :
    (({ a with host := b } : SyncedArray c).markWritten a.host.count
      (a.host.count + cs.length)).Synced g := by
  have hcount : b.count = a.host.count + cs.length := by
    rw [count_of_cells hcells, List.length_append, HostArray.length_cells]
  have hpos : 0 < cs.length := List.length_pos_iff.mpr hcs
  refine ha.of_written (b := { a with host := b }) rfl rfl hb ?_ (fun _ _ hm => hm) (by omega)
    (Nat.le_of_eq hcount.symm) ?_
  · exact ha.wellMarked.below.mono (by simp only; omega)
  · intro i hi hout
    have hlt : i < a.host.cells.length := by
      rw [HostArray.length_cells]
      simp only [hcount] at hi
      omega
    exact (congrArg (·[i]?) hcells).trans (List.getElem?_append_left hlt)

/-- A call that drops elements at the end keeps the mirror. -/
theorem Synced.of_truncated (ha : a.Synced g) {n : Nat} (k : Nat) (hn : n = min a.host.count k) :
    (({ a with host := { a.host with count := n } } : SyncedArray c).truncateMarks k).Synced g := by
  have hle : n ≤ a.host.count := by omega
  refine ha.of_host rfl rfl (ha.packed.truncate hle) ⟨?_, ?_⟩ ?_
  · have hbelow := ha.wellMarked.below.truncate k
    rw [← hn] at hbelow
    exact hbelow
  · intro hout
    have hfull := (ha.wellMarked.full hout).truncate k
    rw [← hn] at hfull
    exact hfull
  · intro i hi
    have hi : i < n := hi
    refine .inr ⟨?_, fun hm => hm.truncate (by omega)⟩
    exact (congrArg (·[i]?) (HostArray.cells_truncate hle)).trans (List.getElem?_take_of_lt hi)

/-- A change of the room keeps the mirror if all is marked once the allocation is too small. -/
theorem Synced.of_room (ha : a.Synced g) {b : HostArray c} (hb : HostArray.SameCells a.host b) :
    (({ a with host := b } : SyncedArray c).markOutgrown).Synced g := by
  have hbelow : ({ a with host := b } : SyncedArray c).marks.Below b.count := by
    rw [hb.count]
    exact ha.wellMarked.below
  obtain ⟨hw, hwider⟩ := wellMarked_markOutgrown (a := { a with host := b }) hbelow
  obtain ⟨marks, heq⟩ := ({ a with host := b } : SyncedArray c).markOutgrown_marks
  rw [heq] at hw hwider ⊢
  refine ha.of_host rfl rfl hb.packed hw ?_
  intro i _
  exact .inr ⟨congrArg (·[i]?) hb.cells, fun hm => hwider i hm⟩

theorem synced_set (hc : c.Lawful) (ha : a.Synced g) (i : Nat) (v : α) :
    (afterCall (.set i v) a (HostArray.perform (.set i v) a.host)).Synced g := by
  rw [HostArray.perform, Op.map_apply]
  by_cases hi : i < a.host.count
  · have hroom : i < a.host.capacity := Nat.lt_of_lt_of_le hi ha.packed.count_le
    have hlength := hc.length_bytes v
    have hcells := HostArray.cells_overwriteCell ha.packed hroom hlength
    rw [HostArray.set_of_lt hc.sized ha.packed hi]
    have hpacked := ha.packed.overwriteCells (by rw [hlength, Nat.one_mul] :
      (c.bytes v).length = 1 * c.size) (by omega : i + 1 ≤ a.host.capacity)
    refine ha.of_host rfl rfl hpacked ⟨ha.wellMarked.below.mark hi, ?_⟩ ?_
    · intro hout
      exact (ha.wellMarked.full hout).mark hi
    · intro j hj
      by_cases hij : j = i
      · exact .inl (Marks.covers_mark_of_mem _ (Span.mem_single.mpr hij))
      · refine .inr ⟨?_, fun hm => hm.mark _⟩
        exact (congrArg (·[j]?) hcells).trans (List.getElem?_set_ne (Ne.symm hij))
  · rw [HostArray.set_of_ge (Nat.not_lt.mp hi)]
    exact ha

theorem synced_append (hc : c.Lawful) (ha : a.Synced g) (v : α) :
    (afterCall (.append v) a (HostArray.perform (.append v) a.host)).Synced g := by
  rw [HostArray.perform, Op.map_apply]
  obtain ⟨-, t, l, hrun⟩ | ⟨-, b, l, hrun, hb, hcells⟩ :=
    HostArray.append_cases hc.sized ha.packed v
  · rw [hrun]
    exact ha
  · rw [hrun]
    exact ha.of_appended hb hcells (List.cons_ne_nil _ _)

/-- Adding no elements changes nothing, so it need not mark anything. -/
theorem appendAll_nil (ha : a.Synced g) :
    (HostArray.appendAll [] a.host).state = a.host := by
  rw [HostArray.appendAll, Op.state_bind]
  by_cases hword : a.host.count + ([] : List α).length < wordLimit
  · have hroom : ¬ a.host.capacity < a.host.count + ([] : List α).length := by
      have := ha.packed.count_le
      rw [List.length_nil]
      omega
    have hrun : HostArray.reserve (a.host.count + ([] : List α).length) a.host =
        { outcome := .ok (), state := a.host, log := [] } := by
      rw [HostArray.reserve, Op.state_bind, if_neg hroom]
      rfl
    rw [Op.word_bind_of_lt hword, Op.bind_of_ok hrun]
    rfl
  · rw [Op.word_bind_of_ge (Nat.not_lt.mp hword)]
    rfl

theorem synced_appendAll (hc : c.Lawful) (ha : a.Synced g) (vs : List α) :
    (afterCall (.appendAll vs) a (HostArray.perform (.appendAll vs) a.host)).Synced g := by
  rw [HostArray.perform, Op.map_apply]
  obtain ⟨-, t, l, hrun⟩ | ⟨-, b, l, hrun, hb, hcells⟩ :=
    HostArray.appendAll_cases hc.sized ha.packed vs
  · rw [hrun]
    exact ha
  · cases vs with
    | nil =>
      have hsame := appendAll_nil ha
      rw [hrun] at hsame
      obtain rfl : b = a.host := hsame
      rw [hrun]
      simpa [Outcome.map, afterCall, marking, markWritten, Span.ofBounds?] using ha
    | cons v rest =>
      have hlength : ((v :: rest).map c.bytes).length = (v :: rest).length := List.length_map _
      rw [hrun]
      have hsynced := ha.of_appended hb hcells (by simp)
      rw [hlength] at hsynced
      exact hsynced

theorem synced_insert (hc : c.Lawful) (ha : a.Synced g) (i : Nat) (v : α) :
    (afterCall (.insert i v) a (HostArray.perform (.insert i v) a.host)).Synced g := by
  rw [HostArray.perform, Op.map_apply]
  by_cases hi : i ≤ a.host.count
  · obtain ⟨-, t, l, hrun⟩ | ⟨-, b, l, hrun, hb, hcells⟩ :=
      HostArray.insert_cases hc.sized ha.packed hi v
    · rw [hrun]
      exact ha
    · have hcount : b.count = a.host.count + 1 := by
        rw [count_of_cells hcells, List.length_insertIdx_of_le_length, HostArray.length_cells]
        rwa [HostArray.length_cells]
      rw [hrun]
      refine ha.of_written (b := { a with host := b }) rfl rfl hb ?_ (fun _ _ hm => hm)
        (by simp only; omega) (Nat.le_refl _) ?_
      · exact ha.wellMarked.below.mono (by simp only; omega)
      · intro j hj hout
        have hout : j < i ∨ b.count ≤ j := hout
        have hji : j < i := hout.resolve_right (Nat.not_le.mpr hj)
        exact (congrArg (·[j]?) hcells).trans (List.getElem?_insertIdx_of_lt hji)
  · rw [HostArray.insert_of_gt (Nat.not_le.mp hi)]
    exact ha

theorem synced_removeAt (ha : a.Synced g) (i : Nat) :
    (afterCall (.removeAt i) a (HostArray.perform (.removeAt i) a.host)).Synced g := by
  rw [HostArray.perform, Op.map_apply]
  by_cases hi : i < a.host.count
  · have hcells := HostArray.cells_removed ha.packed hi
    have hkept : ∀ j < i, (a.host.removed i).cells[j]? = a.host.cells[j]? := fun j hj =>
      (congrArg (·[j]?) hcells).trans (List.getElem?_eraseIdx_of_lt hj)
    have hcount : (a.host.removed i).count = a.host.count - 1 := rfl
    have hmin : min a.host.count (a.host.count - 1) = a.host.count - 1 := by omega
    have hbelow := ha.wellMarked.below.truncate (a.host.count - 1)
    rw [hmin] at hbelow
    rw [HostArray.removeAt_of_lt ha.packed hi]
    -- the last element leaves nothing behind it to write
    by_cases hlast : i < a.host.count - 1
    · refine ha.of_written (b := ({ a with host := a.host.removed i } : SyncedArray c).truncateMarks
        (a.host.count - 1)) rfl rfl (HostArray.packed_removed ha.packed hi) hbelow ?_ hlast
        (Nat.le_refl _) ?_
      · exact fun j hj hm => hm.truncate hj
      · intro j hj hout
        exact hkept j (by simp only [truncateMarks, hcount] at hj hout; omega)
    · have hnone : Span.ofBounds? i (a.host.count - 1) = none := dif_neg hlast
      have hmarked :
          afterCall (.removeAt i) a
            { outcome := .ok (.element (c.parse (a.host.cell i)))
              state := a.host.removed i
              log := [] } =
          ({ a with host := a.host.removed i } : SyncedArray c).truncateMarks
            (a.host.count - 1) := by
        simp only [afterCall, marking, markWritten, truncateMarks, hcount, hnone]
      refine hmarked ▸ ha.of_host rfl rfl (HostArray.packed_removed ha.packed hi) ⟨hbelow, ?_⟩ ?_
      · intro hout
        have hfull := (ha.wellMarked.full hout).truncate (a.host.count - 1)
        rw [hmin] at hfull
        exact hfull
      · intro j hj
        have hj : j < a.host.count - 1 := hj
        exact .inr ⟨hkept j (by omega), fun hm => hm.truncate hj⟩
  · rw [HostArray.removeAt_of_ge (Nat.not_lt.mp hi)]
    exact ha

theorem synced_resize (hc : c.Lawful) (ha : a.Synced g) (n : Nat) (v : α) :
    (afterCall (.resize n v) a (HostArray.perform (.resize n v) a.host)).Synced g := by
  rw [HostArray.perform, Op.map_apply]
  by_cases hn : a.host.count < n
  · obtain ⟨-, t, l, hrun⟩ | ⟨-, b, l, hrun, hb, hcells⟩ :=
      HostArray.resize_cases hc.sized ha.packed hn v
    · rw [hrun]
      exact ha
    · have hpos : List.replicate (n - a.host.count) (c.bytes v) ≠ [] := by
        simp only [ne_eq, List.replicate_eq_nil_iff]
        omega
      have hsynced := ha.of_appended hb hcells hpos
      rw [List.length_replicate, Nat.add_sub_cancel' (Nat.le_of_lt hn)] at hsynced
      rw [hrun]
      simpa only [Outcome.map, afterCall, marking, if_pos hn] using hsynced
  · rw [HostArray.resize_of_le (Nat.not_lt.mp hn)]
    simpa only [Outcome.map, afterCall, marking, if_neg hn] using ha.of_truncated n rfl

theorem synced_clear (ha : a.Synced g) :
    (afterCall .clear a (HostArray.perform .clear a.host)).Synced g := by
  refine ha.of_host rfl rfl (ha.packed.truncate (Nat.zero_le _))
    ⟨Marks.below_clean _, fun _ => rfl⟩ ?_
  intro i hi
  exact absurd hi (Nat.not_lt_zero _)

theorem synced_setCapacity (ha : a.Synced g) (n : Nat) :
    (afterCall (.setCapacity n) a (HostArray.perform (.setCapacity n) a.host)).Synced g := by
  rw [HostArray.perform, Op.map_apply]
  by_cases hn : n < a.host.count
  · rw [HostArray.setCapacity_of_lt hn]
    exact ha
  · obtain ⟨-, t, l, hrun⟩ | ⟨-, b, l, hrun, hb, -⟩ :=
      HostArray.setCapacity_cases ha.packed (Nat.not_lt.mp hn)
    · rw [hrun]
      exact ha
    · rw [hrun]
      exact ha.of_room hb

theorem synced_reserve (ha : a.Synced g) (n : Nat) :
    (afterCall (.reserve n) a (HostArray.perform (.reserve n) a.host)).Synced g := by
  rw [HostArray.perform, Op.map_apply]
  obtain ⟨-, t, l, hrun⟩ | ⟨-, b, l, hrun, hb, -⟩ := HostArray.reserve_cases ha.packed n
  · rw [hrun]
    exact ha
  · rw [hrun]
    exact ha.of_room hb

/-- Every call on the elements keeps the mirror. -/
theorem synced_afterCall (hc : c.Lawful) (ha : a.Synced g) (call : ArrayCall α) :
    (afterCall call a (HostArray.perform call a.host)).Synced g := by
  cases call with
  | get i =>
    rw [HostArray.perform, Op.map_apply]
    by_cases hi : i < a.host.count
    · rw [HostArray.get_of_lt ha.packed hi]
      exact ha
    · rw [HostArray.get_of_ge (Nat.not_lt.mp hi)]
      exact ha
  | set i v => exact synced_set hc ha i v
  | append v => exact synced_append hc ha v
  | appendAll vs => exact synced_appendAll hc ha vs
  | insert i v => exact synced_insert hc ha i v
  | removeAt i => exact synced_removeAt ha i
  | truncate n => exact ha.of_truncated n rfl
  | resize n v => exact synced_resize hc ha n v
  | clear => exact synced_clear ha
  | setCapacity n => exact synced_setCapacity ha n
  | reserve n => exact synced_reserve ha n
  | elements =>
    rw [HostArray.perform, Op.map_apply, HostArray.elements_eq ha.packed]
    exact ha
  | walk steps =>
    rw [HostArray.perform, Op.map_apply, HostArray.walk_eq ha.packed]
    exact ha

/-! ## Calls that reach the device -/

theorem Synced.set_pending (ha : a.Synced g) (p : Option Handle) :
    ({ a with pending := p } : SyncedArray c).Synced g := by
  refine ⟨ha.packed, ⟨ha.wellMarked.below, ha.wellMarked.full⟩, ha.deviceFits, ?_⟩
  intro h hh
  obtain ⟨al, hal, hmirror⟩ := ha.device h hh
  exact ⟨al, hal, hmirror.length, hmirror.cell⟩

/-- Giving the pending allocation back leaves the other one as it is. -/
theorem Held.find?_afterRelease (hheld : a.Held g) {p h : Handle} (hp : a.pending = some p)
    (hl : g.Live p) (hh : a.handle = some h) :
    (SyncedArray.afterRelease g p).inner.table.find? h = g.inner.table.find? h := by
  have hissued := hheld.issued h (mem_owned_of_handle hh)
  refine (Recorded.of_released hheld.sound hl).frame h hissued ?_
  intro hmem
  obtain rfl := List.mem_singleton.mp hmem
  have hnodup := hheld.nodup
  rw [owned, hh, hp] at hnodup
  exact (List.nodup_cons.mp hnodup).1 List.mem_cons_self

theorem Synced.afterRelease (ha : a.Synced g) (hheld : a.Held g) {p : Handle}
    (hp : a.pending = some p) (hl : g.Live p) : a.Synced (afterRelease g p) :=
  ha.frame fun _ hh => hheld.find?_afterRelease hp hl hh

/-- On a new allocation all elements are marked. -/
theorem Synced.moved (ha : a.Synced g) (hheld : a.Held g) :
    (a.moved g.inner.table.nextHandle).Synced
      (afterAllocate g a.host.storage.length a.usage) := by
  have hfull : (a.moved g.inner.table.nextHandle).marks.Full a.host.count :=
    ha.wellMarked.below.full_mark?
  refine ⟨ha.packed, ⟨hfull.below, fun _ => hfull⟩, ha.packed.fits (Nat.le_refl _), ?_⟩
  intro h hh
  obtain rfl : g.inner.table.nextHandle = h := Option.some.inj hh
  refine ⟨{ bytes := Region.zeros a.host.storage.length, usage := a.usage }, ?_, ?_, ?_⟩
  · exact (HandleTable.find?_insert hheld.sound _ _).trans (if_pos rfl)
  · exact (Region.length_zeros _).trans ha.packed.length_storage
  · intro i hi
    exact .inl (hfull.covers hi)

/-- Whatever its outcome, the run leaves a synced array; if it ends well, one with the property
`Q`. -/
structure Settles {β : Type} (Q : SyncedArray c → Prop)
    (r : Run (SyncedArray c × Gate MemoryDevice) β) : Prop where
  /-- The array holds its allocations. -/
  held : r.state.1.Held r.state.2
  /-- The array is synced. -/
  synced : r.state.1.Synced r.state.2
  /-- If the run ends well, the array has the property. -/
  result : ∀ v, r.outcome = .ok v → Q r.state.1

theorem Settles.bind {β γ : Type} {Q R : SyncedArray c → Prop}
    {x : Op (SyncedArray c × Gate MemoryDevice) β}
    {f : β → Op (SyncedArray c × Gate MemoryDevice) γ} {p : SyncedArray c × Gate MemoryDevice}
    (hx : Settles Q (x p))
    (hf : ∀ v a' g', a'.Held g' → a'.Synced g' → Q a' → Settles R (f v (a', g'))) :
    Settles R ((x >>= f) p) := by
  rcases hrun : x p with ⟨v | e | t, ⟨a', g'⟩, l⟩
  · rw [hrun] at hx
    have hrest := hf v a' g' hx.held hx.synced (hx.result v rfl)
    rw [Op.bind_of_ok hrun]
    exact ⟨hrest.held, hrest.synced, hrest.result⟩
  · rw [hrun] at hx
    rw [Op.bind_of_error hrun]
    exact ⟨hx.held, hx.synced, fun v hv => by cases hv⟩
  · rw [hrun] at hx
    rw [Op.bind_of_trapped hrun]
    exact ⟨hx.held, hx.synced, fun v hv => by cases hv⟩

theorem Conduct.held {β : Type} {r : Run (SyncedArray c × Gate MemoryDevice) β}
    (hr : Conduct a g r) (ha : a.Held g) : r.state.1.Held r.state.2 := by
  obtain ⟨new, hcustody⟩ := hr.custody
  exact hcustody.held ha

/-- A refusal of the array itself leaves everything as it was. -/
theorem settles_raise {β : Type} {Q : SyncedArray c → Prop} (hheld : a.Held g) (ha : a.Synced g)
    (e : Error) : Settles Q ((Op.raise source e : Op _ β) (a, g)) :=
  ⟨hheld, ha, fun v hv => by cases hv⟩

theorem settles_pure {β : Type} {Q : SyncedArray c → Prop} (hheld : a.Held g) (ha : a.Synced g)
    (hq : Q a) (v : β) : Settles Q ((pure v : Op _ β) (a, g)) :=
  ⟨hheld, ha, fun _ _ => hq⟩

theorem settles_liveHandle (hheld : a.Held g) (ha : a.Synced g) :
    Settles (fun b => b.handle.isSome = true) (liveHandle (a, g)) := by
  cases hh : a.handle with
  | none =>
    rw [liveHandle_of_none hh]
    exact settles_raise hheld ha _
  | some h =>
    rw [liveHandle_of_some hh]
    exact ⟨hheld, ha, fun _ _ => by rw [hh]; rfl⟩

theorem settles_releasePending (hheld : a.Held g) (ha : a.Synced g) :
    Settles (fun b => b = { a with pending := none }) (releasePending (a, g)) := by
  refine ⟨(conduct_releasePending hheld).held hheld, ?_, ?_⟩
  · obtain ⟨-, hrun⟩ | ⟨p, -, -, hrun⟩ | ⟨p, -, -, -, hrun⟩ | ⟨p, hp, -, hl, hrun⟩ :=
      releasePending_cases a g
    · rw [hrun]
      exact ha
    · rw [hrun]
      exact ha.frame fun _ _ => rfl
    · rw [hrun]
      exact ha
    · rw [hrun]
      exact (ha.afterRelease hheld hp hl).set_pending none
  · intro v hv
    exact of_releasePending_ok hv

theorem settles_syncAllocation (hheld : a.Held g) (ha : a.Synced g) (hp : a.pending = none)
    (hh : a.handle.isSome = true) :
    Settles (fun b => b.handle.isSome = true ∧ b.pending = none ∧ b.outgrown = false)
      (syncAllocation (a, g)) := by
  have hheld' := (conduct_syncAllocation hheld hp).held hheld
  obtain ⟨hout, hrun⟩ | ⟨-, -, hrun⟩ | ⟨-, -, hrun⟩ | ⟨-, -, -, hrun⟩ :=
    syncAllocation_cases hheld.unlimited a
  · rw [hrun]
    exact ⟨hheld, ha, fun _ _ => ⟨hh, hp, hout⟩⟩
  · rw [hrun] at hheld' ⊢
    exact ⟨hheld', ha.frame fun _ _ => rfl, fun v hv => by cases hv⟩
  · rw [hrun]
    exact ⟨hheld, ha, fun v hv => by cases hv⟩
  · have hrest := settles_releasePending ((custody_moved hheld hp).held hheld) (ha.moved hheld)
    rw [hrun]
    refine ⟨hrest.held, hrest.synced, ?_⟩
    intro v hv
    rw [Run.state_after, hrest.result v hv]
    refine ⟨rfl, rfl, ?_⟩
    -- the new allocation has the capacity of the host array
    exact decide_eq_false (Nat.lt_irrefl _)

/-- The bytes of a span on the host fill the span. -/
theorem length_spanBytes {s : Span} (hroom : (s.last + 1) * c.size ≤ a.host.storage.length) :
    s.first * c.size + (a.spanBytes s).length = (s.last + 1) * c.size := by
  have hle : s.first * c.size ≤ (s.last + 1) * c.size :=
    Nat.mul_le_mul_right _ (Nat.le_succ_of_le s.first_le_last)
  rw [spanBytes, Region.length_slice (by omega)]
  omega

/-- An uploaded element is on the device as it is on the host. -/
theorem slice_uploaded_of_mem {s : Span} (hhost : (s.last + 1) * c.size ≤ a.host.storage.length)
    (hroom : (s.last + 1) * c.size ≤ bytes.length) {i : Nat} (hi : i ∈ s) :
    Region.slice (Region.overwrite bytes (s.first * c.size) (a.spanBytes s)) (i * c.size) c.size =
      a.host.cell i := by
  have hlength := length_spanBytes hhost
  obtain ⟨hfirst, hlast⟩ := hi
  have hplace : s.first * c.size + (i - s.first) * c.size = i * c.size := by
    rw [← Nat.add_mul, Nat.add_sub_cancel' hfirst]
  have hend : i * c.size + c.size ≤ (s.last + 1) * c.size :=
    HostArray.cell_end_le (Nat.lt_succ_of_le hlast) c.size
  calc Region.slice (Region.overwrite bytes (s.first * c.size) (a.spanBytes s)) (i * c.size) c.size
      = Region.slice (a.spanBytes s) ((i - s.first) * c.size) c.size := by
        rw [← hplace, Region.slice_overwrite_within (by omega) (by omega)]
    _ = Region.slice a.host.storage (i * c.size) c.size := by
        rw [spanBytes, Region.slice_slice (by omega), hplace]

/-- An upload leaves the other elements alone. -/
theorem slice_uploaded_of_not_mem {s : Span}
    (hhost : (s.last + 1) * c.size ≤ a.host.storage.length)
    (hroom : (s.last + 1) * c.size ≤ bytes.length) {i : Nat} (hi : i ∉ s) :
    Region.slice (Region.overwrite bytes (s.first * c.size) (a.spanBytes s)) (i * c.size) c.size =
      Region.slice bytes (i * c.size) c.size := by
  have hlength := length_spanBytes hhost
  by_cases hlt : i < s.first
  · have hend := HostArray.cell_end_le hlt c.size
    exact Region.slice_overwrite_before (by omega) hend
  · have hlast : s.last + 1 ≤ i := by
      apply Nat.lt_of_not_le
      exact fun hle => hi ⟨Nat.not_lt.mp hlt, hle⟩
    have hstart := Nat.mul_le_mul_right c.size hlast
    exact Region.slice_overwrite_after (by omega) (by omega)

/-- A marked span can be uploaded unless the array has outgrown its allocation. -/
theorem Synced.spanFits (ha : a.Synced g) (hout : a.outgrown = false) {s : Span}
    (hs : a.marks.span = some s) : a.SpanFits s := by
  have hlast : s.last + 1 ≤ a.host.capacity :=
    Nat.le_trans (ha.wellMarked.below s hs) ha.packed.count_le
  have hcapacity : a.host.capacity ≤ a.deviceCapacity := Nat.not_lt.mp (of_decide_eq_false hout)
  refine ⟨⟨(ha.packed.fits hlast).word, ha.packed.place_lt hlast⟩, ha.deviceFits.place_lt, ?_, ?_⟩
  · exact Nat.mul_le_mul_right c.size (Nat.le_trans hlast hcapacity)
  · exact ha.packed.place_le hlast

/-- After an upload the allocation mirrors the host array without marks. -/
theorem Synced.uploaded (ha : a.Synced g) (hout : a.outgrown = false) {s : Span}
    (hs : a.marks.span = some s) (hfits : a.SpanFits s) (hh : a.handle = some h) {al : Allocation}
    (hal : g.inner.table.find? h = some al) : a.unmarked.Synced (a.afterUpload g h al s) := by
  refine ⟨ha.packed, ⟨Marks.below_clean _, fun h => absurd (hout.symm.trans h) (by decide)⟩,
    ha.deviceFits, ?_⟩
  intro k hk
  obtain rfl : h = k := Option.some.inj (hh.symm.trans hk)
  obtain ⟨al', hal', hmirror⟩ := ha.device h hh
  obtain rfl : al = al' := Option.some.inj (hal.symm.trans hal')
  have hhost := hfits.inside.2
  have hroom : (s.last + 1) * c.size ≤ al.bytes.length := by
    rw [hmirror.length]
    exact hfits.inside.1
  have hlength := length_spanBytes hhost
  refine ⟨_, (HandleTable.find?_replace hal _ _).trans (if_pos rfl), ?_, ?_⟩
  · exact (Region.length_overwrite (by omega)).trans hmirror.length
  · intro i hi
    refine .inr ?_
    by_cases hmem : i ∈ s
    · exact slice_uploaded_of_mem hhost hroom hmem
    · refine (slice_uploaded_of_not_mem hhost hroom hmem).trans ?_
      refine (hmirror.cell i hi).resolve_left ?_
      rintro ⟨t, ht, hmem'⟩
      obtain rfl : s = t := Option.some.inj (hs.symm.trans ht)
      exact hmem hmem'

theorem settles_uploadMarked (hheld : a.Held g) (ha : a.Synced g) (hh : a.handle.isSome = true)
    (hp : a.pending = none) (hout : a.outgrown = false) :
    Settles (fun b => b.handle.isSome = true ∧ b.Settled) (uploadMarked (a, g)) := by
  have hheld' := (conduct_uploadMarked hheld).held hheld
  obtain ⟨h, hh⟩ := Option.isSome_iff_exists.mp hh
  have hsome : a.handle.isSome = true := by rw [hh]; rfl
  obtain ⟨hs, hrun⟩ | ⟨s, hs, hfits, t, hrun⟩ | ⟨s, -, -, -, hrun⟩ |
    ⟨s, -, -, -, reason, -, -, hrun⟩ | ⟨s, hs, hfits, -, al, hal, hrun⟩ := uploadMarked_cases hh g
  · rw [hrun]
    exact ⟨hheld, ha, fun _ _ => ⟨hsome, hp, hout, hs⟩⟩
  · exact absurd (ha.spanFits hout hs) hfits
  · rw [hrun] at hheld' ⊢
    exact ⟨hheld', ha.frame fun _ _ => rfl, fun v hv => by cases hv⟩
  · rw [hrun]
    exact ⟨hheld, ha, fun v hv => by cases hv⟩
  · rw [hrun] at hheld' ⊢
    exact ⟨hheld', ha.uploaded hout hs hfits hh hal, fun _ _ => ⟨hsome, hp, hout, rfl⟩⟩

theorem settles_flush (hheld : a.Held g) (ha : a.Synced g) :
    Settles (fun b => b.handle.isSome = true ∧ b.Settled) (flush (a, g)) := by
  rw [flush_eq]
  refine (settles_liveHandle hheld ha).bind fun _ a₁ g₁ hheld₁ ha₁ hsome₁ => ?_
  refine (settles_releasePending hheld₁ ha₁).bind fun _ a₂ g₂ hheld₂ ha₂ heq => ?_
  have hsome₂ : a₂.handle.isSome = true := by rw [heq]; exact hsome₁
  have hpending₂ : a₂.pending = none := by rw [heq]
  refine (settles_syncAllocation hheld₂ ha₂ hpending₂ hsome₂).bind
    fun _ a₃ g₃ hheld₃ ha₃ ⟨hsome₃, hpending₃, hout₃⟩ => ?_
  exact settles_uploadMarked hheld₃ ha₃ hsome₃ hpending₃ hout₃

theorem settles_bind (hheld : a.Held g) (ha : a.Synced g) :
    Settles (fun b => b.handle.isSome = true ∧ b.Settled) (SyncedArray.bind (a, g)) := by
  cases hh : a.handle with
  | none =>
    rw [bind_of_none hh]
    exact settles_raise hheld ha _
  | some h =>
    rw [bind_of_some hh]
    refine (settles_flush hheld ha).bind fun _ a' g' hheld₁ ha₁ hq => ?_
    have hheld₂ := (conduct_bindCurrent hheld₁).held hheld₁
    obtain ⟨h', hh'⟩ := Option.isSome_iff_exists.mp hq.1
    obtain ⟨-, hrun⟩ | ⟨-, -, hrun⟩ | ⟨-, -, hrun⟩ := bindCurrent_cases hh' g'
    · rw [hrun] at hheld₂ ⊢
      exact ⟨hheld₂, ha₁.frame fun _ _ => rfl, fun v hv => by cases hv⟩
    · rw [hrun]
      exact ⟨hheld₁, ha₁, fun v hv => by cases hv⟩
    · rw [hrun] at hheld₂ ⊢
      exact ⟨hheld₂, ha₁.frame fun _ _ => rfl, fun _ _ => hq⟩

theorem settles_unbind (hheld : a.Held g) (ha : a.Synced g) :
    Settles (fun _ => True) (unbind (a, g)) := by
  have hheld' := (conduct_unbind hheld).held hheld
  refine ⟨hheld', ?_, fun _ _ => trivial⟩
  cases hh : a.handle with
  | none =>
    rw [unbind, Op.bind_of_error ((liveHandle_of_none hh g).trans (Op.raise_apply _ _ _))]
    exact ha
  | some h =>
    obtain ⟨-, hrun⟩ | ⟨-, hrun⟩ := unbind_cases hh g
    · rw [hrun]
      exact ha.frame fun _ _ => rfl
    · rw [hrun]
      exact ha.frame fun _ _ => rfl

theorem settles_dispose (hheld : a.Held g) (ha : a.Synced g) :
    Settles (fun _ => True) (dispose (a, g)) := by
  rw [dispose_eq]
  refine (settles_releasePending hheld ha).bind fun _ b g' hheld₁ hb _ => ?_
  refine ⟨(conduct_releaseHandle hheld₁).held hheld₁, ?_, fun _ _ => trivial⟩
  obtain ⟨-, hrun⟩ | ⟨h, -, -, hrun⟩ | ⟨h, -, -, -, hrun⟩ | ⟨h, -, -, -, hrun⟩ :=
    releaseHandle_cases b g'
  · rw [hrun]
    exact hb
  · rw [hrun]
    exact hb.frame fun _ _ => rfl
  · rw [hrun]
    exact hb
  · rw [hrun]
    exact ⟨hb.packed, ⟨hb.wellMarked.below, hb.wellMarked.full⟩, hb.deviceFits,
      fun h hh => by cases hh⟩

theorem settles_performArray (hc : c.Lawful) (hheld : a.Held g) (ha : a.Synced g)
    (call : ArrayCall α) : Settles (fun _ => True) (performArray call (a, g)) := by
  have hheld' := (conduct_performArray hheld call).held hheld
  cases hh : a.handle with
  | none =>
    rw [performArray_of_none hh]
    exact settles_raise hheld ha _
  | some h =>
    rw [performArray_of_some hh] at hheld' ⊢
    exact ⟨hheld', synced_afterCall hc ha call, fun _ _ => trivial⟩

/-- The call brings the marked elements to the device. -/
def Call.Syncs : Call α → Prop
  | .flush => True
  | .bind => True
  | _ => False

/-- Every call keeps the mirror, and a flush or a bind that ends well leaves nothing to do. -/
theorem settles_perform (hc : c.Lawful) (hheld : a.Held g) (ha : a.Synced g) (call : Call α) :
    Settles (fun b => call.Syncs → b.handle.isSome = true ∧ b.Settled) (perform call (a, g)) := by
  cases call with
  | array call =>
    have hcall := settles_performArray hc hheld ha call
    exact ⟨hcall.held, hcall.synced, fun _ _ hsyncs => absurd hsyncs id⟩
  | flush =>
    exact (settles_flush hheld ha).bind fun _ _ _ hheld hb hq =>
      settles_pure hheld hb (fun _ => hq) _
  | bind =>
    exact (settles_bind hheld ha).bind fun _ _ _ hheld hb hq =>
      settles_pure hheld hb (fun _ => hq) _
  | unbind =>
    exact (settles_unbind hheld ha).bind fun _ _ _ hheld hb _ =>
      settles_pure hheld hb (fun hsyncs => absurd hsyncs id) _
  | dispose =>
    exact (settles_dispose hheld ha).bind fun _ _ _ hheld hb _ =>
      settles_pure hheld hb (fun hsyncs => absurd hsyncs id) _

/-- A new array is synced. -/
theorem synced_filled (hc : c.Lawful) (hg : g.inner.table.Sound) {config : ArrayConfig}
    (hroom : c.Fits config.capacity) (vs : List α) :
    (filled config vs g.inner.table.nextHandle : SyncedArray c).Synced
      (afterCreate c config g) := by
  apply synced_afterCall hc (a := fresh config g.inner.table.nextHandle)
  refine ⟨HostArray.packed_vacant hroom, ⟨Marks.below_clean _, ?_⟩, hroom, ?_⟩
  · intro hout
    exact absurd (of_decide_eq_true hout) (Nat.lt_irrefl _)
  · intro h hh
    obtain rfl : g.inner.table.nextHandle = h := Option.some.inj hh
    refine ⟨_, (HandleTable.find?_insert hg _ _).trans (if_pos rfl), Region.length_zeros _, ?_⟩
    intro i hi
    exact absurd hi (Nat.not_lt_zero _)

/-- An allocation that mirrors an array without marks starts with the populated bytes. -/
theorem Mirrors.take_eq (hm : a.Mirrors bytes) (hs : a.Settled) :
    bytes.take (a.host.count * c.size) = a.host.populated := by
  rw [HostArray.populated_eq_flatten, Region.take_mul_eq_flatten, HostArray.cells]
  congr 1
  apply List.map_congr_left
  intro i hi
  refine (hm.cell i (List.mem_range.mp hi)).resolve_left ?_
  rintro ⟨s, hspan, -⟩
  rw [hs.span] at hspan
  cases hspan

end SyncedArray

end BufferSync
