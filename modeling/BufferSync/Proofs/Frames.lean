import BufferSync.Demo.Renderer
import BufferSync.Proofs.FullArrays
import BufferSync.Proofs.Layouts
import Mathlib.Data.List.Induction

/-!
# The frames of the demo

On a new device the renderer draws any number of frames without a refusal, and what it asks of the
device is known exactly.

The invariant is `Stage`: both arrays fill their allocations to the last byte, and after `n` frames
the device has recorded `frameEvents` of these frames.  A frame recolours every corner, so that
whatever was marked before, all corners are marked then; the loop is followed corner by corner
(`recolor_loop`).  A binding brings what is marked to the device, which is all corners in every
frame and all triangles in the first one, since nothing marks them later.
-/

namespace BufferSync

namespace Demo

open SyncedArray (Seated Unseen Shown Rebound stocked)

variable {D : Type} {r : Renderer} {v i : Handle} {d : MemoryDevice} {n : Nat}
  {aspect : Binary32}

/-! ## Recolouring -/

namespace Renderer

theorem onVertices_of_eq {α : Type} {x : Op (SyncedArray FlatVertex.codec × D) α} {e e' : D}
    {a : SyncedArray FlatVertex.codec} {o : Outcome α} {l : List Log.Entry}
    (hx : x (r.vertices, e) = { outcome := o, state := (a, e'), log := l }) :
    onVertices x (r, e) =
      { outcome := o, state := ({ r with vertices := a }, e'), log := l } := by
  rw [onVertices, Op.focus_apply, hx]

theorem onIndices_of_eq {α : Type} {x : Op (SyncedArray Format.index16Codec × D) α} {e e' : D}
    {a : SyncedArray Format.index16Codec} {o : Outcome α} {l : List Log.Entry}
    (hx : x (r.indices, e) = { outcome := o, state := (a, e'), log := l }) :
    onIndices x (r, e) =
      { outcome := o, state := ({ r with indices := a }, e'), log := l } := by
  rw [onIndices, Op.focus_apply, hx]

/-- The corner with the colour of the given time. -/
def recolored (elapsed : Binary32) (j : Nat) (v : FlatVertex) : FlatVertex :=
  { v with color := phaseColor (cornerPhase elapsed j) }

/-- The second array has the elements of the first with the first `k` of them recoloured. -/
structure Recolored (elapsed : Binary32) (k : Nat) (a b : HostArray FlatVertex.codec) : Prop where
  /-- The array is packed. -/
  packed : b.Packed
  /-- The room is the same. -/
  capacity : b.capacity = a.capacity
  /-- The number of elements is the same. -/
  count : b.count = a.count
  /-- The first elements have new colours. -/
  elements : ∀ j v, a.toList[j]? = some v →
    b.toList[j]? = some (if j < k then recolored elapsed j v else v)

theorem Recolored.positions {elapsed : Binary32} {k : Nat} {a b : HostArray FlatVertex.codec}
    (hb : Recolored elapsed k a b) :
    b.toList.map FlatVertex.position = a.toList.map FlatVertex.position := by
  apply List.ext_getElem?
  intro j
  rw [List.getElem?_map, List.getElem?_map]
  cases hv : a.toList[j]? with
  | none =>
    have hlength : a.toList.length ≤ j := List.getElem?_eq_none_iff.mp hv
    rw [HostArray.length_toList] at hlength
    rw [HostArray.getElem?_toList_of_ge (by rw [hb.count]; exact hlength)]
  | some v =>
    rw [hb.elements j v hv]
    split
    · rfl
    · rfl

/-- Recolouring the next corner. -/
theorem Recolored.next {elapsed : Binary32} {k : Nat} {a b : HostArray FlatVertex.codec}
    (hb : Recolored elapsed k a b) {w : FlatVertex} (hw : a.toList[k]? = some w) :
    Recolored elapsed (k + 1) a
      (b.overwriteCells k (FlatVertex.codec.bytes (recolored elapsed k w))) := by
  have hc : FlatVertex.codec.Lawful := Format.lawful .flatVertex
  have hk : k < b.count := by
    rw [hb.count, ← HostArray.length_toList]
    exact (List.getElem?_eq_some_iff.mp hw).1
  have hroom : k < b.capacity := Nat.lt_of_lt_of_le hk hb.packed.count_le
  refine ⟨?_, hb.capacity, hb.count, ?_⟩
  · exact hb.packed.overwriteCells ((hc.length_bytes _).trans (Nat.one_mul _).symm) (by omega)
  · intro j u hu
    rw [HostArray.toList_overwriteCell hc hb.packed hroom, List.getElem?_set,
      HostArray.length_toList]
    by_cases hj : k = j
    · subst hj
      obtain rfl := Option.some.inj (hw.symm.trans hu)
      rw [if_pos rfl, if_pos hk, if_pos (Nat.lt_succ_self k)]
    · rw [if_neg hj, hb.elements j u hu]
      congr 1
      split
      · rw [if_pos (by omega)]
      · rw [if_neg (by omega)]

/-- The renderer with other bytes and marks for its corners. -/
def repainted (r : Renderer) (host : HostArray FlatVertex.codec) (marks : Marks) : Renderer :=
  { r with vertices := { r.vertices with host, marks } }

theorem recolor_of_live (ha : r.vertices.host.Packed) (hh : r.vertices.handle = some v) {j : Nat}
    {w : FlatVertex} (hw : r.vertices.host.toList[j]? = some w) (e : D) :
    recolor j (r, e) =
      { outcome := .ok ()
        state := (r.repainted
          (r.vertices.host.overwriteCells j (FlatVertex.codec.bytes (recolored r.elapsed j w)))
          (r.vertices.marks.markIndex j), e)
        log := [] } := by
  have hc : FlatVertex.codec.Lawful := Format.lawful .flatVertex
  have hj : j < r.vertices.host.count := by
    rw [← HostArray.length_toList]
    exact (List.getElem?_eq_some_iff.mp hw).1
  rw [recolor, Op.bind_of_ok (onVertices_of_eq (SyncedArray.get_of_live ha hh hw e)), Run.after_nil,
    Op.state_bind]
  exact onVertices_of_eq (SyncedArray.set_of_live hc.sized ha hh hj _ e)

/-- The loop has recoloured and marked the corners in front of `k`. -/
theorem recolor_loop (ha : r.vertices.host.Packed) (hh : r.vertices.handle = some v) {k : Nat}
    (hk : k ≤ r.vertices.host.count) (e : D) :
    ∃ host, Recolored r.elapsed k r.vertices.host host ∧
      Op.each recolor (List.range k) (r, e) =
        { outcome := .ok ()
          state := (r.repainted host
            ((List.range k).foldl Marks.markIndex r.vertices.marks), e)
          log := [] } := by
  induction k with
  | zero =>
    refine ⟨r.vertices.host, ⟨ha, rfl, rfl, ?_⟩, rfl⟩
    intro j w hw
    rw [hw, if_neg (Nat.not_lt_zero j)]
  | succ k ih =>
    obtain ⟨host, hhost, hrun⟩ := ih (by omega)
    have hold : r.vertices.host.toList[k]? = some _ :=
      HostArray.getElem?_toList_of_lt (show k < r.vertices.host.count by omega)
    -- The loop reads corner `k` as it was before the loop: it has not come that far.
    have hnow := hhost.elements k _ hold
    rw [if_neg (Nat.lt_irrefl k)] at hnow
    have hstep := recolor_of_live
      (r := r.repainted host ((List.range k).foldl Marks.markIndex r.vertices.marks))
      hhost.packed hh hnow e
    refine ⟨_, hhost.next hold, ?_⟩
    rw [List.range_succ, Op.each_append, Op.bind_of_ok hrun, Run.after_nil, Op.each,
      Op.bind_of_ok hstep, List.foldl_append]
    rfl

/-- Recolouring leaves an array in its place. -/
theorem Recolored.seated {elapsed : Binary32} {k : Nat} {a : SyncedArray FlatVertex.codec}
    {host : HostArray FlatVertex.codec} (hhost : Recolored elapsed k a.host host)
    (ha : a.Seated v d) (marks : Marks) : ({ a with host, marks } : SyncedArray _).Seated v d := by
  obtain ⟨al, hal, hlength, husage⟩ := ha.allocation
  exact
    { packed := hhost.packed
      full := hhost.count.trans (ha.full.trans hhost.capacity.symm)
      handle := ha.handle
      pending := ha.pending
      room := ha.room.trans hhost.capacity.symm
      allocation := ⟨al, hal, by
        rw [hlength, ha.packed.length_storage, hhost.packed.length_storage, hhost.capacity],
        husage⟩ }

end Renderer

/-! ## What is recorded -/

/-- What the device records when a renderer is made. -/
def startEvents (v i : Handle) : List Device.Event :=
  [.allocated v 96, .allocated i 12]

/-- What the device records in frame `n`, the first one being frame zero. -/
def frameEvents (v i : Handle) : Nat → List Device.Event
  | 0 => [.uploaded v 0 96, .bound v, .uploaded i 0 12, .bound i]
  | _ + 1 => [.uploaded v 0 96, .bound v, .bound i]

/-- What the device records at the end of a renderer. -/
def endEvents (v i : Handle) : List Device.Event :=
  [.unbound .vertex, .unbound .index, .released v, .released i]

/-- The corners are uploaded in every frame, the triangles in the first one. -/
theorem uploads_of_frames
    (hevents : d.events = startEvents v i ++ (List.range (n + 1)).flatMap (frameEvents v i)) :
    d.uploads = (v, 0, 96) :: (i, 0, 12) :: List.replicate n (v, 0, 96) := by
  rw [MemoryDevice.uploads, hevents]
  clear hevents
  induction n with
  | zero => rfl
  | succ n ih =>
    rw [List.range_succ, List.flatMap_append, ← List.append_assoc, List.filterMap_append, ih,
      List.replicate_succ']
    rfl

theorem uploadedBytes_of_frames
    (hevents : d.events = startEvents v i ++ (List.range (n + 1)).flatMap (frameEvents v i)) :
    d.uploadedBytes = 96 * (n + 1) + 12 := by
  rw [MemoryDevice.uploadedBytes, uploads_of_frames hevents]
  clear hevents
  induction n with
  | zero => rfl
  | succ n ih =>
    rw [List.replicate_succ', ← List.cons_append, ← List.cons_append, List.foldl_append, ih]
    rfl

/-! ## Stages of a renderer -/

/-- The renderer has drawn `n` frames on a device of its own. -/
structure Stage (aspect : Binary32) (v i : Handle) (n : Nat) (r : Renderer) (d : MemoryDevice) :
    Prop where
  /-- The corners fill their allocation. -/
  vertices : r.vertices.Seated v d
  /-- The triangles fill theirs. -/
  indices : r.indices.Seated i d
  /-- These are two allocations. -/
  distinct : v ≠ i
  /-- The corners are where they were. -/
  positions : r.vertices.host.toList.map FlatVertex.position =
    (quadVertices aspect).map FlatVertex.position
  /-- The triangles are as they were. -/
  triangles : r.indices.host.toList = quadIndices
  /-- The corners are bound as such. -/
  vertexUsage : r.vertices.usage = .vertex
  /-- The triangles are bound as such. -/
  indexUsage : r.indices.usage = .index
  /-- Before the first frame the device has seen nothing. -/
  unseen : n = 0 → r.vertices.Unseen ∧ r.indices.Unseen
  /-- After it, the device has everything. -/
  shown : n ≠ 0 → r.vertices.Shown v d ∧ r.indices.Shown i d
  /-- The device is armed with no fault. -/
  faults : d.faults = {}
  /-- Nothing else is on the device. -/
  live : d.liveAllocations = 2
  /-- Nothing but the triangles is active. -/
  bound : ∀ h, d.bound = some h → h = i
  /-- What was recorded. -/
  events : d.events = startEvents v i ++ (List.range n).flatMap (frameEvents v i)

namespace Stage

theorem count_corners {a : HostArray FlatVertex.codec}
    (hpositions : a.toList.map FlatVertex.position =
      (quadVertices aspect).map FlatVertex.position) : a.count = 4 := by
  have hlength := congrArg List.length hpositions
  rwa [List.length_map, List.length_map, HostArray.length_toList] at hlength

/-- However they are coloured, the corners of a quad take 96 bytes. -/
theorem length_corners {a : SyncedArray FlatVertex.codec} (ha : a.Seated v d)
    (hpositions : a.host.toList.map FlatVertex.position =
      (quadVertices aspect).map FlatVertex.position) : a.host.storage.length = 96 := by
  rw [ha.length_storage, count_corners hpositions]
  rfl

theorem length_indices (hs : Stage aspect v i n r d) : r.indices.host.storage.length = 12 := by
  rw [hs.indices.length_storage, ← HostArray.length_toList, hs.triangles]
  rfl

/-- Whatever the stage, nothing is marked but corners. -/
theorem below_vertices (hs : Stage aspect v i n r d) :
    r.vertices.marks.Below r.vertices.host.count := by
  by_cases hn : n = 0
  · exact (hs.unseen hn).1.2.below
  · intro s hmarked
    cases hmarked.symm.trans (hs.shown hn).1.1

end Stage

/-! ## Making a renderer -/

namespace Renderer

/-- The renderer before its first frame, on the allocations `v` and `i`. -/
def fresh (aspect : Binary32) (v i : Handle) : Renderer where
  vertices := stocked vertexConfig (quadVertices aspect) v
  indices := stocked indexConfig quadIndices i
  elapsed := .zero

/-- A renderer is made if the device has room for both arrays. -/
theorem create_of_allocate [Device D] {e₀ e₁ e₂ : D} {lv li : List Log.Entry}
    (hfirst : Device.allocate (vertexConfig.capacity * FlatVertex.codec.size) vertexConfig.usage
      e₀ = { outcome := .ok v, state := e₁, log := lv })
    (hsecond : Device.allocate (indexConfig.capacity * Format.index16Codec.size) indexConfig.usage
      e₁ = { outcome := .ok i, state := e₂, log := li }) (config : Config) :
    ∃ l, create config e₀ =
      { outcome := .ok (fresh config.aspect v i), state := e₂, log := l } := by
  have hvertexCodec : FlatVertex.codec.Lawful := Format.lawful .flatVertex
  have hindexCodec : Format.index16Codec.Lawful := Format.lawful .index16
  obtain ⟨lv, hv⟩ := SyncedArray.ofList_of_allocate hvertexCodec.sized
    (Nat.le_refl (quadVertices config.aspect).length) (by decide) hfirst
  obtain ⟨li, hi⟩ := SyncedArray.ofList_of_allocate hindexCodec.sized
    (Nat.le_refl quadIndices.length) (by decide) hsecond
  have hbeside := Op.beside_of_eq (Op.finishing_of_ok
    (SyncedArray.onDevice_of_eq hi (fresh config.aspect v i).vertices) SyncedArray.drop)
  refine ⟨lv ++ (li ++ []), ?_⟩
  rw [create, Op.bind_of_ok hv]
  exact congrArg (fun run => Run.after run lv) (Op.bind_of_ok hbeside _)

/-- A new device with room for the corners. -/
def vertexDevice : MemoryDevice := ({} : MemoryDevice).allocated 96 .vertex

/-- A new device with room for the corners and the triangles. -/
def quadDevice : MemoryDevice := vertexDevice.allocated 12 .index

/-- The allocation of the corners on a new device. -/
def vertexHandle : Handle := ({} : MemoryDevice).table.nextHandle

/-- The allocation of the triangles. -/
def indexHandle : Handle := vertexDevice.table.nextHandle

/-- The renderer before its first frame. -/
def initial (aspect : Binary32) : Renderer where
  vertices := stocked vertexConfig (quadVertices aspect) vertexHandle
  indices := stocked indexConfig quadIndices indexHandle
  elapsed := .zero

theorem create_eq (config : Config) :
    ∃ l, (create config : Op MemoryDevice Renderer) {} =
      { outcome := .ok (initial config.aspect), state := quadDevice, log := l } :=
  create_of_allocate (MemoryDevice.allocate_of_le rfl (by decide) _)
    (MemoryDevice.allocate_of_le rfl (by decide) _) config

end Renderer

open Renderer (vertexHandle indexHandle quadDevice initial)

/-- A new renderer on a new device has drawn nothing. -/
theorem stage_initial (aspect : Binary32) :
    Stage aspect vertexHandle indexHandle 0 (initial aspect) quadDevice ∧
      (initial aspect).vertices.host.toList = quadVertices aspect := by
  have hvertices : quadDevice.table.find? vertexHandle =
      some { bytes := Region.zeros 96, usage := .vertex } := rfl
  have hindices : quadDevice.table.find? indexHandle =
      some { bytes := Region.zeros 12, usage := .index } := rfl
  have hcorners : (initial aspect).vertices.Seated vertexHandle quadDevice ∧
      (initial aspect).vertices.Unseen ∧
      (initial aspect).vertices.host.toList = quadVertices aspect :=
    SyncedArray.seated_stocked (Format.lawful .flatVertex) (Nat.zero_lt_succ 3) rfl (by decide)
      hvertices (Region.length_zeros _) rfl
  have htriangles : (initial aspect).indices.Seated indexHandle quadDevice ∧
      (initial aspect).indices.Unseen ∧ (initial aspect).indices.host.toList = quadIndices :=
    SyncedArray.seated_stocked (Format.lawful .index16) (Nat.zero_lt_succ 5) rfl (by decide)
      hindices (Region.length_zeros _) rfl
  refine ⟨?_, hcorners.2.2⟩
  exact
    { vertices := hcorners.1
      indices := htriangles.1
      distinct := by decide
      positions := congrArg _ hcorners.2.2
      triangles := htriangles.2.2
      vertexUsage := rfl
      indexUsage := rfl
      unseen := fun _ => ⟨hcorners.2.1, htriangles.2.1⟩
      shown := fun hn => absurd rfl hn
      faults := rfl
      live := rfl
      bound := fun h hb => by cases hb
      events := rfl }

/-! ## Drawing -/

namespace Stage

/-- The binding of the triangles uploads them before the first frame and never again.  The device
may have changed elsewhere. -/
theorem bind_indices (hs : Stage aspect v i n r d) {d' : MemoryDevice}
    (hfind : d'.table.find? i = d.table.find? i) (hfaults : d'.faults = {}) :
    ∃ d'' l, SyncedArray.bind (r.indices, d') =
        { outcome := .ok (), state := (r.indices.unmarked, d''), log := l } ∧
      r.indices.unmarked.Seated i d'' ∧ r.indices.unmarked.Shown i d'' ∧
      Rebound i d' d'' (if n = 0 then [.uploaded i 0 12, .bound i] else [.bound i]) := by
  have hseated := hs.indices.of_find? hfind
  by_cases hn : n = 0
  · rw [if_pos hn, ← hs.length_indices]
    exact SyncedArray.bind_of_unseen hseated (hs.unseen hn).2 (by rw [hfaults])
  · rw [if_neg hn]
    obtain ⟨hclean, hcontents⟩ := (hs.shown hn).2
    refine SyncedArray.bind_of_shown hseated ⟨hclean, ?_⟩
    rw [MemoryDevice.contents?, hfind]
    exact hcontents

/-- The loop of a frame marks all corners and moves none. -/
theorem recolor_all (hs : Stage aspect v i n r d) (elapsed : Binary32) :
    ∃ a, Op.each Renderer.recolor (List.range r.vertices.host.count) ({ r with elapsed }, d) =
        { outcome := .ok (), state := ({ r with vertices := a, elapsed }, d), log := [] } ∧
      a.Seated v d ∧ a.Unseen ∧ a.usage = r.vertices.usage ∧
      a.host.toList.map FlatVertex.position = r.vertices.host.toList.map FlatVertex.position := by
  obtain ⟨host, hhost, hloop⟩ := Renderer.recolor_loop (r := { r with elapsed })
    hs.vertices.packed hs.vertices.handle (Nat.le_refl _) d
  have hcount : host.count = r.vertices.host.count := hhost.count
  have hpos : 0 < r.vertices.host.count := by
    rw [count_corners hs.positions]
    decide
  refine ⟨_, hloop, hhost.seated hs.vertices _, ⟨?_, ?_⟩, rfl, hhost.positions⟩
  · rw [hcount]
    exact hpos
  · rw [hcount]
    exact hs.below_vertices.full_foldl_range

/-- A frame leads to the next stage. -/
theorem render (hs : Stage aspect v i n r d) (delta : Binary32) :
    ∃ r' d' l, Renderer.render delta (r, d) =
        { outcome := .ok (), state := (r', d'), log := l } ∧
      Stage aspect v i (n + 1) r' d' := by
  obtain ⟨a, hloop, hseated, hunseen, husage, hpositions⟩ := hs.recolor_all (r.elapsed + delta)
  have hlength : a.host.storage.length = 96 :=
    length_corners hseated (hpositions.trans hs.positions)
  obtain ⟨d₁, l₁, hbindv, hseatedv, hshownv, hv⟩ :=
    SyncedArray.bind_of_unseen hseated hunseen (by rw [hs.faults])
  obtain ⟨d₂, l₂, hbindi, hseatedi, hshowni, hi⟩ :=
    hs.bind_indices (hv.others i hs.distinct.symm) (hv.faults.trans hs.faults)
  have hother := hi.others v hs.distinct
  refine ⟨{ vertices := a.unmarked, indices := r.indices.unmarked, elapsed := r.elapsed + delta },
    d₂, l₁ ++ l₂, ?_, ?_⟩
  · rw [Renderer.render, Op.update_bind, Op.state_bind]
    have hlast := Renderer.onIndices_of_eq
      (r := { r with vertices := a.unmarked, elapsed := r.elapsed + delta }) hbindi
    refine (Op.bind_of_ok hloop _).trans ?_
    rw [Op.bind_of_ok (Renderer.onVertices_of_eq hbindv), hlast]
    rfl
  · exact
      { vertices := hseatedv.of_find? hother
        indices := hseatedi
        distinct := hs.distinct
        positions := hpositions.trans hs.positions
        triangles := hs.triangles
        vertexUsage := husage.trans hs.vertexUsage
        indexUsage := hs.indexUsage
        unseen := fun hn => absurd hn (Nat.succ_ne_zero n)
        shown := fun _ => ⟨⟨hshownv.1, by rw [MemoryDevice.contents?, hother]; exact hshownv.2⟩,
          hshowni⟩
        faults := hi.faults.trans (hv.faults.trans hs.faults)
        live := hi.live.trans (hv.live.trans hs.live)
        bound := fun h hb => (Option.some.inj (hi.bound.symm.trans hb)).symm
        events := by
          rw [hi.events, hv.events, hs.events, hlength, List.range_succ, List.flatMap_append]
          cases n <;> simp [frameEvents] }

/-- Any number of frames can be drawn. -/
theorem frames (hs : Stage aspect v i 0 r d) (deltas : List Binary32) :
    ∃ r' d' l, Op.each Renderer.render deltas (r, d) =
        { outcome := .ok (), state := (r', d'), log := l } ∧
      Stage aspect v i deltas.length r' d' := by
  induction deltas using List.reverseRecOn with
  | nil => exact ⟨r, d, [], rfl, hs⟩
  | append_singleton deltas delta ih =>
    obtain ⟨r₁, d₁, l₁, hbefore, hstage⟩ := ih
    obtain ⟨r₂, d₂, l₂, hlast, hnext⟩ := hstage.render delta
    refine ⟨r₂, d₂, l₁ ++ (l₂ ++ []), ?_, by rw [List.length_append]; exact hnext⟩
    rw [Op.each_append, Op.bind_of_ok hbefore, Op.each, Op.bind_of_ok hlast]
    rfl

end Stage

/-! ## The end of a renderer -/

namespace Renderer

/-- The renderer without its allocations. -/
def emptied (r : Renderer) : Renderer :=
  { r with
    vertices := { r.vertices with handle := none }
    indices := { r.indices with handle := none } }

/-- Nothing is left to be dropped. -/
theorem drop_of_released [Device D] (hv : r.vertices.Released) (hi : r.indices.Released) (e : D) :
    drop (r, e) = { outcome := .ok (), state := (r, e), log := [] } := by
  rw [drop, Op.bind_of_ok (onVertices_of_eq (hv.drop_eq e))]
  exact congrArg (Run.after · []) (onIndices_of_eq (hi.drop_eq e))

theorem drop_emptied [Device D] (hv : r.vertices.pending = none) (hi : r.indices.pending = none)
    (e : D) :
    drop (r.emptied, e) = { outcome := .ok (), state := (r.emptied, e), log := [] } :=
  drop_of_released (r := r.emptied) ⟨rfl, hv⟩ ⟨rfl, hi⟩ e

end Renderer

namespace Stage

/-- Both arrays are given back, and nothing is active any more. -/
theorem release (hs : Stage aspect v i n r d) :
    ∃ d' l, Renderer.release (r, d) =
        { outcome := .ok (), state := (r.emptied, d'), log := l } ∧
      d'.events = d.events ++ endEvents v i ∧ d'.liveAllocations = 0 ∧ d'.bound = none := by
  obtain ⟨alv, halv, -, -⟩ := hs.vertices.allocation
  obtain ⟨ali, hali, -, husage⟩ := hs.indices.allocation
  let d₁ := d.unboundFrom .vertex
  let d₂ := d₁.unboundFrom .index
  let d₃ := d₂.released v
  have hfind : d₃.table.find? i = some ali :=
    (HandleTable.find?_erase halv i).trans ((if_neg hs.distinct.symm).trans hali)
  have hunbindv : SyncedArray.unbind (r.vertices, d) =
      { outcome := .ok (), state := (r.vertices, d₁), log := [r.vertices.unbindEntry] } := by
    rw [SyncedArray.unbind_of_live hs.vertices.handle, hs.vertexUsage]
  have hunbindi : SyncedArray.unbind (r.indices, d₁) =
      { outcome := .ok (), state := (r.indices, d₂), log := [r.indices.unbindEntry] } := by
    rw [SyncedArray.unbind_of_live hs.indices.handle, hs.indexUsage]
  have hdisposev := SyncedArray.dispose_of_live (d := d₂) hs.vertices.handle hs.vertices.pending
    (congrArg Faults.release hs.faults) (HandleTable.contains_iff.mpr ⟨alv, halv⟩)
  have hdisposei := SyncedArray.dispose_of_live (d := d₃) hs.indices.handle hs.indices.pending
    (congrArg Faults.release hs.faults) (HandleTable.contains_iff.mpr ⟨ali, hfind⟩)
  have hlast := Renderer.onIndices_of_eq
    (r := { r with vertices := { r.vertices with handle := none } }) hdisposei
  -- Only the triangles can be active, and they are unbound second.
  have hinactive : d₂.bound = none := by
    apply MemoryDevice.bound_unboundFrom
    intro k hk
    obtain rfl := hs.bound k (MemoryDevice.bound_of_unboundFrom hk)
    exact (congrArg (Option.map Allocation.usage) hali).trans
      (congrArg some (husage.trans hs.indexUsage))
  refine ⟨d₃.released i, [r.vertices.unbindEntry] ++ ([r.indices.unbindEntry] ++
    ([MemoryDevice.releaseEntry v, r.vertices.disposeEntry] ++
      [MemoryDevice.releaseEntry i, r.indices.disposeEntry])), ?_, ?_, ?_, ?_⟩
  · rw [Renderer.release, Op.bind_of_ok (Renderer.onVertices_of_eq hunbindv),
      Op.bind_of_ok (Renderer.onIndices_of_eq hunbindi),
      Op.bind_of_ok (Renderer.onVertices_of_eq hdisposev), hlast]
    rfl
  · simp [d₁, d₂, d₃, endEvents]
  · have hfirst : d₃.liveAllocations + 1 = d.liveAllocations :=
      MemoryDevice.liveAllocations_released (d := d₂) halv
    have hsecond := MemoryDevice.liveAllocations_released hfind
    rw [hs.live] at hfirst
    omega
  · exact MemoryDevice.bound_released (MemoryDevice.bound_released hinactive v) i

/-- The end of the renderer does the same: nothing is left to be dropped. -/
theorem dispose (hs : Stage aspect v i n r d) :
    ∃ d' l, Renderer.dispose r d = { outcome := .ok (), state := d', log := l } ∧
      d'.events = d.events ++ endEvents v i ∧ d'.liveAllocations = 0 ∧ d'.bound = none := by
  obtain ⟨d', l, hrelease, hend⟩ := hs.release
  have hdrop := Renderer.drop_emptied hs.vertices.pending hs.indices.pending d'
  have hall : (Renderer.release.finishing Renderer.drop >>= fun _ => Renderer.drop) (r, d) =
      { outcome := .ok (), state := (r.emptied, d'), log := l ++ [] } := by
    rw [Op.bind_of_ok (Op.finishing_of_ok hrelease _), hdrop]
    rfl
  refine ⟨d', (l ++ []) ++ [], ?_, hend⟩
  exact Op.bind_of_ok (Op.beside_of_eq hall) _

/-- After a frame the device has the bytes of both arrays. -/
theorem contents (hs : Stage aspect v i n r d) (hn : n ≠ 0) :
    d.contents? v = some r.vertices.host.populated ∧
      d.contents? i = some r.indices.host.populated := by
  obtain ⟨hvertices, hindices⟩ := hs.shown hn
  rw [hs.vertices.packed.populated_of_full hs.vertices.full,
    hs.indices.packed.populated_of_full hs.indices.full]
  exact ⟨hvertices.2, hindices.2⟩

/-- The number of uploads and of the bytes in them. -/
theorem uploads (hs : Stage aspect v i n r d) :
    d.uploads.length = (if n = 0 then 0 else n + 1) ∧
      d.uploadedBytes = if n = 0 then 0 else 96 * n + 12 := by
  have hevents := hs.events
  cases n with
  | zero =>
    have hnone : d.uploads = [] := by
      rw [MemoryDevice.uploads, hevents]
      rfl
    rw [MemoryDevice.uploadedBytes, hnone]
    exact ⟨rfl, rfl⟩
  | succ n =>
    rw [uploads_of_frames hevents, uploadedBytes_of_frames hevents]
    simp

end Stage

/-- On a new device a renderer is made for any settings and draws any number of frames.  Every
request is granted; the corners are uploaded in every frame, the triangles in the first one only.
After every frame the device has what the arrays have, the corners are where they were and the
triangles the same.  At the end everything is given back and nothing is active. -/
theorem frames_drawn (config : Config) :
    ∃ r₀ d₀ l₀ v i,
      (Renderer.create config : Op MemoryDevice Renderer) {} =
        { outcome := .ok r₀, state := d₀, log := l₀ } ∧
      (r₀.vertices.handle = some v ∧ r₀.indices.handle = some i ∧ v ≠ i) ∧
      r₀.vertices.host.toList = quadVertices config.aspect ∧
      r₀.indices.host.toList = quadIndices ∧
      d₀.events = startEvents v i ∧
      ∀ deltas : List Binary32, ∃ r d l,
        Op.each Renderer.render deltas (r₀, d₀) =
          { outcome := .ok (), state := (r, d), log := l } ∧
        (r.vertices.handle = some v ∧ r.indices.handle = some i) ∧
        d.events = startEvents v i ++ (List.range deltas.length).flatMap (frameEvents v i) ∧
        d.uploads.length = (if deltas.length = 0 then 0 else deltas.length + 1) ∧
        d.uploadedBytes = (if deltas.length = 0 then 0 else 96 * deltas.length + 12) ∧
        (deltas.length ≠ 0 →
          d.contents? v = some r.vertices.host.populated ∧
            d.contents? i = some r.indices.host.populated) ∧
        r.vertices.host.toList.map FlatVertex.position =
          r₀.vertices.host.toList.map FlatVertex.position ∧
        r.indices.host.toList = r₀.indices.host.toList ∧
        ∃ d' l',
          Renderer.dispose r d = { outcome := .ok (), state := d', log := l' } ∧
          d'.events = d.events ++ endEvents v i ∧ d'.liveAllocations = 0 ∧ d'.bound = none := by
  obtain ⟨l₀, hcreate⟩ := Renderer.create_eq config
  obtain ⟨hinitial, hlist⟩ := stage_initial config.aspect
  refine ⟨_, _, l₀, _, _, hcreate, ⟨rfl, rfl, hinitial.distinct⟩, hlist, hinitial.triangles,
    hinitial.events, ?_⟩
  intro deltas
  obtain ⟨r, d, l, hrun, hstage⟩ := hinitial.frames deltas
  obtain ⟨hcount, hbytes⟩ := hstage.uploads
  exact ⟨r, d, l, hrun, ⟨hstage.vertices.handle, hstage.indices.handle⟩, hstage.events, hcount,
    hbytes, hstage.contents, hstage.positions.trans hinitial.positions.symm,
    hstage.triangles.trans hinitial.triangles.symm, hstage.dispose⟩

end Demo

end BufferSync
