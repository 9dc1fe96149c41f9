import BufferSync.Proofs.Breakdowns
import BufferSync.Proofs.Frames
import BufferSync.Proofs.Wardens

/-!
# The end of a renderer

However its frames went, a renderer leaves nothing on the device if at most one unbinding or release
is refused at its end.  Any upload and any binding can have been refused before, by a warden or by a
fault.

*Frames.*  The arrays of a renderer never outgrow their allocations, so a frame makes no allocation
and gives none back, and all that a refusal leaves behind are marks.  What frames keep is
`InService`: both arrays are on the allocations that they were made with, and the device has these
two besides what it had before.

*Parting.*  The end of a renderer takes up to four requests.  If one of them is refused, each array
either still has its allocation or has parted from it (`Parting`), and both are dropped; the drop
asks once for every allocation that is left.  A second refusal is what it takes to keep one of them
on the device (`Renderer.dispose_ends`).
-/

namespace BufferSync

namespace SyncedArray

variable {α : Type} {c : Codec α} {D : Type} {a : SyncedArray c} {h : Handle}

/-! ## Arrays that stay on their allocation -/

/-- The array is on the allocation `h`, which is large enough and the only one that it has. -/
structure Lodged (a : SyncedArray c) (h : Handle) : Prop where
  /-- The host array is packed. -/
  packed : a.host.Packed
  /-- The allocation. -/
  handle : a.handle = some h
  /-- No other allocation is left. -/
  pending : a.pending = none
  /-- The allocation is large enough. -/
  outgrown : a.outgrown = false

theorem lodged_stocked (hc : c.Sized) {config : ArrayConfig} {vs : List α}
    (hroom : vs.length ≤ config.capacity) (hfits : c.Fits config.capacity) :
    (stocked config vs h : SyncedArray c).Lodged h := by
  have hvacant : (HostArray.vacant config.capacity : HostArray c).Packed :=
    HostArray.packed_vacant hfits
  have hfill : (HostArray.vacant config.capacity : HostArray c).count + vs.length ≤
      config.capacity := (Nat.zero_add _).symm ▸ hroom
  refine ⟨(HostArray.foldl_push hc hvacant vs hfill).1, rfl, rfl, ?_⟩
  rw [outgrown, stocked, HostArray.capacity_foldl_push]
  exact decide_eq_false (Nat.lt_irrefl _)

/-- An array that was made has an allocation that was made for it. -/
theorem exists_allocate_of_ofList [Device D] {config : ArrayConfig} {vs : List α} {e : D}
    (hmade : ((ofList config vs : Op D (SyncedArray c)) e).outcome = .ok a)
    (hfits : c.Fits config.capacity) :
    ∃ h e' l, Device.allocate (config.capacity * c.size) config.usage e =
      { outcome := .ok h, state := e', log := l } := by
  have hok : ((ofList config vs : Op D (SyncedArray c)) e).outcome.isOk = true := by
    rw [hmade]
    rfl
  obtain ⟨a, ha, -⟩ := Op.exists_of_bind_isOk hok
  rw [outcome_create_of_fits hfits] at ha
  obtain ⟨h, hh, -⟩ := Outcome.exists_of_map ha
  rcases hrun : Device.allocate (config.capacity * c.size) config.usage e with ⟨o, e', l⟩
  rw [hrun] at hh
  cases hh
  exact ⟨h, e', l, rfl⟩

/-- An array that stays on its allocation is bound with at most one upload before. -/
theorem Lodged.bind_eq [Device D] (ha : a.Lodged h) (d : D) :
    SyncedArray.bind (a, d) = (uploadMarked >>= fun _ => bindCurrent) (a, d) := by
  rw [bind_of_some ha.handle, Op.bind_apply, flush_of_fits ha.handle ha.pending ha.outgrown,
    ← Op.bind_apply]

/-- Bindings keep an array on its allocation, and what uploads and bindings keep of the device. -/
theorem sustains_bind_lodged [Device D] {J : D → Prop}
    (hupload : ∀ h offset bytes, (Device.upload h offset bytes).Keeps J fun _ => True)
    (hbind : ∀ h, (Device.bind h).Keeps J fun _ => True) :
    Sustains (fun p : SyncedArray c × D => p.1.Lodged h ∧ J p.2) SyncedArray.bind := by
  have honDevice {x : Op D Unit} (hx : x.Keeps J fun _ => True) :
      Sustains (fun p : SyncedArray c × D => p.1.Lodged h ∧ J p.2) (onDevice x) :=
    hx.focus (fun _ hp => hp.2) fun _ _ hp hd => ⟨hp.1, hd⟩
  have huploads : Sustains (fun p : SyncedArray c × D => p.1.Lodged h ∧ J p.2) uploadMarked := by
    refine sustains_uploadMarked (fun f => Op.keeps_update fun p hp => ⟨?_, hp.2⟩) fun _ _ _ =>
      honDevice (hupload _ _ _)
    exact ⟨hp.1.packed, hp.1.handle, hp.1.pending, hp.1.outgrown⟩
  have hall := Op.Keeps.bind huploads fun _ => sustains_bindCurrent fun h => honDevice (hbind h)
  rintro ⟨a, d⟩ hp
  rw [hp.1.bind_eq d]
  exact hall (a, d) hp

/-! ## Parting of an array from its allocation -/

variable {w w' : Warden}

/-- The array has its allocation and no other, and the device knows it. -/
structure Holds (h : Handle) (p : SyncedArray c × Warden) : Prop where
  /-- The allocation. -/
  handle : p.1.handle = some h
  /-- No other allocation is left. -/
  pending : p.1.pending = none
  /-- It is live. -/
  live : p.2.Live h

/-- The array has no allocation any more, and the device does not know the one it had. -/
structure Parted (h : Handle) (p : SyncedArray c × Warden) : Prop where
  /-- The array has nothing. -/
  released : p.1.Released
  /-- Its allocation is not live. -/
  gone : ¬ p.2.Live h

/-- The array has its allocation, or has parted from it. -/
def Parting (h : Handle) (p : SyncedArray c × Warden) : Prop :=
  Holds h p ∨ Parted h p

theorem Holds.of_live (hp : Holds h (a, w)) (hlive : w'.Live h ↔ w.Live h) : Holds h (a, w') :=
  ⟨hp.handle, hp.pending, hlive.mpr hp.live⟩

theorem Parted.of_live (hp : Parted h (a, w)) (hlive : w'.Live h ↔ w.Live h) : Parted h (a, w') :=
  ⟨hp.released, fun hl => hp.gone (hlive.mp hl)⟩

theorem Parting.of_live (hp : Parting h (a, w)) (hlive : w'.Live h ↔ w.Live h) :
    Parting h (a, w') :=
  hp.imp (fun hp => hp.of_live hlive) fun hp => hp.of_live hlive

/-- An unbinding leaves the array alone, whether it is refused or not. -/
theorem Holds.unbind_ends (hp : Holds h (a, w)) :
    (unbind (a, w)).Ends
      (fun _ p => p.1 = a ∧ p.2.partingsRefused = w.partingsRefused ∧ w.SameLive p.2 [])
      (fun p => p.1 = a ∧ p.2.partingsRefused = w.partingsRefused + 1 ∧ w.SameLive p.2 [])
      fun _ => False := by
  rw [unbind, Op.bind_of_ok (liveHandle_of_some hp.handle w), self_bind]
  refine (Op.ends_bind (Op.ends_focus ?_) fun _ _ hs => hs).after []
  exact (w.unbind_ends a.usage).mono (fun _ _ hw => ⟨rfl, hw⟩) (fun _ hw => ⟨rfl, hw⟩)
    fun _ hw => hw

/-- A disposal parts the array from its allocation, or is refused and leaves it as it was. -/
theorem Holds.dispose_ends (hp : Holds h (a, w)) :
    (dispose (a, w)).Ends
      (fun _ p => Parted h p ∧ p.2.partingsRefused = w.partingsRefused ∧ w.SameLive p.2 [h])
      (fun p => p.1 = a ∧ p.2.partingsRefused = w.partingsRefused + 1 ∧ w.SameLive p.2 [])
      fun _ => False := by
  rw [dispose_eq, Op.bind_of_ok (releasePending_of_none hp.pending w),
    releaseHandle_of_some hp.handle]
  have hends := w.release_ends h
  rcases hrun : Device.release h w with ⟨v | e | t, w', l⟩
  · rw [hrun] at hends
    obtain ⟨hcount, hgone, hsame⟩ := hends
    rw [Op.bind_of_ok (Op.undoing_of_ok (onDevice_of_eq hrun _) _)]
    exact ⟨⟨⟨rfl, hp.pending⟩, hgone⟩, hcount, hsame⟩
  · rw [hrun] at hends
    rw [Op.bind_of_error (by rw [change, Op.undoing_of_error (onDevice_of_eq hrun _)])]
    exact ⟨set_handle_self hp.handle, hends⟩
  · rw [hrun] at hends
    exact False.elim hends

theorem drop_of_some [Device D] (hh : a.handle = some h) (hp : a.pending = none) (d : D) :
    ∃ text, drop (a, d) = (onDevice (Device.release h)).handle
      (fun e => Op.report (dropEntry text e)) ({ a with handle := none }, d) := by
  have hpending : dropPending a (a, d) = { outcome := .ok (), state := (a, d), log := [] } :=
    Op.handle_of_ok (releasePending_of_none hp d) _
  refine ⟨s!"Buffer '{a.label}' dropped without dispose(), release failed: ", ?_⟩
  rw [drop_eq, Op.bind_of_ok hpending, dropHandle, hh]
  rfl

/-- Dropping the array takes no more than a grant: if nothing is refused, it parts from what it
had. -/
theorem Parting.drop_ends (hp : Parting h (a, w)) :
    (drop (a, w)).Ends
      (fun _ p => w.partingsRefused ≤ p.2.partingsRefused ∧
        (p.2.partingsRefused ≤ w.partingsRefused → Parted h p) ∧ w.SameLive p.2 [h])
      (fun _ => False) fun _ => False := by
  rcases hp with hp | hp
  · obtain ⟨text, hdrop⟩ := drop_of_some hp.handle hp.pending w
    rw [hdrop]
    have hends := w.release_ends h
    rcases hrun : Device.release h w with ⟨v | e | t, w', l⟩
    · rw [hrun] at hends
      obtain ⟨hcount, hgone, hsame⟩ := hends
      rw [Op.handle_of_ok (onDevice_of_eq hrun _)]
      exact ⟨Nat.le_of_eq hcount.symm, fun _ => ⟨⟨rfl, hp.pending⟩, hgone⟩, hsame⟩
    · rw [hrun] at hends
      obtain ⟨hcount, hsame⟩ := hends
      rw [Op.handle_of_error (onDevice_of_eq hrun _)]
      refine ⟨?_, fun hle => ?_, fun k _ => hsame k List.not_mem_nil⟩
      · exact hcount ▸ Nat.le_succ _
      · exact absurd (hcount ▸ hle) (Nat.not_succ_le_self _)
    · rw [hrun] at hends
      exact False.elim hends
  · rw [hp.released.drop_eq w]
    exact ⟨Nat.le_refl _, fun _ => hp, fun _ _ => Iff.rfl⟩

end SyncedArray

namespace Demo

open SyncedArray (Holds Parted Parting stocked)
open Renderer (vertexHandle indexHandle)

variable {D : Type} {r : Renderer} {v i : Handle} {w w' w'' : Warden} {d₀ : MemoryDevice}
  {s : Renderer × Warden}

namespace Renderer

/-! ## Making a renderer -/

/-- A renderer that was made is a new one on two allocations that were made for it. -/
theorem exists_allocate_of_create [Device D] {config : Config} {e₀ e₂ : D} {l : List Log.Entry}
    (hcreate : create config e₀ = { outcome := .ok r, state := e₂, log := l }) :
    ∃ v i e₁ lv li,
      Device.allocate (vertexConfig.capacity * FlatVertex.codec.size) vertexConfig.usage e₀ =
        { outcome := .ok v, state := e₁, log := lv } ∧
      Device.allocate (indexConfig.capacity * Format.index16Codec.size) indexConfig.usage e₁ =
        { outcome := .ok i, state := e₂, log := li } ∧
      r = fresh config.aspect v i := by
  have hvertexCodec : FlatVertex.codec.Lawful := Format.lawful .flatVertex
  have hok : ((create config : Op D Renderer) e₀).outcome.isOk = true := by
    rw [hcreate]
    rfl
  obtain ⟨vertices, hvertices, -⟩ := Op.exists_of_bind_isOk hok
  obtain ⟨v, e₁, lv, hfirst⟩ := SyncedArray.exists_allocate_of_ofList hvertices (by decide)
  obtain ⟨lv', hmade⟩ := SyncedArray.ofList_of_allocate hvertexCodec.sized
    (Nat.le_refl (quadVertices config.aspect).length) (by decide) hfirst
  rw [create, Op.bind_of_ok hmade] at hok
  obtain ⟨_, hrest, -⟩ := Op.exists_of_bind_isOk hok
  obtain ⟨indices, hindices, -⟩ := Outcome.exists_of_map hrest
  rw [Op.outcome_finishing] at hindices
  have hindices : ((SyncedArray.ofList indexConfig quadIndices :
      Op D (SyncedArray Format.index16Codec)) e₁).outcome = .ok indices := hindices
  obtain ⟨i, e₂', li, hsecond⟩ := SyncedArray.exists_allocate_of_ofList hindices (by decide)
  obtain ⟨l', hrun⟩ := create_of_allocate hfirst hsecond config
  cases hcreate.symm.trans hrun
  exact ⟨v, i, e₁, lv, li, hfirst, hsecond, rfl⟩

/-! ## Parting of a renderer from its allocations -/

variable {P P' : SyncedArray FlatVertex.codec × Warden → Prop}
  {Q Q' : SyncedArray Format.index16Codec × Warden → Prop} {n : Nat}

/-- How things stand with the corners and the triangles after `n` refusals since `w`. -/
structure Standing (v i : Handle) (w : Warden) (P : SyncedArray FlatVertex.codec × Warden → Prop)
    (Q : SyncedArray Format.index16Codec × Warden → Prop) (n : Nat) (s : Renderer × Warden) :
    Prop where
  /-- The corners. -/
  vertices : P (s.1.vertices, s.2)
  /-- The triangles. -/
  indices : Q (s.1.indices, s.2)
  /-- The refusals. -/
  count : s.2.partingsRefused = w.partingsRefused + n
  /-- Other allocations are as before. -/
  same : w.SameLive s.2 [v, i]

namespace Standing

theorem mono (hstand : Standing v i w P Q n s) (hP : ∀ p, P p → P' p) (hQ : ∀ p, Q p → Q' p) :
    Standing v i w P' Q' n s :=
  ⟨hP _ hstand.vertices, hQ _ hstand.indices, hstand.count, hstand.same⟩

/-- After a granted request. -/
theorem granted {s' : Renderer × Warden} {hs : List Handle} (hstand : Standing v i w P Q n s)
    (hvertices : P' (s'.1.vertices, s'.2)) (hindices : Q' (s'.1.indices, s'.2))
    (hcount : s'.2.partingsRefused = s.2.partingsRefused) (hsame : s.2.SameLive s'.2 hs)
    (hsub : hs ⊆ [v, i]) : Standing v i w P' Q' n s' :=
  ⟨hvertices, hindices, hcount.trans hstand.count, hstand.same.trans (hsame.mono hsub)⟩

/-- After a granted request that leaves both arrays alone. -/
theorem unbound (hstand : Standing v i w (Holds v) (Holds i) n (r, w'))
    (hcount : w''.partingsRefused = w'.partingsRefused) (hsame : w'.SameLive w'' []) :
    Standing v i w (Holds v) (Holds i) n (r, w'') :=
  hstand.granted (hstand.vertices.of_live (hsame v List.not_mem_nil))
    (hstand.indices.of_live (hsame i List.not_mem_nil)) hcount hsame (List.nil_subset _)

/-- After a refused request. -/
theorem refused (hstand : Standing v i w (Parting v) (Parting i) n (r, w'))
    (hcount : w''.partingsRefused = w'.partingsRefused + 1) (hsame : w'.SameLive w'' []) :
    Standing v i w (Parting v) (Parting i) (n + 1) (r, w'') where
  vertices := hstand.vertices.of_live (hsame v List.not_mem_nil)
  indices := hstand.indices.of_live (hsame i List.not_mem_nil)
  count := hcount.trans (congrArg Nat.succ hstand.count)
  same := hstand.same.trans (hsame.mono (List.nil_subset _))

/-- The corners are unbound. -/
theorem unbind_vertices (hstand : Standing v i w (Holds v) (Holds i) n s) :
    (onVertices SyncedArray.unbind s).Ends (fun _ => Standing v i w (Holds v) (Holds i) n)
      (Standing v i w (Parting v) (Parting i) (n + 1)) fun _ => False := by
  refine Op.ends_focus (hstand.vertices.unbind_ends.mono ?_ ?_ fun _ hf => hf)
  · rintro _ ⟨a, w'⟩ ⟨rfl, hcount, hsame⟩
    exact hstand.unbound hcount hsame
  · rintro ⟨a, w'⟩ ⟨rfl, hcount, hsame⟩
    exact (hstand.mono (fun _ => .inl) fun _ => .inl).refused hcount hsame

/-- The triangles are unbound. -/
theorem unbind_indices (hstand : Standing v i w (Holds v) (Holds i) n s) :
    (onIndices SyncedArray.unbind s).Ends (fun _ => Standing v i w (Holds v) (Holds i) n)
      (Standing v i w (Parting v) (Parting i) (n + 1)) fun _ => False := by
  refine Op.ends_focus (hstand.indices.unbind_ends.mono ?_ ?_ fun _ hf => hf)
  · rintro _ ⟨a, w'⟩ ⟨rfl, hcount, hsame⟩
    exact hstand.unbound hcount hsame
  · rintro ⟨a, w'⟩ ⟨rfl, hcount, hsame⟩
    exact (hstand.mono (fun _ => .inl) fun _ => .inl).refused hcount hsame

/-- The corners are given back. -/
theorem dispose_vertices (hstand : Standing v i w (Holds v) (Holds i) n s) (hne : v ≠ i) :
    (onVertices SyncedArray.dispose s).Ends (fun _ => Standing v i w (Parted v) (Holds i) n)
      (Standing v i w (Parting v) (Parting i) (n + 1)) fun _ => False := by
  refine Op.ends_focus (hstand.vertices.dispose_ends.mono ?_ ?_ fun _ hf => hf)
  · rintro _ ⟨a, w'⟩ ⟨hparted, hcount, hsame⟩
    have hother := hsame i fun hm => hne (List.mem_singleton.mp hm).symm
    exact hstand.granted hparted (hstand.indices.of_live hother) hcount hsame (by simp)
  · rintro ⟨a, w'⟩ ⟨rfl, hcount, hsame⟩
    exact (hstand.mono (fun _ => .inl) fun _ => .inl).refused hcount hsame

/-- The triangles are given back. -/
theorem dispose_indices (hstand : Standing v i w (Parted v) (Holds i) n s) (hne : v ≠ i) :
    (onIndices SyncedArray.dispose s).Ends (fun _ => Standing v i w (Parted v) (Parted i) n)
      (Standing v i w (Parting v) (Parting i) (n + 1)) fun _ => False := by
  refine Op.ends_focus (hstand.indices.dispose_ends.mono ?_ ?_ fun _ hf => hf)
  · rintro _ ⟨a, w'⟩ ⟨hparted, hcount, hsame⟩
    have hother := hsame v fun hm => hne (List.mem_singleton.mp hm)
    exact hstand.granted (hstand.vertices.of_live hother) hparted hcount hsame (by simp)
  · rintro ⟨a, w'⟩ ⟨rfl, hcount, hsame⟩
    exact (hstand.mono (fun _ => .inr) fun _ => .inl).refused hcount hsame

/-- Both allocations are given back, or a request is refused on the way. -/
theorem release_ends (hstand : Standing v i w (Holds v) (Holds i) n s) (hne : v ≠ i) :
    (release s).Ends (fun _ => Standing v i w (Parted v) (Parted i) n)
      (Standing v i w (Parting v) (Parting i) (n + 1)) fun _ => False := by
  refine Op.ends_bind hstand.unbind_vertices fun _ _ hstand => ?_
  refine Op.ends_bind hstand.unbind_indices fun _ _ hstand => ?_
  refine Op.ends_bind (hstand.dispose_vertices hne) fun _ _ hstand => ?_
  exact hstand.dispose_indices hne

end Standing

/-- The drop of both arrays never fails, and if nothing is refused, both have parted from what they
had. -/
theorem drop_ends (hv : Parting v (r.vertices, w)) (hi : Parting i (r.indices, w)) (hne : v ≠ i) :
    (drop (r, w)).Ends
      (fun _ s => w.SameLive s.2 [v, i] ∧ (s.2.partingsRefused ≤ w.partingsRefused →
        Parted v (s.1.vertices, s.2) ∧ Parted i (s.1.indices, s.2)))
      (fun _ => False) fun _ => False := by
  have hfirst : (onVertices SyncedArray.drop (r, w)).Ends
      (fun _ s => (w.partingsRefused ≤ s.2.partingsRefused ∧
        (s.2.partingsRefused ≤ w.partingsRefused → Parted v (s.1.vertices, s.2)) ∧
        w.SameLive s.2 [v]) ∧ Parting i (s.1.indices, s.2))
      (fun _ => False) fun _ => False := by
    refine Op.ends_focus (hv.drop_ends.mono ?_ (fun _ hf => hf) fun _ hf => hf)
    rintro _ ⟨a, w'⟩ hp
    exact ⟨hp, hi.of_live (hp.2.2 i fun hm => hne (List.mem_singleton.mp hm).symm)⟩
  refine Op.ends_bind hfirst ?_
  rintro _ ⟨r', w'⟩ ⟨⟨hle, hparted, hsame⟩, hindices⟩
  refine Op.ends_focus (hindices.drop_ends.mono ?_ (fun _ hf => hf) fun _ hf => hf)
  rintro _ ⟨b, w''⟩ ⟨hle', hparted', hsame'⟩
  refine ⟨(hsame.mono (by simp)).trans (hsame'.mono (by simp)), fun hfew => ?_⟩
  have hvertices := hparted (Nat.le_trans hle' hfew)
  exact ⟨hvertices.of_live (hsame' v fun hm => hne (List.mem_singleton.mp hm)),
    hparted' (Nat.le_trans hfew hle)⟩

/-- Unless two requests were refused on the way from `w`, the allocations `v` and `i` are gone, and
no other is in any case. -/
structure Cleared (v i : Handle) (w w' : Warden) : Prop where
  /-- Other allocations are as before. -/
  same : w.SameLive w' [v, i]
  /-- The two are gone. -/
  gone : w'.partingsRefused ≤ w.partingsRefused + 1 → ¬ w'.Live v ∧ ¬ w'.Live i

/-- The end of a renderer: it ends well or with the error of the one request that was refused. -/
theorem dispose_ends (hv : Holds v (r.vertices, w)) (hi : Holds i (r.indices, w)) (hne : v ≠ i) :
    (dispose r w).Ends (fun _ => Cleared v i w) (Cleared v i w) fun _ => False := by
  have hstart : Standing v i w (Holds v) (Holds i) 0 (r, w) := ⟨hv, hi, rfl, fun _ _ => Iff.rfl⟩
  have hrelease := hstart.release_ends hne
  rcases hrun : release (r, w) with ⟨u | e | t, ⟨r', w'⟩, l⟩
  · rw [hrun] at hrelease
    -- Both arrays have parted from their allocations, so the drop that follows finds nothing.
    have hdrop := drop_of_released hrelease.vertices.released hrelease.indices.released w'
    have hall : (release.finishing drop >>= fun _ => drop) (r, w) =
        { outcome := .ok (), state := (r', w'), log := l ++ [] } := by
      rw [Op.bind_of_ok (Op.finishing_of_ok hrun _), hdrop]
      rfl
    have hdispose : dispose r w = _ := Op.bind_of_ok (Op.beside_of_eq hall) _
    rw [hdispose]
    exact ⟨hrelease.same, fun _ => ⟨hrelease.vertices.gone, hrelease.indices.gone⟩⟩
  · rw [hrun] at hrelease
    have hdrop := drop_ends hrelease.vertices hrelease.indices hne
    rcases hlast : drop (r', w') with ⟨u | e' | t, ⟨r'', w''⟩, l'⟩
    · rw [hlast] at hdrop
      obtain ⟨hsame, hparted⟩ := hdrop
      have hall : (release.finishing drop >>= fun _ => drop) (r, w) =
          { outcome := .error e, state := (r'', w''), log := l ++ l' } := by
        rw [Op.bind_of_error (Op.finishing_of_error hrun _), hlast]
      have hdispose : dispose r w = _ := Op.bind_of_error (Op.beside_of_eq hall) _
      rw [hdispose]
      refine ⟨hrelease.same.trans hsame, fun hfew => ?_⟩
      -- The one refusal that is allowed was met before the drop.
      obtain ⟨hvertices, hindices⟩ := hparted (hrelease.count ▸ hfew)
      exact ⟨hvertices.gone, hindices.gone⟩
    · rw [hlast] at hdrop
      exact False.elim hdrop
    · rw [hlast] at hdrop
      exact False.elim hdrop
  · rw [hrun] at hrelease
    exact False.elim hrelease

/-- The device is tended to the end. -/
theorem keeps_tended_dispose (r : Renderer) :
    (dispose r).Keeps (fun w : Warden => Warden.Tended d₀ w.inner) fun _ => True := by
  have hvertices {x : Op (SyncedArray FlatVertex.codec × Warden) Unit}
      (hx : SyncedArray.Sustains (fun p => Warden.Tended d₀ p.2.inner) x) :
      (onVertices x).Keeps (fun s => Warden.Tended d₀ s.2.inner) fun _ => True :=
    hx.focus (fun _ hs => hs) fun _ _ _ hp => hp
  have hindices {x : Op (SyncedArray Format.index16Codec × Warden) Unit}
      (hx : SyncedArray.Sustains (fun p => Warden.Tended d₀ p.2.inner) x) :
      (onIndices x).Keeps (fun s => Warden.Tended d₀ s.2.inner) fun _ => True :=
    hx.focus (fun _ hs => hs) fun _ _ _ hp => hp
  have hdrop : drop.Keeps (fun s : Renderer × Warden => Warden.Tended d₀ s.2.inner) fun _ => True :=
    (hvertices (Warden.steady_tended d₀).drop).bind fun _ =>
      hindices (Warden.steady_tended d₀).drop
  have hrelease : release.Keeps (fun s : Renderer × Warden => Warden.Tended d₀ s.2.inner)
      fun _ => True :=
    (hvertices (Warden.sustains_tended_unbind d₀)).bind fun _ =>
      (hindices (Warden.sustains_tended_unbind d₀)).bind fun _ =>
        (hvertices (Warden.steady_tended d₀).dispose).bind fun _ =>
          hindices (Warden.steady_tended d₀).dispose
  have hboth := (hrelease.finishing hdrop).bind fun _ => hdrop
  exact (Op.Keeps.beside (I := fun w : Warden => Warden.Tended d₀ w.inner) hboth r).bind fun _ =>
    Op.keeps_pure ()

end Renderer

/-! ## Renderers in service -/

/-- The renderer is on the allocations `v` and `i`, and the device has these two besides what it had
at `d₀`. -/
structure InService (d₀ : MemoryDevice) (v i : Handle) (s : Renderer × Warden) : Prop where
  /-- The corners. -/
  vertices : s.1.vertices.Lodged v
  /-- The triangles. -/
  indices : s.1.indices.Lodged i
  /-- The device. -/
  device : Warden.Hosting d₀ [i, v] s.2.inner

/-- Something that happens to a renderer and its device. -/
inductive Step where
  /-- A frame is drawn. -/
  | render (delta : Binary32)
  /-- A fault is armed. -/
  | arm (fault : MemoryDevice.Fault)
deriving DecidableEq, Repr

/-- Runs a step. -/
def Step.take : Step → Op (Renderer × Warden) Unit
  | .render delta => Renderer.render delta
  | .arm fault => Op.onSnd (Warden.pass (Op.update (MemoryDevice.armed fault)))

/-- The renderer and its device after these steps, whatever came of each of them. -/
def served (s : Renderer × Warden) (steps : List Step) : Renderer × Warden :=
  steps.foldl (fun s step => (step.take s).state) s

namespace InService

/-- A new renderer is in service. -/
theorem of_create {config : Config} {l : List Log.Entry} (hd : Warden.Tended w.inner w.inner)
    (hcreate : Renderer.create config w = { outcome := .ok r, state := w', log := l }) :
    ∃ v i, InService w.inner v i (r, w') := by
  have hvertexCodec : FlatVertex.codec.Lawful := Format.lawful .flatVertex
  have hindexCodec : Format.index16Codec.Lawful := Format.lawful .index16
  obtain ⟨v, i, w₁, lv, li, hfirst, hsecond, rfl⟩ := Renderer.exists_allocate_of_create hcreate
  have hvertices : (stocked Renderer.vertexConfig (quadVertices config.aspect) v :
      SyncedArray FlatVertex.codec).Lodged v :=
    SyncedArray.lodged_stocked hvertexCodec.sized (Nat.le_refl 4) (by decide)
  have hindices : (stocked Renderer.indexConfig quadIndices i :
      SyncedArray Format.index16Codec).Lodged i :=
    SyncedArray.lodged_stocked hindexCodec.sized (Nat.le_refl 6) (by decide)
  have hfirst := Warden.hosting_of_allocate (.start hd) hfirst
  exact ⟨v, i, hvertices, hindices, Warden.hosting_of_allocate hfirst hsecond⟩

/-- Whatever comes of a frame, the renderer stays in service. -/
theorem render (hs : InService d₀ v i (r, w)) (delta : Binary32) :
    InService d₀ v i (Renderer.render delta (r, w)).state := by
  obtain ⟨host, hhost, hloop⟩ := Renderer.recolor_loop
    (r := { r with elapsed := r.elapsed + delta }) hs.vertices.packed hs.vertices.handle
    (Nat.le_refl _) w
  have hrun : Renderer.render delta (r, w) = _ := Op.bind_of_ok hloop _
  have hrecolored : InService d₀ v i
      (Renderer.repainted { r with elapsed := r.elapsed + delta } host
        ((List.range r.vertices.host.count).foldl Marks.markIndex r.vertices.marks), w) := by
    refine ⟨⟨hhost.packed, hs.vertices.handle, hs.vertices.pending, ?_⟩, hs.indices, hs.device⟩
    have houtgrown := hs.vertices.outgrown
    rw [SyncedArray.outgrown, ← hhost.capacity] at houtgrown
    exact houtgrown
  have hbindings : (Renderer.onVertices SyncedArray.bind >>= fun _ =>
      Renderer.onIndices SyncedArray.bind).Keeps (InService d₀ v i) fun _ => True := by
    refine Op.Keeps.bind ?_ fun _ => ?_
    · refine Op.Keeps.focus (SyncedArray.sustains_bind_lodged Warden.keeps_hosting_upload
        Warden.keeps_hosting_bind) (fun s hs => ⟨hs.vertices, hs.device⟩) ?_
      exact fun s p hs hp => ⟨hp.1, hs.indices, hp.2⟩
    · refine Op.Keeps.focus (SyncedArray.sustains_bind_lodged Warden.keeps_hosting_upload
        Warden.keeps_hosting_bind) (fun s hs => ⟨hs.indices, hs.device⟩) ?_
      exact fun s p hs hp => ⟨hs.vertices, hp.1, hp.2⟩
  rw [hrun]
  exact (hbindings _ hrecolored).1

theorem take (hs : InService d₀ v i s) (step : Step) : InService d₀ v i (step.take s).state := by
  cases step with
  | render delta => exact hs.render delta
  | arm fault => exact ⟨hs.vertices, hs.indices, hs.device.of_disarmed_eq (by cases fault <;> rfl)⟩

theorem served (hs : InService d₀ v i s) (steps : List Step) :
    InService d₀ v i (served s steps) := by
  induction steps generalizing s with
  | nil => exact hs
  | cons step rest ih => exact ih (hs.take step)

theorem live_vertices (hs : InService d₀ v i s) : s.2.Live v :=
  (hs.device.live v).mpr (.inr (by simp))

theorem live_indices (hs : InService d₀ v i s) : s.2.Live i :=
  (hs.device.live i).mpr (.inr (by simp))

theorem distinct (hs : InService d₀ v i s) : v ≠ i := by
  rintro rfl
  exact (List.nodup_cons.mp hs.device.nodup).1 (List.mem_singleton_self _)

theorem dispose_ends (hs : InService d₀ v i (r, w)) :
    (Renderer.dispose r w).Ends (fun _ => Renderer.Cleared v i w) (Renderer.Cleared v i w)
      fun _ => False :=
  Renderer.dispose_ends ⟨hs.vertices.handle, hs.vertices.pending, hs.live_vertices⟩
    ⟨hs.indices.handle, hs.indices.pending, hs.live_indices⟩ hs.distinct

/-- When both allocations are gone, the device has what it had. -/
theorem contains_of_cleared (hs : InService d₀ v i (r, w)) (hcleared : Renderer.Cleared v i w w')
    (hv : ¬ w'.Live v) (hi : ¬ w'.Live i) (k : Handle) :
    w'.inner.table.contains k = d₀.table.contains k := by
  by_cases hk : k ∈ [v, i]
  · have hgone : ¬ w'.Live k := by
      rcases List.mem_pair.mp hk with rfl | rfl
      · exact hv
      · exact hi
    rw [hs.device.fresh k (List.mem_reverse.mpr hk)]
    exact Bool.eq_false_iff.mpr hgone
  · have hguest : k ∉ [i, v] := fun hm => hk (List.mem_reverse.mp hm)
    refine Bool.eq_iff_iff.mpr ((hcleared.same k hk).trans ?_)
    exact (hs.device.live k).trans (or_iff_left hguest)

end InService

/-- A renderer was made on a device that any calls had come to before.  Then frames were drawn; any
of them can have ended with an error, and faults can have been armed between them.  If from then on
at most one unbinding or release is refused, by the warden or by the device, the end of the renderer
takes everything of it from the device, whether it ends well or with an error: both allocations were
given back once, neither is live or active, and the live allocations are those from before the
renderer was made. -/
theorem teardown_leaves_nothing (earlier : List MemoryDevice.Call) (verdicts : List (Option Error))
    (config : Config) {r₀ r : Renderer} {w₀ w : Warden} {l : List Log.Entry}
    (hcreate : Renderer.create config { inner := .after {} earlier, verdicts } =
      { outcome := .ok r₀, state := w₀, log := l })
    (steps : List Step) (hserved : served (r₀, w₀) steps = (r, w))
    (hfew : (Renderer.dispose r w).state.partingsRefused ≤ w.partingsRefused + 1) :
    ∃ v i,
      (r₀.vertices.handle = some v ∧ r₀.indices.handle = some i ∧ v ≠ i) ∧
      (r.vertices.handle = some v ∧ r.indices.handle = some i) ∧
      (∀ t, (Renderer.dispose r w).outcome ≠ .trapped t) ∧
      (∀ h ∈ [v, i], Warden.Surrendered (.after {} earlier) (Renderer.dispose r w).state.inner h) ∧
      ∀ k, (Renderer.dispose r w).state.inner.table.contains k =
        (MemoryDevice.after {} earlier).table.contains k := by
  have hsound := (MemoryDevice.remembers_session earlier).sound
  have hactive := (MemoryDevice.activity_session earlier).live
  have hd : Warden.Tended (.after {} earlier) (.after {} earlier) := .refl hsound hactive
  obtain ⟨v, i, hfirst⟩ := InService.of_create hd hcreate
  have hs := hfirst.served steps
  rw [hserved] at hs
  have htended := (Renderer.keeps_tended_dispose r w (.refl hs.device.sound hs.device.active)).1
  have hends := hs.dispose_ends
  have hcleared : Renderer.Cleared v i w (Renderer.dispose r w).state :=
    (hends.mono (fun _ _ hc => hc) (fun _ hc => hc) fun _ hf => hf.elim).elim
  obtain ⟨hgonev, hgonei⟩ := hcleared.gone hfew
  have hv := hs.device.toTended.surrendered htended hs.live_vertices hgonev
  have hi := hs.device.toTended.surrendered htended hs.live_indices hgonei
  refine ⟨v, i, ⟨hfirst.vertices.handle, hfirst.indices.handle, hs.distinct⟩,
    ⟨hs.vertices.handle, hs.indices.handle⟩, fun t ht => hends.of_trapped ht, by simp [hv, hi], ?_⟩
  exact hs.contains_of_cleared hcleared hgonev hgonei

/-- A warden in front of a new device that turns the first upload of the triangles away. -/
def reluctant : Warden where
  inner := .after {} []
  verdicts := [none, none, none, none, some (.device "lost")]

/-- Two frames, of which the first ends with an error; the release that comes next is refused. -/
def troubled : List Step :=
  [.render .one, .render .one, .arm .release]

theorem teardown_leaves_nothing_troubled :
    ∃ r₀ w₀ l r w,
      Renderer.create {} reluctant = { outcome := .ok r₀, state := w₀, log := l } ∧
      ((Step.render .one).take (r₀, w₀)).outcome = .error (.device "lost") ∧
      served (r₀, w₀) troubled = (r, w) ∧
      (w.partingsRefused = 0 ∧ (Renderer.dispose r w).state.partingsRefused = 1) ∧
      (Renderer.dispose r w).outcome.isOk = false ∧
      ∀ h ∈ [vertexHandle, indexHandle],
        Warden.Surrendered {} (Renderer.dispose r w).state.inner h := by
  have hfirst : Device.allocate (Renderer.vertexConfig.capacity * FlatVertex.codec.size)
      Renderer.vertexConfig.usage reluctant =
        { outcome := .ok vertexHandle, state := _, log := _ } := rfl
  obtain ⟨l, hcreate⟩ := Renderer.create_of_allocate (i := indexHandle) hfirst rfl {}
  obtain ⟨v, i, ⟨hv, hi, -⟩, -, -, hgone, -⟩ :=
    teardown_leaves_nothing [] _ {} hcreate troubled rfl (by decide +kernel)
  cases hv
  cases hi
  refine ⟨_, _, l, _, _, hcreate, ?_, rfl, ?_, ?_, hgone⟩
  · decide +kernel
  · decide +kernel
  · decide +kernel

end Demo

end BufferSync
