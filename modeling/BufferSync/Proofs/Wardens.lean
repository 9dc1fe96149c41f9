import BufferSync.Proofs.ActiveAllocation
import BufferSync.Proofs.Upkeep
import Mathlib.Data.List.Nodup

/-!
# Wardens

A warden stands in front of the device in memory and decides about every single request: it is
passed on, or it is turned away with some error.  The decisions are laid down in advance as a list
of verdicts.  Nothing is asked of that list, so what holds for every list holds for every way of
deciding, also for one that looks at the requests.  The device can refuse as well, by the faults
that it is armed with.  The warden notes every request that was refused, whoever refused it.

*Requests.*  `asked` lists the ways in which a request can end.  A refused one leaves the device as
it was, faults aside; a granted one has the effect that it has on the device in memory.

*Records.*  What every request keeps is `Tended`: the device has recorded all that became of its
allocations, and what is active is live.  So an allocation that was live at one time and is not at
another was given back in between, once (`Tended.surrendered`).

*Guests.*  Allocations that came to a device stay until one of them is given back (`Hosting`).

*Parting.*  Unbindings and releases are the requests that end the use of an allocation.  Those that
are refused are counted (`partingsRefused`).
-/

namespace BufferSync

/-! ## Single requests to the device in memory -/

namespace MemoryDevice

variable {d d' : MemoryDevice} {answer : Device.Answer} {event : Device.Event}

theorem table_of_disarmed_eq (hsame : d'.disarmed = d.disarmed) : d'.table = d.table := by
  have htable : d'.disarmed.table = d.disarmed.table := by rw [hsame]
  exact htable

theorem Granted.table_of_unbind {usage : Usage}
    (hgranted : Granted d (.unbind usage) answer event d') : d'.table = d.table := by
  cases hgranted with
  | unbind usage => rfl

theorem Granted.contains_of_release {h : Handle} (hgranted : Granted d (.release h) answer event d')
    (k : Handle) : d'.table.contains k = true ↔ d.table.contains k = true ∧ k ≠ h := by
  cases hgranted with
  | release known =>
    obtain ⟨a, ha⟩ := HandleTable.contains_iff.mp known
    rw [HandleTable.contains, HandleTable.contains, find?_released ha]
    split
    next heq => simp [heq]
    next hne => simp [hne]

end MemoryDevice

namespace Device

/-- The releases of an allocation among the records are those of its handle. -/
theorem count_released (es : List Event) (h : Handle) :
    es.count (.released h) = (gone es).count h := by
  rw [gone, List.count_filterMap, List.count]
  refine List.countP_congr fun e _ => ?_
  cases e <;> simp [Event.gone?]

end Device

/-! ## Wardens -/

/-- A device in memory whose requests can be turned away. -/
structure Warden where
  /-- The device. -/
  inner : MemoryDevice
  /-- What to do with the coming requests, first one first: an error if it is to be turned away.
  Requests behind the last verdict are passed on. -/
  verdicts : List (Option Error) := []
  /-- The requests refused so far, last one first. -/
  refused : List Device.Request := []
deriving DecidableEq, Repr

namespace Warden

variable {α : Type}

/-- Runs an operation on the device behind the warden. -/
def pass (x : Op MemoryDevice α) : Op Warden α :=
  Op.focus Warden.inner (fun d w => { w with inner := d }) x

/-- Takes the next verdict and passes the request on or turns it away.  A refusal is noted. -/
def ask (r : Device.Request) (x : Op MemoryDevice α) : Op Warden α := do
  let w ← Op.state
  Op.update fun w => { w with verdicts := w.verdicts.tail }
  (match w.verdicts.head?.join with
    | some e => Op.fail e
    | none => pass x).undoing
      (Op.update fun w => { w with refused := r :: w.refused })

end Warden

instance : Device Warden where
  allocate size usage := Warden.ask (.allocate size usage) (Device.allocate size usage)
  upload h offset bytes := Warden.ask (.upload h offset bytes) (Device.upload h offset bytes)
  bind h := Warden.ask (.bind h) (Device.bind h)
  unbind usage := Warden.ask (.unbind usage) (Device.unbind usage)
  release h := Warden.ask (.release h) (Device.release h)

namespace Warden

variable {α : Type} {w : Warden} {r : Device.Request} {x : Op MemoryDevice α}
  {answer : α → Device.Answer} {d₀ d d' : MemoryDevice} {h : Handle}
  {hs : List Handle}

open Device (made gone)
open MemoryDevice (Granted)

/-! ## How a request ends -/

/-- The run of the request: refused and noted, granted, or the breakdown of an allocation. -/
inductive Asked (w : Warden) (r : Device.Request) (answer : α → Device.Answer) :
    Run Warden α → Prop
  /-- It is turned away, or the device refuses it. -/
  | refused {e : Error} {w' : Warden} {l : List Log.Entry} (noted : w'.refused = r :: w.refused)
      (same : w'.inner.disarmed = w.inner.disarmed) :
      Asked w r answer { outcome := .error e, state := w', log := l }
  /-- It is granted. -/
  | granted {v : α} {event : Device.Event} {w' : Warden} {l : List Log.Entry}
      (noted : w'.refused = w.refused) (granted : Granted w.inner r (answer v) event w'.inner) :
      Asked w r answer { outcome := .ok v, state := w', log := l }
  /-- The allocation is too large. -/
  | trapped {t : Trap} {size : Nat} {usage : Usage} {w' : Warden} {l : List Log.Entry}
      (noted : w'.refused = w.refused) (same : w'.inner = w.inner)
      (asked : r = .allocate size usage) :
      Asked w r answer { outcome := .trapped t, state := w', log := l }

theorem asked (hr : Device.perform r = x >>= fun v => pure (answer v)) (w : Warden) :
    Asked w r answer (ask r x w) := by
  rw [ask, Op.state_bind, Op.update_bind]
  cases w.verdicts.head?.join with
  | some e => exact .refused rfl rfl
  | none =>
    have hserved := MemoryDevice.served r w.inner
    rw [hr, Op.map_apply] at hserved
    have hpass : pass x { w with verdicts := w.verdicts.tail } =
        { outcome := (x w.inner).outcome
          state := { w with verdicts := w.verdicts.tail, inner := (x w.inner).state }
          log := (x w.inner).log } := rfl
    rcases hx : x w.inner with ⟨v | e | t, d, l⟩
    all_goals
      rw [hx] at hserved hpass
      simp only [Outcome.map] at hserved
    · cases hserved with
      | granted hgranted =>
        rw [Op.undoing_of_ok hpass]
        exact .granted rfl hgranted
    · cases hserved with
      | refused same =>
        rw [Op.undoing_of_error hpass]
        exact .refused rfl same
    · cases hserved with
      | trapped asked excess =>
        rw [Op.undoing_of_trapped hpass]
        exact .trapped rfl rfl asked

/-- A request keeps a property of the device that refusals keep and that its effect keeps. -/
theorem keeps_ask {J : MemoryDevice → Prop} (hr : Device.perform r = x >>= fun v => pure (answer v))
    (hrefused : ∀ d d', d'.disarmed = d.disarmed → J d → J d')
    (hgranted : ∀ d d' answer event, Granted d r answer event d' → J d → J d') :
    (ask r x).Keeps (fun w => J w.inner) fun _ => True := by
  intro w hw
  refine ⟨?_, fun _ _ => trivial⟩
  have hasked := asked hr w
  generalize ask r x w = run at hasked
  cases hasked with
  | refused noted same => exact hrefused _ _ same hw
  | granted noted granted => exact hgranted _ _ _ _ granted hw
  | trapped noted same asked =>
    change J _
    rw [same]
    exact hw

/-! ## What every request keeps -/

/-- On the way from `d₀` the device has recorded what became of its allocations, and what is active
now is live. -/
structure Tended (d₀ d : MemoryDevice) : Prop where
  /-- The records tell which allocations were made and which were given back. -/
  recorded : ∃ new, Recorded { inner := d₀ } { inner := d } new
  /-- The active allocation is live. -/
  active : ∀ h, d.bound = some h → d.table.contains h = true

namespace Tended

theorem refl (hd : d.table.Sound) (hactive : ∀ h, d.bound = some h → d.table.contains h = true) :
    Tended d d :=
  ⟨⟨[], .refl hd⟩, hactive⟩

theorem sound (ht : Tended d₀ d) : d.table.Sound := by
  obtain ⟨new, hnew⟩ := ht.recorded
  exact hnew.sound

/-- A refusal is not recorded. -/
theorem of_disarmed_eq (ht : Tended d₀ d) (hsame : d'.disarmed = d.disarmed) : Tended d₀ d' := by
  obtain ⟨new, hnew⟩ := ht.recorded
  have htable : d'.table = d.table := MemoryDevice.table_of_disarmed_eq hsame
  have hbound : d'.disarmed.bound = d.disarmed.bound := by rw [hsame]
  refine ⟨⟨_, hnew.trans (.of_disarmed_eq hnew.sound hsame)⟩, ?_⟩
  intro h hb
  rw [htable]
  exact ht.active h (hbound.symm.trans hb)

/-- What a granted request makes active is live, and it gives nothing back that stays active. -/
theorem granted (ht : Tended d₀ d) {answer : Device.Answer} {event : Device.Event}
    (hgranted : Granted d r answer event d') : Tended d₀ d' := by
  obtain ⟨new, hnew⟩ := ht.recorded
  have hlast := Recorded.of_granted (g := { inner := d }) hnew.sound hgranted
  refine ⟨⟨_, hnew.trans hlast⟩, ?_⟩
  intro h hb
  refine (hlast.live h).mpr ?_
  cases hgranted with
  | allocate usage room => exact ⟨.inl (ht.active h hb), List.not_mem_nil⟩
  | upload known room => exact ⟨.inl (ht.active h hb), List.not_mem_nil⟩
  | bind known =>
    obtain rfl := Option.some.inj hb
    exact ⟨.inl known, List.not_mem_nil⟩
  | unbind usage =>
    exact ⟨.inl (ht.active h (MemoryDevice.bound_unboundFrom_iff.mp hb).1), List.not_mem_nil⟩
  | release known =>
    obtain ⟨hold, hne⟩ := MemoryDevice.bound_released_iff.mp hb
    refine ⟨.inl (ht.active h hold), ?_⟩
    intro hgone
    exact hne (List.mem_singleton.mp hgone).symm

end Tended

/-- Every request keeps a device tended. -/
theorem keeps_tended (hr : Device.perform r = x >>= fun v => pure (answer v)) :
    (ask r x).Keeps (fun w => Tended d₀ w.inner) fun _ => True :=
  keeps_ask hr (fun _ _ hsame ht => ht.of_disarmed_eq hsame) fun _ _ _ _ hgranted ht =>
    ht.granted hgranted

/-- So do the operations of a synced array. -/
theorem steady_tended {c : Codec α} {live : Prop} (d₀ : MemoryDevice) :
    SyncedArray.Steady live fun p : SyncedArray c × Warden => Tended d₀ p.2.inner where
  change _ _ _ _ hp := hp
  allocate _ _ := SyncedArray.sustains_onDevice (keeps_tended rfl)
  upload _ _ _ := SyncedArray.sustains_onDevice (keeps_tended rfl)
  release _ := SyncedArray.sustains_onDevice (keeps_tended rfl)

theorem sustains_tended_unbind {c : Codec α} (d₀ : MemoryDevice) :
    SyncedArray.Sustains (fun p : SyncedArray c × Warden => Tended d₀ p.2.inner)
      SyncedArray.unbind :=
  SyncedArray.sustains_unbind fun _ => SyncedArray.sustains_onDevice (keeps_tended rfl)

/-! ## Guests -/

/-- Since `d₀` the device was tended, and the allocations `hs` have come to those that were live. -/
structure Hosting (d₀ : MemoryDevice) (hs : List Handle) (d : MemoryDevice) : Prop
    extends Tended d₀ d where
  /-- What is live. -/
  live : ∀ k, d.table.contains k = true ↔ d₀.table.contains k = true ∨ k ∈ hs
  /-- The handles of the guests are new. -/
  fresh : ∀ h ∈ hs, d₀.table.contains h = false
  /-- No two guests have the same handle. -/
  nodup : hs.Nodup

namespace Hosting

theorem start (ht : Tended d₀ d₀) : Hosting d₀ [] d₀ :=
  ⟨ht, fun _ => (or_iff_left List.not_mem_nil).symm, fun _ hm => absurd hm List.not_mem_nil,
    List.nodup_nil⟩

theorem of_disarmed_eq (hh : Hosting d₀ hs d) (hsame : d'.disarmed = d.disarmed) :
    Hosting d₀ hs d' :=
  { hh with
    toTended := hh.toTended.of_disarmed_eq hsame
    live := MemoryDevice.table_of_disarmed_eq hsame ▸ hh.live }

/-- A granted request that neither makes an allocation nor gives one back. -/
theorem granted (hh : Hosting d₀ hs d) {answer : Device.Answer} {event : Device.Event}
    (hgranted : Granted d r answer event d') (hmade : made [event] = [])
    (hgone : gone [event] = []) : Hosting d₀ hs d' where
  toTended := hh.toTended.granted hgranted
  live k := by
    have hlive := (Recorded.of_granted (g := { inner := d }) hh.sound hgranted).live k
    rw [hmade, hgone, or_iff_left List.not_mem_nil, and_iff_left List.not_mem_nil] at hlive
    exact hlive.trans (hh.live k)
  fresh := hh.fresh
  nodup := hh.nodup

/-- A granted allocation comes to the others. -/
theorem allocated (hh : Hosting d₀ hs d) {size : Nat} {usage : Usage} {event : Device.Event}
    (hgranted : Granted d (.allocate size usage) (.handle h) event d') :
    Hosting d₀ (h :: hs) d' := by
  have htended := hh.toTended.granted hgranted
  have hrecorded := Recorded.of_granted (g := { inner := d }) hh.sound hgranted
  cases hgranted with
  | allocate usage room =>
    have hnew : ¬ d.table.contains d.table.nextHandle = true := by
      intro hlive
      have hissued := Gate.Live.issued (g := { inner := d }) hlive
      exact hrecorded.made_fresh _ (List.mem_singleton_self _) hissued
    rw [hh.live, not_or] at hnew
    refine ⟨htended, fun k => ?_, ?_, List.nodup_cons.mpr ⟨hnew.2, hh.nodup⟩⟩
    · have hmade : k ∈ made [.allocated d.table.nextHandle size] ↔ k = d.table.nextHandle :=
        List.mem_singleton
      have hgone : k ∉ gone [.allocated d.table.nextHandle size] := List.not_mem_nil
      have hlive := hrecorded.live k
      rw [hmade, and_iff_left hgone] at hlive
      rw [List.mem_cons, or_left_comm, ← hh.live k, or_comm]
      exact hlive
    · rintro k hk
      rcases List.mem_cons.mp hk with rfl | hk
      · exact Bool.eq_false_iff.mpr hnew.1
      · exact hh.fresh k hk

end Hosting

/-- A request that is neither an allocation nor a release keeps the guests. -/
theorem keeps_hosting (hr : Device.perform r = x >>= fun v => pure (answer v))
    (hquiet : ∀ d d' answer event, Granted d r answer event d' →
      made [event] = [] ∧ gone [event] = []) :
    (ask r x).Keeps (fun w => Hosting d₀ hs w.inner) fun _ => True :=
  keeps_ask hr (fun _ _ hsame hh => hh.of_disarmed_eq hsame) fun _ _ _ _ hgranted hh =>
    hh.granted hgranted (hquiet _ _ _ _ hgranted).1 (hquiet _ _ _ _ hgranted).2

theorem keeps_hosting_upload (h : Handle) (offset : Nat) (bytes : Bytes) :
    (Device.upload h offset bytes).Keeps (fun w : Warden => Hosting d₀ hs w.inner)
      fun _ => True := by
  refine keeps_hosting rfl ?_
  rintro d d' answer event ⟨⟩
  exact ⟨rfl, rfl⟩

theorem keeps_hosting_bind (h : Handle) :
    (Device.bind h).Keeps (fun w : Warden => Hosting d₀ hs w.inner) fun _ => True := by
  refine keeps_hosting rfl ?_
  rintro d d' answer event ⟨⟩
  exact ⟨rfl, rfl⟩

/-- An allocation that is made comes to the guests. -/
theorem hosting_of_allocate {size : Nat} {usage : Usage} {w' : Warden} {l : List Log.Entry}
    (hh : Hosting d₀ hs w.inner)
    (hrun : Device.allocate size usage w = { outcome := .ok h, state := w', log := l }) :
    Hosting d₀ (h :: hs) w'.inner := by
  have hasked : Asked w (.allocate size usage) Device.Answer.handle
      (Device.allocate size usage w) := asked rfl w
  rw [hrun] at hasked
  cases hasked with
  | granted noted granted => exact hh.allocated granted

/-! ## Parting with an allocation -/

/-- The device knows the handle. -/
def Live (w : Warden) (h : Handle) : Prop :=
  w.inner.table.contains h = true

/-- The same allocations are live, those of `hs` aside. -/
def SameLive (w w' : Warden) (hs : List Handle) : Prop :=
  ∀ k, k ∉ hs → (w'.Live k ↔ w.Live k)

theorem SameLive.mono {w' : Warden} {hs' : List Handle} (hsame : w.SameLive w' hs)
    (hsub : hs ⊆ hs') : w.SameLive w' hs' :=
  fun k hk => hsame k fun hm => hk (hsub hm)

theorem SameLive.trans {w' w'' : Warden} (hfirst : w.SameLive w' hs) (hnext : w'.SameLive w'' hs) :
    w.SameLive w'' hs :=
  fun k hk => (hnext k hk).trans (hfirst k hk)

/-- Whether the request is an unbinding or a release. -/
def isParting : Device.Request → Bool
  | .unbind _ | .release _ => true
  | _ => false

/-- How many unbindings and releases were refused so far. -/
def partingsRefused (w : Warden) : Nat :=
  w.refused.countP isParting

/-- A refused parting counts, and makes no difference otherwise. -/
theorem of_parting_refused {w' : Warden} (hr : isParting r = true)
    (hnoted : w'.refused = r :: w.refused) (hsame : w'.inner.disarmed = w.inner.disarmed) :
    w'.partingsRefused = w.partingsRefused + 1 ∧ w.SameLive w' [] := by
  refine ⟨?_, fun k _ => ?_⟩
  · rw [partingsRefused, hnoted, List.countP_cons_of_pos hr]
    rfl
  · rw [Live, Live, MemoryDevice.table_of_disarmed_eq hsame]

/-- An unbinding is refused or granted; it makes no difference to allocations. -/
theorem unbind_ends (w : Warden) (usage : Usage) :
    (Device.unbind usage w).Ends
      (fun _ w' => w'.partingsRefused = w.partingsRefused ∧ w.SameLive w' [])
      (fun w' => w'.partingsRefused = w.partingsRefused + 1 ∧ w.SameLive w' [])
      fun _ => False := by
  have hasked : Asked w (.unbind usage) _ (Device.unbind usage w) := asked rfl w
  generalize Device.unbind usage w = run at hasked
  cases hasked with
  | refused noted same => exact Run.ends_error (of_parting_refused rfl noted same)
  | granted noted granted =>
    have htable := granted.table_of_unbind
    refine Run.ends_ok ⟨by rw [partingsRefused, noted, partingsRefused], fun k _ => ?_⟩
    rw [Live, Live, htable]
  | trapped noted same asked => cases asked

/-- A release is refused, or granted: then that allocation is live no more. -/
theorem release_ends (w : Warden) (h : Handle) :
    (Device.release h w).Ends
      (fun _ w' => w'.partingsRefused = w.partingsRefused ∧ ¬ w'.Live h ∧ w.SameLive w' [h])
      (fun w' => w'.partingsRefused = w.partingsRefused + 1 ∧ w.SameLive w' [])
      fun _ => False := by
  have hasked : Asked w (.release h) _ (Device.release h w) := asked rfl w
  generalize Device.release h w = run at hasked
  cases hasked with
  | refused noted same => exact Run.ends_error (of_parting_refused rfl noted same)
  | granted noted granted =>
    have hlive := granted.contains_of_release
    refine Run.ends_ok ⟨by rw [partingsRefused, noted, partingsRefused], ?_, fun k hk => ?_⟩
    · rw [Live, hlive]
      exact fun hk => hk.2 rfl
    · rw [Live, Live, hlive]
      exact and_iff_left fun heq => hk (List.mem_singleton.mpr heq)
  | trapped noted same asked => cases asked

/-! ## What was given back -/

/-- On the way from `d₀` the allocation was given back, just once, and it is neither live nor
active. -/
structure Surrendered (d₀ d : MemoryDevice) (h : Handle) : Prop where
  /-- It was given back once. -/
  once : ∃ new, d.events = d₀.events ++ new ∧ new.count (.released h) = 1
  /-- It is not live. -/
  gone : d.table.contains h = false
  /-- It is not active. -/
  inactive : d.bound ≠ some h

/-- An allocation that was live in between and is live no more was given back, once. -/
theorem Tended.surrendered (ht : Tended d₀ d) (ht' : Tended d d')
    (hbefore : d.table.contains h = true) (hafter : ¬ d'.table.contains h = true) :
    Surrendered d₀ d' h where
  once := by
    obtain ⟨early, hearly⟩ := ht.recorded
    obtain ⟨late, hlate⟩ := ht'.recorded
    have hall := hearly.trans hlate
    have hgone : h ∈ gone late := by
      by_contra hkept
      exact hafter ((hlate.live h).mpr ⟨.inl hbefore, hkept⟩)
    refine ⟨early ++ late, hall.events, ?_⟩
    rw [Device.count_released]
    refine List.count_eq_one_of_mem hall.gone_nodup ?_
    rw [Device.gone_append]
    exact List.mem_append_right _ hgone
  gone := Bool.eq_false_iff.mpr hafter
  inactive hb := hafter (ht'.active h hb)

end Warden

end BufferSync
