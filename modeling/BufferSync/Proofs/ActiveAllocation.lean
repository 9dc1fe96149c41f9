import BufferSync.Proofs.Contents

/-!
# The active allocation

At most one allocation of a device is active.  Which one it is follows from the session alone: the
one of the last binding that ended well, unless it was given back since then, or the usage that it
was made for was unbound.

*Steps.*  `bound_serve_iff` says of one call, on any device, what is active behind it.  Whether an
unbinding concerns the active allocation is looked up among the live allocations, so an allocation
that stayed active without being live could never be unbound.

*Sessions.*  This does not happen: `Activity` says that what is active is live, and that it is what
the session tells.  Every call keeps it.
-/

namespace BufferSync.MemoryDevice

variable {d d' : MemoryDevice} {h k : Handle} {xs : List Exchange} {x : Exchange} {usage : Usage}

/-! ## What a session tells -/

/-- The handle that a binding made the active one. -/
def Exchange.activated? (x : Exchange) : Option Handle :=
  match x.call, x.outcome with
  | .request (.bind h), .ok _ => some h
  | _, _ => none

/-- The usage that was unbound. -/
def Exchange.unbound? (x : Exchange) : Option Usage :=
  match x.call, x.outcome with
  | .request (.unbind usage), .ok _ => some usage
  | _, _ => none

/-- The last binding that ended well was one of `h`, which an allocation of this usage had returned.
Since then `h` was not given back, and the usage was not unbound. -/
def StillBound (xs : List Exchange) (h : Handle) (usage : Usage) : Prop :=
  ∃ earlier x later, xs = earlier ++ x :: later ∧ x.activated? = some h ∧
    (∃ size, Made earlier h size usage) ∧
    ∀ y ∈ later, y.activated? = none ∧ y.givenBack? ≠ some h ∧ y.unbound? ≠ some usage

/-- A place in a list with one more member at its end is that end, or it is a place in the list. -/
theorem concat_split {α : Type} {l earlier later : List α} {last a : α}
    (hsplit : l ++ [last] = earlier ++ a :: later) :
    l = earlier ∧ last = a ∨
      ∃ between, later = between ++ [last] ∧ l = earlier ++ a :: between := by
  rcases List.eq_nil_or_concat later with rfl | ⟨between, b, rfl⟩
  · obtain ⟨hl, hlast⟩ := List.append_inj' hsplit rfl
    exact .inl ⟨hl, List.singleton_inj.mp hlast⟩
  · have hends : l ++ [last] = (earlier ++ a :: between) ++ [b] := by simpa using hsplit
    obtain ⟨hl, hlast⟩ := List.append_inj' hends rfl
    obtain rfl := List.singleton_inj.mp hlast
    exact .inr ⟨between, List.concat_eq_append, hl⟩

theorem not_stillBound_nil : ¬ StillBound [] h usage := by
  rintro ⟨earlier, x, later, hsplit, -⟩
  simp at hsplit

/-- A call that binds is the last binding. -/
theorem stillBound_concat_of_some (hx : x.activated? = some k) :
    StillBound (xs ++ [x]) h usage ↔ k = h ∧ ∃ size, Made xs h size usage := by
  constructor
  · rintro ⟨earlier, y, later, hsplit, hy, hmade, hlater⟩
    obtain ⟨rfl, rfl⟩ | ⟨between, rfl, -⟩ := concat_split hsplit
    · exact ⟨Option.some.inj (hx.symm.trans hy), hmade⟩
    · have hnone := (hlater x (by simp)).1
      rw [hx] at hnone
      cases hnone
  · rintro ⟨rfl, hmade⟩
    exact ⟨xs, x, [], rfl, hx, hmade, by simp⟩

/-- A call that binds nothing leaves the last binding where it was. -/
theorem stillBound_concat_of_none (hx : x.activated? = none) :
    StillBound (xs ++ [x]) h usage ↔
      StillBound xs h usage ∧ x.givenBack? ≠ some h ∧ x.unbound? ≠ some usage := by
  constructor
  · rintro ⟨earlier, y, later, hsplit, hy, hmade, hlater⟩
    obtain ⟨-, rfl⟩ | ⟨between, rfl, rfl⟩ := concat_split hsplit
    · rw [hx] at hy
      cases hy
    · refine ⟨⟨earlier, y, between, rfl, hy, hmade, ?_⟩, (hlater x (by simp)).2⟩
      intro z hz
      exact hlater z (List.mem_append_left _ hz)
  · rintro ⟨⟨earlier, y, later, rfl, hy, hmade, hlater⟩, hspared⟩
    refine ⟨earlier, y, later ++ [x], by simp, hy, hmade, ?_⟩
    intro z hz
    rcases List.mem_append.mp hz with hz | hz
    · exact hlater z hz
    · obtain rfl := List.mem_singleton.mp hz
      exact ⟨hx, hspared⟩

theorem StillBound.made (hb : StillBound xs h usage) : ∃ size, Made xs h size usage := by
  obtain ⟨earlier, x, later, rfl, -, ⟨size, y, hy, hmade⟩, -⟩ := hb
  exact ⟨size, y, List.mem_append_left _ hy, hmade⟩

theorem activated?_eq_some_iff :
    x.activated? = some h ↔ x.call = .request (.bind h) ∧ x.outcome.isOk = true := by
  rcases x with ⟨call, outcome, left⟩
  constructor
  · intro hx
    unfold Exchange.activated? at hx
    split at hx
    next k answer hcall houtcome =>
      cases hx
      exact ⟨hcall, by rw [houtcome]; rfl⟩
    next => cases hx
  · rintro ⟨hcall, hok⟩
    obtain ⟨answer, houtcome⟩ := Outcome.exists_of_isOk hok
    rw [Exchange.activated?, hcall, houtcome]

/-! ## One call -/

theorem bound_unboundFrom_iff :
    (d.unboundFrom usage).bound = some h ↔ d.bound = some h ∧ d.usage? h ≠ some usage := by
  simp only [unboundFrom, record]
  cases hb : d.bound with
  | none => simp
  | some k =>
    by_cases hk : d.usage? k = some usage
    · simp only [Option.bind_some, hk, if_true, Option.some.injEq]
      constructor
      · intro hnone
        cases hnone
      · rintro ⟨rfl, hne⟩
        exact absurd hk hne
    · simp only [Option.bind_some, hk, if_false, Option.some.injEq]
      constructor
      · rintro rfl
        exact ⟨rfl, hk⟩
      · exact And.left

theorem bound_released_iff : (d.released k).bound = some h ↔ d.bound = some h ∧ k ≠ h := by
  simp only [released, record]
  split
  next hk => simp [hk]
  next hk =>
    constructor
    · intro hb
      exact ⟨hb, fun heq => hk (heq ▸ hb)⟩
    · exact And.left

/-- What makes `h` active behind the exchange `x` with the device `d`: it was bound, or it was
active and was neither given back nor unbound. -/
def Stays (d : MemoryDevice) (x : Exchange) (h : Handle) : Prop :=
  x.activated? = some h ∨
    x.activated? = none ∧ d.bound = some h ∧ x.givenBack? ≠ some h ∧
      ∀ usage, x.unbound? = some usage → d.usage? h ≠ some usage

/-- A call that binds nothing and does not concern what is active. -/
theorem stays_of_spared (hactivated : x.activated? = none)
    (hback : d.bound = some h → x.givenBack? ≠ some h)
    (hunbound : d.bound = some h → ∀ usage, x.unbound? = some usage → d.usage? h ≠ some usage) :
    Stays d x h ↔ d.bound = some h := by
  constructor
  · rintro (hx | ⟨-, hb, -⟩)
    · rw [hactivated] at hx
      cases hx
    · exact hb
  · intro hb
    exact .inr ⟨hactivated, hb, hback hb, hunbound hb⟩

/-- A call that tells nothing of bindings. -/
theorem stays_of_quiet (hactivated : x.activated? = none) (hback : x.givenBack? = none)
    (hunbound : x.unbound? = none) : Stays d x h ↔ d.bound = some h :=
  stays_of_spared hactivated (by simp [hback]) (by simp [hunbound])

theorem bound_iff_of_quiet (hbound : d'.bound = d.bound) (hactivated : x.activated? = none)
    (hback : x.givenBack? = none) (hunbound : x.unbound? = none) :
    d'.bound = some h ↔ Stays d x h := by
  rw [hbound, stays_of_quiet hactivated hback hunbound]

/-- What is active behind a call. -/
theorem bound_serve_iff (call : Call) (d : MemoryDevice) (h : Handle) :
    (serve call d).state.bound = some h ↔ Stays d (exchange d call) h := by
  rw [exchange]
  cases call with
  | request r =>
    have hserved := served r d
    rw [serve]
    generalize Device.perform r d = run at hserved
    cases hserved with
    | granted hgranted =>
      cases hgranted with
      | allocate usage room => exact bound_iff_of_quiet rfl rfl rfl rfl
      | upload known room => exact bound_iff_of_quiet rfl rfl rfl rfl
      | bind known => simp [Stays, Exchange.activated?, boundTo, record]
      | unbind usage =>
        simp [Stays, Exchange.activated?, Exchange.givenBack?, Exchange.unbound?,
          bound_unboundFrom_iff]
      | release known =>
        simp [Stays, Exchange.activated?, Exchange.givenBack?, Exchange.unbound?,
          bound_released_iff]
    | refused same =>
      have hbound := congrArg MemoryDevice.bound same
      cases r <;> exact bound_iff_of_quiet hbound rfl rfl rfl
    | trapped asked excess =>
      cases r <;> exact bound_iff_of_quiet rfl rfl rfl rfl
  | arm fault =>
    cases fault <;> exact bound_iff_of_quiet rfl rfl rfl rfl
  | forgetEvents => exact bound_iff_of_quiet rfl rfl rfl rfl

/-- Only a live allocation is bound. -/
theorem contains_of_activated {call : Call} (hx : (exchange d call).activated? = some h) :
    d.table.contains h = true := by
  obtain ⟨rfl, hok⟩ := activated?_eq_some_iff.mp hx
  cases hk : d.table.contains h with
  | true => rfl
  | false =>
    rw [exchange, serve, perform_of_eq rfl (bind_of_unknown hk)] at hok
    cases hok

/-- What is live stays live until it is given back. -/
theorem contains_serve (hd : d.table.Sound) {call : Call} (hk : d.table.contains h = true)
    (hback : (exchange d call).givenBack? ≠ some h) :
    (serve call d).state.table.contains h = true := by
  obtain ⟨new, hnew, hhandles⟩ := exists_chronicle_serve hd call
  refine (hnew.live h).mpr ⟨.inl hk, ?_⟩
  rw [(hhandles (serve call d).state.disarmed).2, Option.mem_toList]
  exact hback

/-! ## Sessions -/

/-- What is active is live, and it is what the session tells. -/
structure Activity (d : MemoryDevice) (xs : List Exchange) : Prop where
  /-- The active allocation is live. -/
  live : ∀ h, d.bound = some h → d.table.contains h = true
  /-- It is the one bound last, neither given back nor unbound since then. -/
  bound_iff : ∀ h, d.bound = some h ↔ ∃ usage, StillBound xs h usage

theorem activity_empty : Activity {} [] where
  live h hb := by cases hb
  bound_iff h := by
    constructor
    · intro hb
      cases hb
    · rintro ⟨usage, hs⟩
      exact absurd hs not_stillBound_nil

/-- The device knows the active allocation under the usage that the session tells. -/
theorem Activity.usage?_eq (ha : Activity d xs) (hr : Remembers d xs)
    (hlive : ∀ h, d.table.contains h = true ↔ h ∈ returned xs ∧ h ∉ givenBack xs)
    (hs : StillBound xs h usage) : d.usage? h = some usage := by
  have hknown := ha.live h ((ha.bound_iff h).mpr ⟨usage, hs⟩)
  obtain ⟨size, hmade⟩ := hs.made
  have hheld := hr.held h size usage hmade ((hlive h).mp hknown).2
  rw [usage?, hheld.found]
  rfl

/-- One call. -/
theorem Activity.serve (ha : Activity d xs) (hr : Remembers d xs)
    (hlive : ∀ h, d.table.contains h = true ↔ h ∈ returned xs ∧ h ∉ givenBack xs) (call : Call) :
    Activity (serve call d).state (xs ++ [exchange d call]) where
  live h hb := by
    rcases (bound_serve_iff call d h).mp hb with hx | ⟨-, hold, hback, -⟩
    · have hback : (exchange d call).givenBack? ≠ some h := by
        obtain ⟨rfl, -⟩ := activated?_eq_some_iff.mp hx
        simp [exchange, Exchange.givenBack?]
      exact contains_serve hr.sound (contains_of_activated hx) hback
    · exact contains_serve hr.sound (ha.live h hold) hback
  bound_iff h := by
    rw [bound_serve_iff, Stays]
    cases hx : (exchange d call).activated? with
    | some k =>
      -- only what is live is bound, so an allocation of the session returned it
      obtain ⟨size, usage, hmade⟩ :=
        mem_returned_iff.mp ((hlive k).mp (contains_of_activated hx)).1
      simp only [stillBound_concat_of_some hx, Option.some.injEq, reduceCtorEq, false_and, or_false]
      constructor
      · rintro rfl
        exact ⟨usage, rfl, size, hmade⟩
      · rintro ⟨-, rfl, -⟩
        rfl
    | none =>
      -- the device and the session agree on the usage of what is active
      simp only [stillBound_concat_of_none hx, reduceCtorEq, true_and, false_or]
      constructor
      · rintro ⟨hb, hback, hunbound⟩
        obtain ⟨usage, hs⟩ := (ha.bound_iff h).mp hb
        exact ⟨usage, hs, hback, fun hu => hunbound usage hu (ha.usage?_eq hr hlive hs)⟩
      · rintro ⟨usage, hs, hback, hunbound⟩
        refine ⟨(ha.bound_iff h).mpr ⟨usage, hs⟩, hback, ?_⟩
        rintro other hother hsame
        obtain rfl := Option.some.inj ((ha.usage?_eq hr hlive hs).symm.trans hsame)
        exact hunbound hother

theorem activity_session (calls : List Call) : Activity (after {} calls) (session {} calls) := by
  induction calls using List.reverseRecOn with
  | nil => exact activity_empty
  | append_singleton calls call ih =>
    rw [after_concat, session_concat]
    exact ih.serve (remembers_session calls) (contains_after_iff calls) call

/-! ## Calls that do not concern the active allocation -/

/-- The call is no binding.  If it is an unbinding or a release, it is one of another usage or of
another handle than the active allocation has. -/
def Call.Spares (d : MemoryDevice) : Call → Prop
  | .request (.bind _) => False
  | .request (.unbind usage) => ∀ h, d.bound = some h → d.usage? h ≠ some usage
  | .request (.release k) => d.bound ≠ some k
  | _ => True

/-- A release gives back no other handle than its own. -/
theorem eq_of_release {outcome : Outcome Device.Answer} {left : MemoryDevice}
    (hx : Exchange.givenBack? ⟨.request (.release k), outcome, left⟩ = some h) : k = h := by
  cases outcome with
  | ok answer => exact Option.some.inj hx
  | error e => cases hx
  | trapped t => cases hx

/-- A failed call tells nothing of bindings. -/
theorem quiet_of_failed (hx : x.outcome.isOk = false) :
    x.activated? = none ∧ x.givenBack? = none ∧ x.unbound? = none := by
  rcases x with ⟨call, answer | e | t, left⟩
  · cases hx
  all_goals
    cases call with
    | request r => cases r <;> exact ⟨rfl, rfl, rfl⟩
    | arm fault => exact ⟨rfl, rfl, rfl⟩
    | forgetEvents => exact ⟨rfl, rfl, rfl⟩

/-- A call that fails, or that does not concern the active allocation, leaves it active. -/
theorem bound_serve_of_spares {call : Call}
    (hspares : call.Spares d ∨ (serve call d).outcome.isOk = false) :
    (serve call d).state.bound = d.bound := by
  apply Option.ext
  intro h
  rw [bound_serve_iff]
  rcases hspares with hspares | hfailed
  · cases call with
    | request r =>
      cases r with
      | allocate size usage => exact stays_of_quiet rfl rfl rfl
      | upload k offset bytes => exact stays_of_quiet rfl rfl rfl
      | bind k => exact absurd hspares id
      | unbind usage =>
        refine stays_of_spared rfl (fun _ hx => by cases hx) ?_
        rintro hb _ ⟨⟩
        exact hspares h hb
      | release k =>
        refine stays_of_spared rfl ?_ fun _ _ hx => by cases hx
        intro hb hx
        obtain rfl := eq_of_release hx
        exact hspares hb
    | arm fault => exact stays_of_quiet rfl rfl rfl
    | forgetEvents => exact stays_of_quiet rfl rfl rfl
  · obtain ⟨hactivated, hback, hunbound⟩ := quiet_of_failed (x := exchange d call) hfailed
    exact stays_of_quiet hactivated hback hunbound

/-- Nothing of this usage is active behind its unbinding. -/
theorem usage?_of_bound_unbind
    (hb : (serve (.request (.unbind usage)) d).state.bound = some h) :
    (serve (.request (.unbind usage)) d).state.usage? h ≠ some usage :=
  (bound_unboundFrom_iff.mp hb).2

/-- What is active after any session, whether its calls failed or not.

It is a live allocation, and it is the one bound last, unless it was given back or its usage was
unbound since then.  So a further call that fails, an allocation, an upload, an unbinding of another
usage and a release of another handle leave it active, and no allocation of a usage is active behind
the unbinding of this usage. -/
theorem active_since_binding (calls : List Call) :
    (∀ h, (after {} calls).bound = some h → (after {} calls).table.contains h = true) ∧
    (∀ h, (after {} calls).bound = some h ↔ ∃ usage, StillBound (session {} calls) h usage) ∧
    (∀ call, call.Spares (after {} calls) ∨ (serve call (after {} calls)).outcome.isOk = false →
      (after {} (calls ++ [call])).bound = (after {} calls).bound) ∧
    ∀ usage h, (after {} (calls ++ [.request (.unbind usage)])).bound = some h →
      (after {} (calls ++ [.request (.unbind usage)])).usage? h ≠ some usage := by
  have hactivity := activity_session calls
  refine ⟨hactivity.live, hactivity.bound_iff, ?_, ?_⟩
  · intro call hspares
    rw [after_concat]
    exact bound_serve_of_spares hspares
  · intro usage h
    rw [after_concat]
    exact usage?_of_bound_unbind

/-- Two allocations are bound one after the other.  The first one is given back, and its slot is
used again; its usage is unbound; a binding and two releases fail.  All this leaves the second one
active, until its own usage is unbound. -/
theorem active_since_binding_recycled :
    let calls := [.request (.allocate 4 .vertex), .request (.allocate 4 .index),
      .request (.bind ⟨1, 1⟩), .request (.bind ⟨2, 1⟩), .request (.release ⟨1, 1⟩),
      .request (.allocate 8 .vertex), .request (.unbind .vertex), .request (.bind ⟨1, 1⟩),
      .arm .release, .request (.release ⟨2, 1⟩)]
    (after {} calls).bound = some ⟨2, 1⟩ ∧ (after {} calls).table.contains ⟨2, 1⟩ = true ∧
      (after {} (calls ++ [.request (.release ⟨1, 1⟩)])).bound = some ⟨2, 1⟩ ∧
      (after {} (calls ++ [.request (.unbind .index)])).bound ≠ some ⟨2, 1⟩ := by
  intro calls
  obtain ⟨hlive, hbound, hspared, hunbound⟩ := active_since_binding calls
  have hstill : StillBound (session {} calls) ⟨2, 1⟩ .index :=
    ⟨(session {} calls).take 3, exchange (after {} (calls.take 3)) (.request (.bind ⟨2, 1⟩)),
      (session {} calls).drop 4, by decide, rfl, ⟨4, by decide⟩, by decide⟩
  have hactive := (hbound ⟨2, 1⟩).mpr ⟨.index, hstill⟩
  refine ⟨hactive, hlive _ hactive, ?_, ?_⟩
  · rw [hspared _ (.inr (by decide)), hactive]
  · intro hb
    exact hunbound .index _ hb (by decide)

end BufferSync.MemoryDevice
