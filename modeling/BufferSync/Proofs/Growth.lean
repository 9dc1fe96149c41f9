import BufferSync.Proofs.Breakdowns
import Mathlib.Algebra.Group.Nat.Defs
import Mathlib.Order.Bounds.Basic

/-!
# How host arrays grow

An array makes room in two ways, and each change of the room is one entry of the log.

*At once.*  `appendAll` and `resize` know how many elements there will be.  They make room for all
of them before they write the first one, so the loop behind always finds room: the capacity is what
was asked for or what there was, and there is at most one report (`ReservesOnce`).  The elements are
the same as if they had been added one by one.

*By doubling.*  `append` and `insert` make room for one element, and they double the capacity of a
full array (`doubled`).  So the capacity of a new array is its first one as long as the elements
have room in it, and then the least number that is large enough among the first one, or one if that
was zero, times the powers of two (`Doubled`).
-/

namespace BufferSync

namespace Op

variable {σ τ α β : Type} {I J K : σ → Prop} {x : Op σ α}

theorem trapped_bind {s : σ} (h : (x s).outcome.Trapped) (f : α → Op σ β) :
    ((x >>= f) s).outcome.Trapped := by
  obtain ⟨t, ht⟩ := h
  rw [bind_apply, ht]
  exact Outcome.trapped_trapped t

/-! ## Operations that report nothing -/

/-- From a state with the property `I` the operation breaks down, or it ends well in a state with
the property `J` and has reported nothing. -/
def Plain (I J : σ → Prop) (x : Op σ α) : Prop :=
  ∀ s, I s → (x s).outcome.Trapped ∨
    ∃ v s', x s = { outcome := .ok v, state := s', log := [] } ∧ J s'

theorem plain_pure (v : α) : (pure v : Op σ α).Plain I I :=
  fun s hs => .inr ⟨v, s, rfl, hs⟩

theorem plain_state : (state : Op σ σ).Plain I I :=
  fun s hs => .inr ⟨s, s, rfl, hs⟩

theorem plain_update {f : σ → σ} (hf : ∀ s, I s → J (f s)) : (update f).Plain I J :=
  fun s hs => .inr ⟨(), f s, rfl, hf s hs⟩

theorem Plain.bind {f : α → Op σ β} (hx : x.Plain I J) (hf : ∀ v, (f v).Plain J K) :
    (x >>= f).Plain I K := by
  intro s hs
  obtain htrap | ⟨v, s', hrun, hs'⟩ := hx s hs
  · exact .inl (trapped_bind htrap f)
  · rw [bind_of_ok hrun]
    exact hf v s' hs'

theorem plain_require (p : Prop) [Decidable p] (t : Trap) :
    (require p t : Op σ Unit).Plain I I := by
  rw [require]
  split
  · exact plain_pure ()
  · exact fun _ _ => .inl (Outcome.trapped_trapped t)

theorem plain_word (n : Nat) : (word n : Op σ Nat).Plain I I := by
  rw [word]
  split
  · exact plain_pure n
  · exact fun _ _ => .inl (Outcome.trapped_trapped _)

theorem plain_difference (m n : Nat) : (difference m n : Op σ Nat).Plain I I :=
  (plain_require _ _).bind fun _ => plain_pure _

end Op

namespace HostArray

variable {α : Type} {c : Codec α} {a b : HostArray c} {n : Nat}

/-! ## Reports of room -/

/-- The entry reports a change of the room of a host array. -/
def RoomReport (e : Log.Entry) : Prop :=
  e.source = source ∧ "Reallocating storage".toList <+: e.message.toList

instance : DecidablePred RoomReport := fun e =>
  inferInstanceAs (Decidable (e.source = source ∧ _))

/-- How many entries report a change of the room. -/
def roomReports (l : List Log.Entry) : Nat :=
  l.countP fun e => decide (RoomReport e)

@[simp] theorem roomReports_append (l m : List Log.Entry) :
    roomReports (l ++ m) = roomReports l + roomReports m :=
  List.countP_append

theorem prefix_toList_append {first : List Char} {text : String} (h : first <+: text.toList)
    (more : String) : first <+: (text ++ more).toList := by
  rw [String.toList_append]
  exact h.trans (List.prefix_append ..)

theorem roomReport_roomEntry (a : HostArray c) (n : Nat) : RoomReport (a.roomEntry n) := by
  refine ⟨rfl, ?_⟩
  iterate 6 apply prefix_toList_append
  decide

@[simp] theorem roomReports_roomEntry (a : HostArray c) (n : Nat) :
    roomReports [a.roomEntry n] = 1 := by
  rw [roomReports, List.countP_singleton, if_pos (decide_eq_true (roomReport_roomEntry a n))]

/-! ## Room at once -/

/-- The array with room for at least `n` elements. -/
def reserved (n : Nat) (a : HostArray c) : HostArray c :=
  if a.capacity < n then a.withRoom n else a

theorem capacity_reserved (n : Nat) (a : HostArray c) :
    (a.reserved n).capacity = max a.capacity n := by
  rw [reserved]
  split
  next hless => exact (Nat.max_eq_right (Nat.le_of_lt hless)).symm
  next hroom => exact (Nat.max_eq_left (Nat.not_lt.mp hroom)).symm

theorem reserve_eq (h : c.Fits n) :
    reserve n a =
      { outcome := .ok ()
        state := a.reserved n
        log := if a.capacity < n then [a.roomEntry n] else [] } := by
  rw [reserve, Op.state_bind, reserved]
  split
  next => exact reallocate_of_fits h
  next => rfl

theorem sameCells_reserved (ha : a.Packed) (h : c.Fits n) : SameCells a (a.reserved n) := by
  have hcount := ha.count_le
  rw [reserved]
  split
  next hless => exact sameCells_withRoom ha (by omega) h
  next => exact ⟨ha, rfl⟩

/-- There is room for the elements that it was made for. -/
theorem room_reserved (ha : a.Packed) (h : c.Fits n) {more : Nat} (hn : a.count + more ≤ n) :
    (a.reserved n).count + more ≤ (a.reserved n).capacity := by
  rw [(sameCells_reserved ha h).count, capacity_reserved]
  exact Nat.le_trans hn (Nat.le_max_right ..)

/-- The run on `a` made room for `n` elements before it did anything else, and never again. -/
structure ReservesOnce {β : Type} (a : HostArray c) (n : Nat) (r : Run (HostArray c) β) : Prop where
  /-- There is the room that was asked for, or the one of before if it was larger. -/
  capacity : r.state.capacity = max a.capacity n
  /-- The change is reported, if there was one. -/
  reports : roomReports r.log = if a.capacity < n then 1 else 0
  /-- Nothing is reported but what making the room reports. -/
  log : r.log = (reserve n a).log

/-- Room that is made for all elements is not changed when they are written. -/
theorem reservesOnce_foldl_push {β : Type} {o : Outcome β} (h : c.Fits n) (vs : List α) :
    ReservesOnce a n
      { outcome := o, state := vs.foldl push (a.reserved n), log := (reserve n a).log } where
  capacity := (capacity_foldl_push vs _).trans (capacity_reserved n a)
  reports := by
    rw [reserve_eq h]
    split
    · exact roomReports_roomEntry a n
    · rfl
  log := rfl

theorem appendAll_eq (hc : c.Sized) (ha : a.Packed) {vs : List α}
    (h : c.Fits (a.count + vs.length)) :
    appendAll vs a =
      { outcome := .ok { start := a.count, stop := a.count + vs.length }
        state := vs.foldl push (a.reserved (a.count + vs.length))
        log := (reserve (a.count + vs.length) a).log } := by
  have hb := sameCells_reserved ha h
  have hroom := room_reserved ha h (Nat.le_refl (a.count + vs.length))
  rw [appendAll, Op.state_bind, Op.word_bind_of_lt h.word, Op.bind_of_ok (reserve_eq h),
    Op.bind_of_ok (each_append_eq hc hb.packed vs hroom), Op.state_bind, count_foldl_push, hb.count,
    reserve_eq h]
  simp [Op.pure_apply, Run.after]

theorem resize_eq (hc : c.Sized) (ha : a.Packed) (hcount : a.count < n) (h : c.Fits n)
    (v : α) :
    resize n v a =
      { outcome := .ok ()
        state := (List.replicate (n - a.count) v).foldl push (a.reserved n)
        log := (reserve n a).log } := by
  have hb := sameCells_reserved ha h
  have hroom := room_reserved ha h (show a.count + (n - a.count) ≤ n by omega)
  rw [resize, Op.state_bind, if_neg (by omega), Op.bind_of_ok (reserve_eq h),
    fill_eq hc hb.packed _ v hroom, reserve_eq h]
  simp [Run.after]

/-! ## Elements one by one -/

/-- Adds elements at the end, each with room of its own. -/
def appendEach (vs : List α) : Op (HostArray c) Unit :=
  Op.each (fun v => do let _ ← append v) vs

/-- Elements that are added one by one are all there in the end, if there is room for them. -/
theorem appendEach_trapped_or_cells (hc : c.Sized) (ha : a.Packed) (vs : List α) :
    (appendEach vs a).outcome.Trapped ∨
      (appendEach vs a).state.cells = a.cells ++ vs.map c.bytes := by
  rw [appendEach]
  induction vs generalizing a with
  | nil => exact .inr (List.append_nil _).symm
  | cons v rest ih =>
    rw [Op.each]
    obtain ⟨-, t, l, hrun⟩ | ⟨-, b, l, hrun, hb, hcells⟩ := append_cases hc ha v
    · refine .inl (Op.trapped_bind (Op.trapped_bind ?_ _) _)
      rw [hrun]
      exact Outcome.trapped_trapped t
    · rw [Op.bind_of_ok (Op.discard_of_ok hrun), Run.outcome_after, Run.state_after]
      refine (ih hb).imp_right fun hrest => ?_
      rw [hrest, hcells, List.append_assoc]
      rfl

/-- The arrays hold the same elements in the same bytes. -/
structure SameElements (a b : HostArray c) : Prop where
  /-- They are equally many. -/
  count : a.count = b.count
  /-- They are the same. -/
  toList : a.toList = b.toList
  /-- They are stored in the same bytes. -/
  populated : a.populated = b.populated

theorem sameElements_of_cells (h : a.cells = b.cells) : SameElements a b where
  count := by rw [← length_cells, h, length_cells]
  toList := by rw [toList_eq_map, h, toList_eq_map]
  populated := by rw [populated_eq_flatten, h, populated_eq_flatten]

/-- Elements that are added together are those that are added one by one. -/
theorem sameElements_appendEach (hc : c.Sized) (ha : a.Packed) (h : c.Fits n) {vs : List α}
    (hn : a.count + vs.length ≤ n) (hok : ¬ (appendEach vs a).outcome.Trapped) :
    SameElements (vs.foldl push (a.reserved n)) (appendEach vs a).state := by
  have hb := sameCells_reserved ha h
  apply sameElements_of_cells
  rw [(foldl_push hc hb.packed vs (room_reserved ha h hn)).2, hb.cells,
    (appendEach_trapped_or_cells hc ha vs).resolve_left hok]

theorem trapped_appendAll_iff (hc : c.Sized) (ha : a.Packed) (vs : List α) :
    (appendAll vs a).outcome.Trapped ↔ ¬ c.Fits (a.count + vs.length) := by
  have htrapped := (ha.bears hc (.appendAll vs)).trapped_iff
  rw [perform, Op.map_apply, Outcome.trapped_map] at htrapped
  exact htrapped.trans (exceeded_iff ha)

theorem trapped_resize_iff (hc : c.Sized) (ha : a.Packed) (n : Nat) (v : α) :
    (resize n v a).outcome.Trapped ↔ ¬ c.Fits n := by
  have htrapped := (ha.bears hc (.resize n v)).trapped_iff
  rw [perform, Op.map_apply, Outcome.trapped_map] at htrapped
  exact htrapped.trans (exceeded_iff ha)

/-- Many elements are added with at most one change of the room, in every array that calls lead to.
The codec gives all its values one size, as those of all formats do (`Format.lawful`).

*`appendAll`.*  If it does not break down, it ends well with room for just the elements or with the
room of before, it reports a change of the room if there is one, and its loop reports none.  The
elements are those that adding them one by one gives, if that does not break down.

*`resize`.*  The same goes for a growth to `n` elements, which does what `appendAll` does with as
many copies of the element as there are new places. -/
theorem bulk_growth_reserves_once (hc : c.Sized) (ha : a.Attainable) :
    (∀ vs : List α, ¬ (appendAll vs a).outcome.Trapped →
      (appendAll vs a).outcome = .ok { start := a.count, stop := a.count + vs.length } ∧
      ReservesOnce a (a.count + vs.length) (appendAll vs a) ∧
      (¬ (appendEach vs a).outcome.Trapped →
        SameElements (appendAll vs a).state (appendEach vs a).state)) ∧
    ∀ (n : Nat) (v : α), a.count < n → ¬ (resize n v a).outcome.Trapped →
      (resize n v a).outcome = .ok () ∧
      ReservesOnce a n (resize n v a) ∧
      ¬ (appendAll (List.replicate (n - a.count) v) a).outcome.Trapped ∧
      (resize n v a).state = (appendAll (List.replicate (n - a.count) v) a).state := by
  have hpacked := ha.packed hc
  constructor
  · intro vs hok
    have hroom := Decidable.not_not.mp (mt (trapped_appendAll_iff hc hpacked vs).mpr hok)
    rw [appendAll_eq hc hpacked hroom]
    exact ⟨rfl, reservesOnce_foldl_push hroom vs,
      sameElements_appendEach hc hpacked hroom (Nat.le_refl _)⟩
  · intro n v hcount hok
    have hroom := Decidable.not_not.mp (mt (trapped_resize_iff hc hpacked n v).mpr hok)
    have hn : a.count + (List.replicate (n - a.count) v).length = n := by
      rw [List.length_replicate]
      omega
    have happend : appendAll (List.replicate (n - a.count) v) a = _ :=
      appendAll_eq hc hpacked (by rwa [hn])
    rw [happend, resize_eq hc hpacked hcount hroom, hn]
    exact ⟨rfl, reservesOnce_foldl_push hroom _, Outcome.not_trapped_ok _, rfl⟩

/-- A full array of two indices. -/
def indexPair : HostArray Format.index16.codec :=
  { storage := [1, 0, 2, 0], capacity := 2, count := 2 }

/-- Three more indices are added in room for five, where one by one they would be given room for
eight, and growth to four makes room for four. -/
theorem bulk_growth_reserves_once_pair :
    indexPair.Attainable ∧
      (appendAll [3, 4, 5] indexPair).state.capacity = 5 ∧
      roomReports (appendAll [3, 4, 5] indexPair).log = 1 ∧
      SameElements (appendAll [3, 4, 5] indexPair).state (appendEach [3, 4, 5] indexPair).state ∧
      (appendEach [3, 4, 5] indexPair).state.capacity = 8 ∧
      (resize 4 7 indexPair).state.capacity = 4 ∧
      (resize 4 7 indexPair).state = (appendAll [7, 7] indexPair).state := by
  have made : ((ofList [1, 2] : Op Unit (HostArray Format.index16.codec)) ()).outcome =
      .ok indexPair := rfl
  have htogether : (appendAll [3, 4, 5] indexPair).outcome = .ok { start := 2, stop := 5 } := rfl
  have hsingly : (appendEach [3, 4, 5] indexPair).outcome = .ok () := rfl
  have hfour : (resize 4 7 indexPair).outcome = .ok () := rfl
  obtain ⟨hadd, hresize⟩ :=
    bulk_growth_reserves_once (Format.lawful .index16).sized (.ofList made)
  obtain ⟨-, honce, hsame⟩ := hadd [3, 4, 5] (by rw [htogether]; exact Outcome.not_trapped_ok _)
  obtain ⟨-, hgrown, -, hcopies⟩ := hresize 4 7 (by decide)
    (by rw [hfour]; exact Outcome.not_trapped_ok _)
  exact ⟨.ofList made, honce.capacity, honce.reports,
    hsame (by rw [hsingly]; exact Outcome.not_trapped_ok _), rfl, hgrown.capacity, hcopies⟩

/-! ## Room for one more -/

/-- The array with room for one more element; a full one has twice its capacity then. -/
def doubled (a : HostArray c) : HostArray c :=
  if a.count = a.capacity then a.withRoom (max (a.capacity * 2) 1) else a

/-- What is reported about it. -/
def doublingLog (a : HostArray c) : List Log.Entry :=
  if a.count = a.capacity then [a.roomEntry (max (a.capacity * 2) 1)] else []

theorem count_doubled (a : HostArray c) : a.doubled.count = a.count := by
  rw [doubled]
  split <;> rfl

/-- Making room for one element breaks down, or it doubles the capacity of a full array and reports
that. -/
theorem makeRoom_trapped_or_eq (a : HostArray c) :
    (makeRoom a).outcome.Trapped ∨
      makeRoom a = { outcome := .ok (), state := a.doubled, log := a.doublingLog } := by
  rw [makeRoom, Op.state_bind, doubled, doublingLog]
  split
  next =>
    by_cases hword : a.capacity * 2 < wordLimit
    · rw [Op.word_bind_of_lt hword]
      by_cases hroom : c.Fits (max (a.capacity * 2) 1)
      · exact .inr (reallocate_of_fits hroom)
      · obtain ⟨t, l, hrun⟩ := reallocate_of_not_fits (a := a) hroom
        rw [hrun]
        exact .inl (Outcome.trapped_trapped t)
    · rw [Op.word_bind_of_ge (Nat.not_lt.mp hword)]
      exact .inl (Outcome.trapped_trapped _)
  next => exact .inr rfl

/-- The array has room for `room` elements, of which `n` are populated. -/
def Measures (n room : Nat) (a : HostArray c) : Prop :=
  a.count = n ∧ a.capacity = room

theorem plain_putAll (strings : List Bytes) (offset : Nat) :
    (Region.putAll offset strings).Plain (fun _ => True) fun _ => True := by
  induction strings generalizing offset with
  | nil => exact Op.plain_pure offset
  | cons new rest ih =>
    have hput : (Region.put offset new).Plain (fun _ => True) fun _ => True :=
      Op.plain_state.bind fun _ => (Op.plain_require _ _).bind fun _ =>
        (Op.plain_update fun _ _ => trivial).bind fun _ => Op.plain_pure _
    exact hput.bind ih

theorem plain_copyWithin (start stop target : Nat) :
    (Region.copyWithin start stop target).Plain (fun _ => True) fun _ => True :=
  Op.plain_state.bind fun _ => (Op.plain_require _ _).bind fun _ =>
    (Op.plain_require _ _).bind fun _ => (Op.plain_require _ _).bind fun _ =>
      Op.plain_update fun _ _ => trivial

/-- An operation on the storage changes neither the number of elements nor the room. -/
theorem plain_onStorage {β : Type} {x : Op Bytes β}
    (hx : x.Plain (fun _ => True) fun _ => True) :
    (onStorage x : Op (HostArray c) β).Plain (Measures n room) (Measures n room) := by
  intro a ha
  rw [onStorage, Op.focus_apply]
  refine (hx a.storage trivial).imp_right ?_
  rintro ⟨v, storage, hrun, -⟩
  rw [hrun]
  exact ⟨v, _, rfl, ha⟩

theorem plain_writeAt (i : Nat) (v : α) :
    (writeAt i v : Op (HostArray c) Unit).Plain (Measures n room) (Measures n room) := by
  have hencode : ∀ offset, (c.encode v offset).Plain (fun _ => True) fun _ => True := by
    intro offset
    rw [c.encode_eq]
    exact (plain_putAll _ _).bind fun _ => Op.plain_difference _ _
  exact (Op.plain_word _).bind fun offset => (plain_onStorage (hencode offset)).bind fun _ =>
    Op.plain_require _ _

theorem plain_moveElements (start stop target : Nat) :
    (moveElements start stop target : Op (HostArray c) Unit).Plain (Measures n room)
      (Measures n room) :=
  (Op.plain_word _).bind fun _ => (Op.plain_word _).bind fun _ => (Op.plain_word _).bind fun _ =>
    plain_onStorage (plain_copyWithin _ _ _)

theorem plain_countUp :
    (countUp : Op (HostArray c) Unit).Plain (Measures n room) (Measures (n + 1) room) := by
  rintro a ⟨rfl, rfl⟩
  rw [countUp, Op.state_bind]
  by_cases hword : a.count + 1 < wordLimit
  · rw [Op.word_bind_of_lt hword]
    exact .inr ⟨(), _, rfl, rfl, rfl⟩
  · rw [Op.word_bind_of_ge (Nat.not_lt.mp hword)]
    exact .inl (Outcome.trapped_trapped _)

/-- From `a` to `b` one element was added, with the entries `l`: the room of a full array was
doubled and this was reported, and otherwise it is as before. -/
structure GrowsByOne (a b : HostArray c) (l : List Log.Entry) : Prop where
  /-- There is one element more. -/
  count : b.count = a.count + 1
  /-- A full array has twice the room. -/
  capacity : b.capacity = if a.count = a.capacity then max (a.capacity * 2) 1 else a.capacity
  /-- A change of the room is reported. -/
  reports : roomReports l = if a.count = a.capacity then 1 else 0

theorem growsByOne_of_measures (hb : Measures (a.count + 1) a.doubled.capacity b) :
    GrowsByOne a b a.doublingLog where
  count := hb.1
  capacity := by
    rw [hb.2, doubled]
    split <;> rfl
  reports := by
    rw [doublingLog]
    split
    · exact roomReports_roomEntry ..
    · rfl

/-- An operation that makes room first and then only counts up adds one element. -/
theorem makeRoom_bind_trapped_or_grows {β : Type} {f : Unit → Op (HostArray c) β}
    (hf : ∀ n room, (f ()).Plain (Measures n room) (Measures (n + 1) room)) (a : HostArray c) :
    ((makeRoom >>= f) a).outcome.Trapped ∨
      ∃ v b l, (makeRoom >>= f) a = { outcome := .ok v, state := b, log := l } ∧
        GrowsByOne a b l := by
  obtain htrap | hroom := makeRoom_trapped_or_eq a
  · exact .inl (Op.trapped_bind htrap f)
  · rw [Op.bind_of_ok hroom, Run.outcome_after]
    refine (hf a.count a.doubled.capacity a.doubled ⟨count_doubled a, rfl⟩).imp_right ?_
    rintro ⟨v, b, hrun, hb⟩
    refine ⟨v, b, a.doublingLog, ?_, growsByOne_of_measures hb⟩
    rw [hrun, Run.after, List.append_nil]

theorem append_trapped_or_grows (v : α) (a : HostArray c) :
    (append v a).outcome.Trapped ∨
      ∃ i b l, append v a = { outcome := .ok i, state := b, log := l } ∧ GrowsByOne a b l :=
  makeRoom_bind_trapped_or_grows
    (fun _ _ => Op.plain_state.bind fun _ => (plain_writeAt _ v).bind fun _ =>
      plain_countUp.bind fun _ => Op.plain_pure _) a

theorem insert_trapped_or_grows {i : Nat} (hi : i ≤ a.count) (v : α) :
    (insert i v a).outcome.Trapped ∨
      ∃ u b l, insert i v a = { outcome := .ok u, state := b, log := l } ∧ GrowsByOne a b l := by
  rw [insert, Op.state_bind, if_neg (Nat.not_lt.mpr hi)]
  exact makeRoom_bind_trapped_or_grows
    (fun _ _ => Op.plain_state.bind fun _ => (Op.plain_word _).bind fun _ =>
      (plain_moveElements _ _ _).bind fun _ => (plain_writeAt i v).bind fun _ => plain_countUp) a

end HostArray

/-! ## Runs of single additions -/

/-- The call adds one element to an array of `n` elements. -/
def ArrayCall.AddsTo {α : Type} (n : Nat) : ArrayCall α → Prop
  | .append _ => True
  | .insert i _ => i ≤ n
  | _ => False

/-- Each of the calls adds one element, first one first, to an array of `n` elements. -/
def ArrayCall.Additions {α : Type} : Nat → List (ArrayCall α) → Prop
  | _, [] => True
  | n, call :: rest => call.AddsTo n ∧ Additions (n + 1) rest

namespace HostArray

variable {α : Type} {c : Codec α} {a b : HostArray c} {n room changes capacity : Nat}

/-- One call that adds an element. -/
theorem perform_trapped_or_grows {call : ArrayCall α} (h : call.AddsTo a.count) :
    (perform call a).outcome.Trapped ∨
      ∃ reply b l, perform call a = { outcome := .ok reply, state := b, log := l } ∧
        GrowsByOne a b l := by
  cases call with
  | append v =>
    obtain htrap | ⟨i, b, l, hrun, hb⟩ := append_trapped_or_grows v a
    · exact .inl (Op.trapped_bind htrap _)
    · refine .inr ⟨.position i, b, l, ?_, hb⟩
      rw [perform, Op.map_apply, hrun]
      rfl
  | insert i v =>
    obtain htrap | ⟨u, b, l, hrun, hb⟩ := insert_trapped_or_grows h v
    · exact .inl (Op.trapped_bind htrap _)
    · refine .inr ⟨.done, b, l, ?_, hb⟩
      rw [perform, Op.map_apply, hrun]
      rfl
  | _ => cases h

/-- Runs calls, one after another. -/
def performAll (calls : List (ArrayCall α)) : Op (HostArray c) Unit :=
  Op.each (fun call => do let _ ← perform call) calls

/-- How many of the calls change the room. -/
def roomChanges (a : HostArray c) : List (ArrayCall α) → Nat
  | [] => 0
  | call :: rest =>
    (if (perform call a).state.capacity = a.capacity then 0 else 1) +
      roomChanges (perform call a).state rest

/-- The capacity of an array that had room for `room` elements at first, after it was made to hold
`n` elements one after another, and the number of changes of the room until then. -/
inductive Doubled (room n : Nat) : Nat → Nat → Prop where
  /-- The elements have the room of the start. -/
  | unchanged (fits : n ≤ room) : Doubled room n room 0
  /-- The room was doubled until the elements had room; room for none was first replaced by room for
  one. -/
  | doubled (k : Nat) (outgrown : room < n) (fits : n ≤ max room 1 * 2 ^ k)
      (least : ∀ j, j < k → max room 1 * 2 ^ j < n) :
      Doubled room n (max room 1 * 2 ^ k) (k + if room = 0 then 1 else 0)

theorem Doubled.le (h : Doubled room n capacity changes) : n ≤ capacity := by
  cases h with
  | unchanged fits => exact fits
  | doubled k outgrown fits least => exact fits

/-- One more element in an array that is not full. -/
theorem Doubled.of_lt (h : Doubled room n capacity changes) (hn : n < capacity) :
    Doubled room (n + 1) capacity changes := by
  cases h with
  | unchanged fits => exact .unchanged hn
  | doubled k outgrown fits least =>
    exact .doubled k (by omega) hn fun j hj => Nat.lt_succ_of_lt (least j hj)

/-- One more element in a full array. -/
theorem Doubled.of_full (h : Doubled room n capacity changes) (hfull : n = capacity) :
    Doubled room (n + 1) (max (capacity * 2) 1) (changes + 1) := by
  cases h with
  | unchanged fits =>
    -- an array without room gets room for one element, which is no doubling
    obtain rfl | hpos := Nat.eq_zero_or_pos room
    · subst hfull
      exact .doubled 0 (by decide) (by decide) fun j hj => absurd hj (Nat.not_lt_zero j)
    · have hcapacity : max (room * 2) 1 = max room 1 * 2 ^ 1 := by omega
      have hchanges : 0 + 1 = 1 + if room = 0 then 1 else 0 := by
        rw [if_neg (Nat.ne_of_gt hpos)]
      rw [hcapacity, hchanges]
      refine .doubled 1 (by omega) (by omega) ?_
      intro j hj
      obtain rfl := Nat.lt_one_iff.mp hj
      omega
  | doubled k outgrown fits least =>
    have hcapacity : max (max room 1 * 2 ^ k * 2) 1 = max room 1 * 2 ^ (k + 1) := by
      rw [Nat.pow_succ, ← Nat.mul_assoc]
      omega
    have hchanges : (k + if room = 0 then 1 else 0) + 1 =
        (k + 1) + if room = 0 then 1 else 0 := by
      omega
    rw [hcapacity, hchanges]
    refine .doubled (k + 1) (by omega) ?_ ?_
    · rw [← hcapacity]
      omega
    · intro j hj
      have hle : max room 1 * 2 ^ j ≤ max room 1 * 2 ^ k :=
        Nat.mul_le_mul_left _ (Nat.pow_le_pow_right (by decide) (Nat.le_of_lt_succ hj))
      omega

/-- The closed form goes on over one more element. -/
theorem Doubled.growsByOne {l : List Log.Entry} (h : Doubled room a.count a.capacity changes)
    (hb : GrowsByOne a b l) :
    Doubled room b.count b.capacity (changes + roomReports l) := by
  rw [hb.count, hb.capacity, hb.reports]
  split
  next hfull => exact h.of_full hfull
  next hroom => exact h.of_lt (Nat.lt_of_le_of_ne h.le hroom)

/-- The room is changed exactly if that is reported. -/
theorem GrowsByOne.reports_eq {l : List Log.Entry} (hb : GrowsByOne a b l) :
    roomReports l = if b.capacity = a.capacity then 0 else 1 := by
  rw [hb.reports, hb.capacity]
  split
  next hfull => rw [if_neg (by omega)]
  next hroom => rw [if_pos rfl]

/-- A run of calls that add one element each. -/
theorem performAll_trapped_or_doubled {calls : List (ArrayCall α)}
    (adds : ArrayCall.Additions a.count calls) (h : Doubled room a.count a.capacity changes) :
    (performAll calls a).outcome.Trapped ∨
      ∃ b l, performAll calls a = { outcome := .ok (), state := b, log := l } ∧
        b.count = a.count + calls.length ∧
        Doubled room b.count b.capacity (changes + roomReports l) ∧
        roomReports l = roomChanges a calls := by
  rw [performAll]
  -- `changes` counts what was reported in front of the run, so that the rest of it can go on there
  induction calls generalizing a changes with
  | nil => exact .inr ⟨a, [], rfl, rfl, h, rfl⟩
  | cons call rest ih =>
    rw [Op.each]
    obtain htrap | ⟨reply, b, l, hrun, hb⟩ := perform_trapped_or_grows adds.1
    · exact .inl (Op.trapped_bind (Op.trapped_bind htrap _) _)
    · have hadds : ArrayCall.Additions b.count rest := by
        rw [hb.count]
        exact adds.2
      rw [Op.bind_of_ok (Op.discard_of_ok hrun), Run.outcome_after]
      refine (ih hadds (h.growsByOne hb)).imp_right ?_
      rintro ⟨d, m, hrest, hcount, hdoubled, hchanges⟩
      refine ⟨d, l ++ m, ?_, ?_, ?_, ?_⟩
      · rw [hrest]
        rfl
      · rw [hcount, hb.count, List.length_cons]
        omega
      · rw [roomReports_append, ← Nat.add_assoc]
        exact hdoubled
      · rw [roomReports_append, roomChanges, hrun, hb.reports_eq, hchanges]

/-- An array that had to grow has the least capacity among those that doubling leads to. -/
theorem Doubled.isLeast (h : Doubled room n capacity changes) (hn : room < n) :
    ∃ k, capacity = max room 1 * 2 ^ k ∧
      IsLeast {m | n ≤ m ∧ ∃ j, m = max room 1 * 2 ^ j} capacity ∧
      changes = k + if room = 0 then 1 else 0 := by
  cases h with
  | unchanged fits => omega
  | doubled k outgrown fits least =>
    refine ⟨k, rfl, ⟨⟨fits, k, rfl⟩, ?_⟩, rfl⟩
    rintro m ⟨hm, j, rfl⟩
    have hj : k ≤ j := Nat.not_lt.mp fun hlt => Nat.not_le.mpr (least j hlt) hm
    exact Nat.mul_le_mul_left _ (Nat.pow_le_pow_right (by decide) hj)

theorem Doubled.of_le (h : Doubled room n capacity changes) (hn : n ≤ room) :
    capacity = room ∧ changes = 0 := by
  cases h with
  | unchanged fits => exact ⟨rfl, rfl⟩
  | doubled k outgrown fits least => omega

/-- Elements that are added one by one, at the end or anywhere else, double the room.

If a run of such calls on a new array does not break down, each call added its element.  As long as
the elements have the room that the array was made with, this stays its capacity, and no change of
the room is reported.  Otherwise the capacity is the least one that is large enough among the first
one, or one if that was zero, times the powers of two.  As many changes are reported as the capacity
was doubled, and one more if it was zero; these are all changes of the capacity. -/
theorem single_growth_doubles {calls : List (ArrayCall α)}
    (made : ((withCapacity room : Op Unit (HostArray c)) ()).outcome = .ok a)
    (adds : ArrayCall.Additions 0 calls) (sound : ¬ (performAll calls a).outcome.Trapped) :
    (performAll calls a).outcome = .ok () ∧
    (performAll calls a).state.count = calls.length ∧
    (calls.length ≤ room →
      (performAll calls a).state.capacity = room ∧ roomReports (performAll calls a).log = 0) ∧
    (room < calls.length → ∃ k,
      (performAll calls a).state.capacity = max room 1 * 2 ^ k ∧
      IsLeast {m | calls.length ≤ m ∧ ∃ j, m = max room 1 * 2 ^ j}
        (performAll calls a).state.capacity ∧
      roomReports (performAll calls a).log = k + if room = 0 then 1 else 0) ∧
    roomReports (performAll calls a).log = roomChanges a calls := by
  obtain ⟨rfl, -⟩ := eq_vacant_of_withCapacity made
  obtain htrap | ⟨b, l, hrun, hcount, hdoubled, hchanges⟩ :=
    performAll_trapped_or_doubled (a := vacant room) adds (.unchanged (Nat.zero_le room))
  · exact absurd htrap sound
  · have hlength : b.count = calls.length := hcount.trans (Nat.zero_add _)
    rw [hlength, Nat.zero_add] at hdoubled
    rw [hrun]
    exact ⟨rfl, hlength, hdoubled.of_le, hdoubled.isLeast, hchanges⟩

/-- Bytes that are put into an array without room, at its end, its start and between. -/
def fiveBytes : List (ArrayCall UInt8) :=
  [.append 5, .insert 0 6, .insert 1 7, .append 8, .insert 4 9]

/-- Five bytes end up in room for eight, after four changes of the room. -/
theorem single_growth_doubles_five :
    let r := performAll fiveBytes (vacant 0 : HostArray Format.uint8.codec)
    r.state.count = 5 ∧ r.state.capacity = 8 ∧
      IsLeast {m | 5 ≤ m ∧ ∃ j, m = max 0 1 * 2 ^ j} r.state.capacity ∧
      roomReports r.log = 4 ∧
      roomChanges (vacant 0 : HostArray Format.uint8.codec) fiveBytes = 4 := by
  have made : ((withCapacity 0 : Op Unit (HostArray Format.uint8.codec)) ()).outcome =
      .ok (vacant 0) := rfl
  have hadds : ArrayCall.Additions 0 fiveBytes :=
    ⟨trivial, Nat.zero_le 1, Nat.le_succ 1, trivial, Nat.le_refl 4, trivial⟩
  have hrun : (performAll fiveBytes (vacant 0 : HostArray Format.uint8.codec)).outcome =
      .ok () := rfl
  obtain ⟨-, hcount, -, hgrown, hchanges⟩ := single_growth_doubles made hadds
    (by rw [hrun]; exact Outcome.not_trapped_ok _)
  obtain ⟨k, hk, hleast, hreports⟩ := hgrown (by decide)
  have hthree : 2 ^ 3 = 2 ^ k := hk.trans (Nat.one_mul _)
  obtain rfl := (Nat.pow_right_inj (by decide)).mp hthree
  exact ⟨hcount, rfl, hleast, hreports, hchanges.symm.trans hreports⟩

end HostArray

end BufferSync
