import Mathlib.Data.List.InsertIdx
import BufferSync.HostArray.Call
import BufferSync.Proofs.HostRuns
import BufferSync.Proofs.Layouts

/-!
# A host array is a list

`ArrayCall.onList` says what a call means for a list of elements: its answer or its error, and the
list that it leaves.  Nothing in it speaks of bytes, capacities or storage.

The main statement is about the arrays that calls can lead to from a new one, whatever these calls
were and however they ended.  Such an array has one list of elements, the one that a walk to its end
shows.  Its populated bytes are the bytes of this list, and every call acts on the array as it acts
on the list.  The one exception is a call that asks for more room than there is: it may break down,
and then nothing has changed.

*The walk.*  A cursor in front of position `p` shows the elements from `p` on, and nothing behind
the last one (`Cursor.advance_eq`).

*The calls.*  Each call changes the cells of the array as the list operation changes the list, and
reading cells as elements commutes with the list operations.
-/

namespace BufferSync

/-! ## Calls on lists -/

/-- How a call on a list of elements ends, and the list that it leaves. -/
structure ListRun (α : Type) where
  /-- How it ended. -/
  outcome : Outcome (Reply α)
  /-- The list afterwards. -/
  list : List α

namespace ArrayCall

variable {α : Type}

/-- The call that names a position outside of the list. -/
def outside (elements : List α) (i : Nat) : ListRun α :=
  ⟨.error (.indexOutOfRange i elements.length), elements⟩

/-- What a call does to a list of elements. -/
def onList (elements : List α) : ArrayCall α → ListRun α
  | .get i =>
    match elements[i]? with
    | some v => ⟨.ok (.element v), elements⟩
    | none => outside elements i
  | .set i v =>
    if i < elements.length then ⟨.ok .done, elements.set i v⟩ else outside elements i
  | .append v => ⟨.ok (.position elements.length), elements ++ [v]⟩
  | .appendAll vs =>
    ⟨.ok (.positions ⟨elements.length, elements.length + vs.length⟩), elements ++ vs⟩
  | .insert i v =>
    if i ≤ elements.length then ⟨.ok .done, elements.insertIdx i v⟩ else outside elements i
  | .removeAt i =>
    match elements[i]? with
    | some v => ⟨.ok (.element v), elements.eraseIdx i⟩
    | none => outside elements i
  | .truncate n => ⟨.ok .done, elements.take n⟩
  | .resize n v => ⟨.ok .done, elements.take n ++ List.replicate (n - elements.length) v⟩
  | .clear => ⟨.ok .done, []⟩
  | .setCapacity n =>
    if n < elements.length then
      ⟨.error (.invalidArgument
        s!"cannot shrink below logical count: capacity {n} < count {elements.length}"), elements⟩
    else ⟨.ok .done, elements⟩
  | .reserve _ => ⟨.ok .done, elements⟩
  | .elements => ⟨.ok (.elements elements), elements⟩
  | .walk n =>
    ⟨.ok (.walk
      { ahead := elements.length
        answers := (elements.take n).map some ++ List.replicate (n - elements.length) none
        left := elements.length - min n elements.length }), elements⟩

/-- The number of elements that a call asks room for. -/
def demand (elements : List α) : ArrayCall α → Nat
  | .append _ => elements.length + 1
  | .appendAll vs => elements.length + vs.length
  | .insert _ _ => elements.length + 1
  | .resize n _ => n
  | .setCapacity n => n
  | .reserve n => n
  | _ => 0

end ArrayCall

namespace HostArray

variable {α : Type} {c : Codec α} {a : HostArray c}

/-! ## Elements as read from cells -/

@[simp] theorem length_toList (a : HostArray c) : a.toList.length = a.count := by
  rw [toList_eq_map, List.length_map, length_cells]

theorem getElem?_toList_of_lt {i : Nat} (h : i < a.count) :
    a.toList[i]? = some (c.parse (a.cell i)) := by
  rw [toList_eq_map, List.getElem?_map, getElem?_cells, if_pos h]
  rfl

theorem getElem?_toList_of_ge {i : Nat} (h : a.count ≤ i) : a.toList[i]? = none :=
  List.getElem?_eq_none (by rwa [length_toList])

theorem map_parse_bytes (hc : c.Lawful) (vs : List α) : (vs.map c.bytes).map c.parse = vs := by
  rw [List.map_map]
  exact List.map_id'' hc.parse_bytes vs

/-- The populated bytes are the bytes of the elements in a row. -/
theorem populated_eq_flatMap (hc : c.Lawful) (ha : a.Packed) :
    a.populated = a.toList.flatMap c.bytes := by
  have hcells : ∀ b ∈ a.cells, c.bytes (c.parse b) = b := by
    intro b hb
    obtain ⟨i, hi, rfl⟩ := List.mem_map.mp hb
    have hroom := Nat.lt_of_lt_of_le (List.mem_range.mp hi) ha.count_le
    exact hc.bytes_parse _ (ha.length_cell hroom)
  rw [populated_eq_flatten, toList_eq_map, List.flatMap_map, List.flatMap_def,
    List.map_congr_left hcells, List.map_id']

/-! ## Walking -/

namespace Cursor

theorem next_of_lt (ha : a.Packed) {p : Nat} (h : p < a.count) :
    (Cursor.mk p).next a =
      { outcome := .ok (some (c.parse (a.cell p)), ⟨p + 1⟩), state := a, log := [] } := by
  have hroom : p < a.capacity := Nat.lt_of_lt_of_le h ha.count_le
  have hword : p + 1 < wordLimit := Nat.lt_of_le_of_lt hroom ha.capacity_lt
  rw [next, Op.state_bind, if_pos h, Op.bind_of_ok (readAt_eq ha hroom), Op.word_bind_of_lt hword]
  rfl

theorem next_of_ge {p : Nat} (h : a.count ≤ p) :
    (Cursor.mk p).next a = { outcome := .ok (none, ⟨p⟩), state := a, log := [] } := by
  rw [next, Op.state_bind, if_neg (Nat.not_lt.mpr h)]
  rfl

theorem remaining_of_le {p : Nat} (h : p ≤ a.count) :
    (Cursor.mk p).remaining a = { outcome := .ok (a.count - p), state := a, log := [] } := by
  rw [remaining, Op.state_bind, Op.difference_of_le h]
  rfl

/-- A walk of `n` steps from position `p` shows the elements from there on, then nothing. -/
theorem advance_eq (ha : a.Packed) (n : Nat) {p : Nat} (hp : p ≤ a.count) :
    (Cursor.mk p).advance n a =
      { outcome := .ok (((a.toList.drop p).take n).map some ++
          List.replicate (n - (a.count - p)) none, ⟨min (p + n) a.count⟩)
        state := a
        log := [] } := by
  induction n generalizing p with
  | zero =>
    rw [advance, Op.pure_apply, Nat.add_zero, Nat.min_eq_left hp]
    simp
  | succ n ih =>
    rw [advance]
    by_cases h : p < a.count
    · have hdrop : a.toList.drop p = c.parse (a.cell p) :: a.toList.drop (p + 1) := by
        have hlen : p < a.toList.length := by rwa [length_toList]
        have hfirst := getElem?_toList_of_lt h
        rw [List.getElem?_eq_getElem hlen] at hfirst
        rw [List.drop_eq_getElem_cons hlen, Option.some.inj hfirst]
      have hleft : n + 1 - (a.count - p) = n - (a.count - (p + 1)) := by omega
      have hstop : p + (n + 1) = p + 1 + n := by omega
      rw [Op.bind_of_ok (next_of_lt ha h), hdrop, hleft, hstop]
      simp only [Op.bind_of_ok (ih h)]
      rfl
    · have hend : a.toList.drop p = [] := List.drop_eq_nil_of_le (by rw [length_toList]; omega)
      have hleft : n + 1 - (a.count - p) = n - (a.count - p) + 1 := by omega
      have hstop : min (p + (n + 1)) a.count = min (p + n) a.count := by omega
      rw [Op.bind_of_ok (next_of_ge (Nat.not_lt.mp h)), hend, hleft, hstop]
      simp only [Op.bind_of_ok (ih hp), hend, List.take_nil]
      rfl

end Cursor

theorem elements_eq (ha : a.Packed) :
    elements a = { outcome := .ok a.toList, state := a, log := [] } := by
  have hwalk := Cursor.advance_eq ha a.count (Nat.zero_le _)
  have hall : a.toList.take a.count = a.toList := List.take_of_length_le (by simp)
  rw [List.drop_zero, hall, Nat.sub_zero, Nat.sub_self, List.replicate_zero, List.append_nil]
    at hwalk
  rw [elements, Op.state_bind, Op.bind_of_ok hwalk]
  simp only [Op.pure_apply, Run.after_nil, List.filterMap_map, Function.id_comp,
    List.filterMap_some]

theorem walk_eq (ha : a.Packed) (n : Nat) :
    walk n a =
      { outcome := .ok
          { ahead := a.count
            answers := (a.toList.take n).map some ++ List.replicate (n - a.count) none
            left := a.count - min n a.count }
        state := a
        log := [] } := by
  have hwalk := Cursor.advance_eq ha n (Nat.zero_le _)
  rw [List.drop_zero, Nat.sub_zero, Nat.zero_add] at hwalk
  -- the cursor stands in front of an element or at the end, so there is no underflow
  have hleft := Cursor.remaining_of_le (a := a) (Nat.min_le_right n a.count)
  rw [walk, Op.bind_of_ok (Cursor.remaining_of_le (Nat.zero_le a.count)), Op.bind_of_ok hwalk]
  simp only [Op.bind_of_ok hleft]
  rfl

/-! ## Calls on arrays -/

/-- The call acts on the array as on the list of its elements, or it breaks down for want of room
and changes nothing. -/
def ActsAsOn (call : ArrayCall α) (a : HostArray c) (elements : List α) : Prop :=
  ((perform call a).outcome = (call.onList elements).outcome ∧
      (perform call a).state.Packed ∧
      (perform call a).state.toList = (call.onList elements).list) ∨
    ((a.capacity < call.demand elements ∨ wordLimit ≤ call.demand elements) ∧
      (call.onList elements).outcome.isOk = true ∧
      (∃ t, (perform call a).outcome = .trapped t) ∧ (perform call a).state = a)

/-- An operation that ends well acts as the list says if its cells are the list's. -/
theorem acts_of_run {call : ArrayCall α} {elements : List α} {o : Outcome (Reply α)}
    {b : HostArray c} {l : List Log.Entry}
    (hrun : perform call a = { outcome := o, state := b, log := l }) (hb : b.Packed)
    (hspec : call.onList elements = ⟨o, b.toList⟩) : ActsAsOn call a elements := by
  refine .inl ⟨?_, ?_, ?_⟩
  · rw [hrun, hspec]
  · rw [hrun]
    exact hb
  · rw [hrun, hspec]

/-- An operation that asks for room acts as the list says, or breaks down. -/
theorem acts_of_cases {β : Type} {call : ArrayCall α} {x : Op (HostArray c) β} {g : β → Reply α}
    {v : β} {cs : List Bytes} {P Q : Prop} (hcall : perform call = x >>= fun b => pure (g b))
    (hcases : (P ∧ ∃ t l, x a = { outcome := .trapped t, state := a, log := l }) ∨
      (Q ∧ ∃ b l, x a = { outcome := .ok v, state := b, log := l } ∧ b.Packed ∧ b.cells = cs))
    (hP : P → a.capacity < call.demand a.toList ∨ wordLimit ≤ call.demand a.toList)
    (hspec : call.onList a.toList = ⟨.ok (g v), cs.map c.parse⟩) :
    ActsAsOn call a a.toList := by
  obtain ⟨hp, t, l, hrun⟩ | ⟨-, b, l, hrun, hb, hcells⟩ := hcases
  · have hrun' : perform call a = { outcome := .trapped t, state := a, log := l } := by
      rw [hcall, Op.map_apply, hrun]
      rfl
    exact .inr ⟨hP hp, by rw [hspec]; rfl, ⟨t, by rw [hrun']⟩, by rw [hrun']⟩
  · have hrun' : perform call a = { outcome := .ok (g v), state := b, log := l } := by
      rw [hcall, Op.map_apply, hrun]
      rfl
    exact acts_of_run hrun' hb (by rw [hspec, ← hcells, ← toList_eq_map])

/-- A change of the room keeps the list, or it breaks down. -/
theorem acts_of_sameCells {call : ArrayCall α} {x : Op (HostArray c) Unit} {n : Nat}
    {Q : HostArray c → Prop} (ha : a.Packed) (hcall : perform call = x >>= fun _ => pure .done)
    (hcases : (¬ c.Fits n ∧ ∃ t l, x a = { outcome := .trapped t, state := a, log := l }) ∨
      (c.Fits n ∧ ∃ b l, x a = { outcome := .ok (), state := b, log := l } ∧ SameCells a b ∧ Q b))
    (hdemand : call.demand a.toList = n) (hspec : call.onList a.toList = ⟨.ok .done, a.toList⟩) :
    ActsAsOn call a a.toList := by
  refine acts_of_cases (g := fun _ => .done) (v := ()) (P := ¬ c.Fits n) (Q := c.Fits n) hcall ?_ ?_
    (hspec.trans (by rw [← toList_eq_map]))
  · exact hcases.imp_right fun ⟨hfree, b, l, hrun, hb, _⟩ =>
      ⟨hfree, b, l, hrun, hb.packed, hb.cells⟩
  · intro hexcess
    rw [hdemand]
    exact .inl (ha.lt_of_not_fits hexcess)

theorem acts_of_outside {call : ArrayCall α} {i : Nat} (ha : a.Packed)
    (hrun : perform call a = Op.raise source (.indexOutOfRange i a.count) a)
    (hspec : call.onList a.toList = ArrayCall.outside a.toList i) : ActsAsOn call a a.toList := by
  rw [Op.raise_apply] at hrun
  refine acts_of_run hrun ha ?_
  rw [hspec, ArrayCall.outside, length_toList]

theorem perform_get (ha : a.Packed) (i : Nat) : ActsAsOn (.get i) a a.toList := by
  by_cases h : i < a.count
  · refine acts_of_run (b := a) (o := .ok (.element (c.parse (a.cell i)))) (l := []) ?_ ha ?_
    · rw [perform, Op.map_apply, get_of_lt ha h]
      rfl
    · rw [ArrayCall.onList, getElem?_toList_of_lt h]
  · refine acts_of_outside (i := i) ha ?_ ?_
    · rw [perform, Op.map_apply, get_of_ge (Nat.not_lt.mp h)]
      rfl
    · rw [ArrayCall.onList, getElem?_toList_of_ge (Nat.not_lt.mp h)]

theorem perform_set (hc : c.Lawful) (ha : a.Packed) (i : Nat) (v : α) :
    ActsAsOn (.set i v) a a.toList := by
  by_cases h : i < a.count
  · have hroom : i < a.capacity := Nat.lt_of_lt_of_le h ha.count_le
    have hlen := hc.length_bytes v
    refine acts_of_run (b := a.overwriteCells i (c.bytes v)) (o := .ok .done) (l := []) ?_ ?_ ?_
    · rw [perform, Op.map_apply, set_of_lt hc.sized ha h]
      rfl
    · exact ha.overwriteCells (by rw [hlen, Nat.one_mul] : (c.bytes v).length = 1 * c.size) hroom
    · rw [ArrayCall.onList, if_pos (by rwa [length_toList]), toList_eq_map, toList_eq_map,
        cells_overwriteCell ha hroom hlen, List.map_set, hc.parse_bytes]
  · refine acts_of_outside (i := i) ha ?_ ?_
    · rw [perform, Op.map_apply, set_of_ge (Nat.not_lt.mp h)]
      rfl
    · rw [ArrayCall.onList, if_neg (by rwa [length_toList])]

theorem perform_append (hc : c.Lawful) (ha : a.Packed) (v : α) :
    ActsAsOn (.append v) a a.toList := by
  refine acts_of_cases rfl (append_cases hc.sized ha v) ?_ ?_
  · rintro ⟨hfull, -⟩
    refine .inl ?_
    rw [ArrayCall.demand, length_toList]
    omega
  · rw [ArrayCall.onList, length_toList, List.map_append, ← toList_eq_map, List.map_singleton,
      hc.parse_bytes]

theorem perform_appendAll (hc : c.Lawful) (ha : a.Packed) (vs : List α) :
    ActsAsOn (.appendAll vs) a a.toList := by
  refine acts_of_cases rfl (appendAll_cases hc.sized ha vs) ?_ ?_
  · rw [ArrayCall.demand, length_toList]
    exact fun hexcess => .inl (ha.lt_of_not_fits hexcess)
  · rw [ArrayCall.onList, length_toList, List.map_append, ← toList_eq_map, map_parse_bytes hc]

theorem perform_insert (hc : c.Lawful) (ha : a.Packed) (i : Nat) (v : α) :
    ActsAsOn (.insert i v) a a.toList := by
  by_cases h : i ≤ a.count
  · refine acts_of_cases rfl (insert_cases hc.sized ha h v) ?_ ?_
    · rintro ⟨hfull, -⟩
      refine .inl ?_
      rw [ArrayCall.demand, length_toList]
      omega
    · rw [ArrayCall.onList, if_pos (by rwa [length_toList]), List.map_insertIdx, hc.parse_bytes,
        ← toList_eq_map]
  · refine acts_of_outside (i := i) ha ?_ ?_
    · rw [perform, Op.map_apply, insert_of_gt (Nat.not_le.mp h)]
      rfl
    · rw [ArrayCall.onList, if_neg (by rwa [length_toList])]

theorem perform_removeAt (ha : a.Packed) (i : Nat) : ActsAsOn (.removeAt i) a a.toList := by
  by_cases h : i < a.count
  · refine acts_of_run (b := a.removed i) (o := .ok (.element (c.parse (a.cell i)))) (l := [])
      ?_ (packed_removed ha h) ?_
    · rw [perform, Op.map_apply, removeAt_of_lt ha h]
      rfl
    · rw [ArrayCall.onList, getElem?_toList_of_lt h, toList_eq_map (a.removed i),
        cells_removed ha h, ← List.eraseIdx_map, ← toList_eq_map]
  · refine acts_of_outside (i := i) ha ?_ ?_
    · rw [perform, Op.map_apply, removeAt_of_ge (Nat.not_lt.mp h)]
      rfl
    · rw [ArrayCall.onList, getElem?_toList_of_ge (Nat.not_lt.mp h)]

/-- Keeping the first elements is taking them from the list. -/
theorem toList_truncate {n : Nat} (h : n ≤ a.count) :
    ({ a with count := n } : HostArray c).toList = a.toList.take n := by
  rw [toList_eq_map, cells_truncate h, List.map_take, ← toList_eq_map]

theorem take_min_toList (a : HostArray c) (n : Nat) :
    a.toList.take (min a.count n) = a.toList.take n := by
  rw [Nat.min_comm, ← length_toList, ← List.take_eq_take_min]

theorem perform_truncate (ha : a.Packed) (n : Nat) : ActsAsOn (.truncate n) a a.toList := by
  have hmin : min a.count n ≤ a.count := Nat.min_le_left ..
  refine acts_of_run (b := { a with count := min a.count n }) (o := .ok .done) (l := []) rfl
    (ha.truncate hmin) ?_
  rw [ArrayCall.onList, toList_truncate hmin, take_min_toList]

theorem perform_resize (hc : c.Lawful) (ha : a.Packed) (n : Nat) (v : α) :
    ActsAsOn (.resize n v) a a.toList := by
  by_cases h : n ≤ a.count
  · have hmin : min a.count n ≤ a.count := Nat.min_le_left ..
    refine acts_of_run (b := { a with count := min a.count n }) (o := .ok .done) (l := []) ?_
      (ha.truncate hmin) ?_
    · rw [perform, Op.map_apply, resize_of_le h]
      rfl
    · rw [ArrayCall.onList, toList_truncate hmin, take_min_toList, length_toList,
        Nat.sub_eq_zero_of_le h, List.replicate_zero, List.append_nil]
  · have hlt := Nat.not_le.mp h
    refine acts_of_cases rfl (resize_cases hc.sized ha hlt v)
      (fun hexcess => .inl (ha.lt_of_not_fits hexcess)) ?_
    rw [ArrayCall.onList, length_toList, List.take_of_length_le (by rw [length_toList]; omega),
      List.map_append, List.map_replicate, hc.parse_bytes, ← toList_eq_map]

theorem perform_clear (ha : a.Packed) : ActsAsOn .clear a a.toList :=
  acts_of_run (b := { a with count := 0 }) (o := .ok .done) (l := []) rfl
    (ha.truncate (Nat.zero_le _)) rfl

theorem perform_setCapacity (ha : a.Packed) (n : Nat) : ActsAsOn (.setCapacity n) a a.toList := by
  by_cases h : n < a.count
  · have hrun : perform (.setCapacity n) a = Op.raise source (.invalidArgument
        s!"cannot shrink below logical count: capacity {n} < count {a.count}") a := by
      rw [perform, Op.map_apply, setCapacity_of_lt h]
      rfl
    rw [Op.raise_apply] at hrun
    refine acts_of_run hrun ha ?_
    rw [ArrayCall.onList, length_toList, if_pos h]
  · refine acts_of_sameCells ha rfl (setCapacity_cases ha (Nat.not_lt.mp h)) rfl ?_
    rw [ArrayCall.onList, length_toList, if_neg h]

theorem perform_reserve (ha : a.Packed) (n : Nat) : ActsAsOn (.reserve n) a a.toList :=
  acts_of_sameCells ha rfl (reserve_cases ha n) rfl rfl

theorem perform_elements (ha : a.Packed) : ActsAsOn .elements a a.toList := by
  refine acts_of_run (b := a) (o := .ok (.elements a.toList)) (l := []) ?_ ha rfl
  rw [perform, Op.map_apply, elements_eq ha]
  rfl

theorem perform_walk (ha : a.Packed) (n : Nat) : ActsAsOn (.walk n) a a.toList := by
  have hspec : (ArrayCall.walk n).onList a.toList = ⟨_, a.toList⟩ := rfl
  refine acts_of_run (b := a) (l := []) ?_ ha hspec
  rw [perform, Op.map_apply, walk_eq ha, length_toList]
  rfl

/-- Every call on a packed array acts as on the list of its elements. -/
theorem perform_acts (hc : c.Lawful) (ha : a.Packed) (call : ArrayCall α) :
    ActsAsOn call a a.toList := by
  cases call with
  | get i => exact perform_get ha i
  | set i v => exact perform_set hc ha i v
  | append v => exact perform_append hc ha v
  | appendAll vs => exact perform_appendAll hc ha vs
  | insert i v => exact perform_insert hc ha i v
  | removeAt i => exact perform_removeAt ha i
  | truncate n => exact perform_truncate ha n
  | resize n v => exact perform_resize hc ha n v
  | clear => exact perform_clear ha
  | setCapacity n => exact perform_setCapacity ha n
  | reserve n => exact perform_reserve ha n
  | elements => exact perform_elements ha
  | walk n => exact perform_walk ha n

/-! ## Runs of calls -/

/-- The arrays that calls lead to from a new one, whatever the outcomes of the calls.  An empty
array is one with room for no element. -/
inductive Reachable : HostArray c → Prop where
  /-- An array is made with some room. -/
  | withCapacity {n : Nat} {a : HostArray c}
      (made : ((withCapacity n : Op Unit (HostArray c)) ()).outcome = .ok a) : Reachable a
  /-- An array is made of some elements. -/
  | ofList {vs : List α} {a : HostArray c}
      (made : ((ofList vs : Op Unit (HostArray c)) ()).outcome = .ok a) : Reachable a
  /-- A call is run on an array. -/
  | perform {a : HostArray c} (call : ArrayCall α) (earlier : Reachable a) :
      Reachable (HostArray.perform call a).state

/-- The array without elements and with room for `n` of them. -/
def vacant (n : Nat) : HostArray c :=
  { storage := Region.zeros (n * c.size), capacity := n, count := 0 }

theorem packed_vacant {n : Nat} (h : c.Fits n) : (vacant n : HostArray c).Packed where
  length_storage := Region.length_zeros _
  count_le := Nat.zero_le _
  length_le := by
    rw [vacant, Region.length_zeros]
    exact h.size_le
  capacity_lt := h.word

theorem withCapacity_of_fits {σ : Type} {n : Nat} (h : c.Fits n) (s : σ) :
    (withCapacity n : Op σ (HostArray c)) s =
      { outcome := .ok (vacant n), state := s, log := [] } := by
  rw [withCapacity, Op.word_bind_of_lt h.word, Op.word_bind_of_lt h.place_lt,
    Op.roomFor_bind_of_le h.size_le]
  rfl

/-- How room for more elements than possible breaks down. -/
def excess (c : Codec α) (n : Nat) : Trap :=
  if n < wordLimit ∧ n * c.size < wordLimit then .regionTooLarge else .overflow

theorem withCapacity_of_not_fits {σ : Type} {n : Nat} (h : ¬ c.Fits n) (s : σ) :
    (withCapacity n : Op σ (HostArray c)) s =
      { outcome := .trapped (excess c n), state := s, log := [] } := by
  rw [withCapacity, excess]
  by_cases hword : n < wordLimit
  · rw [Op.word_bind_of_lt hword]
    by_cases hsize : n * c.size < wordLimit
    · have hlarge : regionLimit < n * c.size := Nat.not_le.mp fun hle => h ⟨hword, hle⟩
      rw [Op.word_bind_of_lt hsize, Op.roomFor_bind_of_gt hlarge, if_pos ⟨hword, hsize⟩]
      rfl
    · rw [Op.word_bind_of_ge (by omega), if_neg fun hboth => hsize hboth.2]
      rfl
  · rw [Op.word_bind_of_ge (by omega), if_neg fun hboth => hword hboth.1]
    rfl

theorem eq_vacant_of_withCapacity {n : Nat}
    (h : ((withCapacity n : Op Unit (HostArray c)) ()).outcome = .ok a) :
    a = vacant n ∧ c.Fits n := by
  by_cases hn : c.Fits n
  · rw [withCapacity_of_fits hn] at h
    exact ⟨(Outcome.ok.inj h).symm, hn⟩
  · rw [withCapacity_of_not_fits hn] at h
    cases h

theorem fits_zero : c.Fits 0 where
  word := by decide
  size_le := by
    rw [Nat.zero_mul]
    exact Nat.zero_le _

/-- An array is made of elements by adding them to one without room. -/
theorem ofList_eq {σ : Type} (vs : List α) (s : σ) :
    (ofList vs : Op σ (HostArray c)) s =
      { outcome := (appendAll vs (vacant 0 : HostArray c)).outcome.map fun _ =>
          (appendAll vs (vacant 0 : HostArray c)).state
        state := s
        log := (appendAll vs (vacant 0 : HostArray c)).log } := by
  rw [ofList, Op.bind_of_ok (withCapacity_of_fits fits_zero s), Run.after_nil]
  rcases hrun : appendAll vs (vacant 0 : HostArray c) with ⟨b | e | t, a, l⟩
  · simp [Op.bind_apply, Op.beside, Op.onFst, Op.focus, hrun, Outcome.map, Op.pure_apply, Run.after]
  · simp [Op.bind_apply, Op.beside, Op.onFst, Op.focus, hrun, Outcome.map]
  · simp [Op.bind_apply, Op.beside, Op.onFst, Op.focus, hrun, Outcome.map]

theorem packed_vacant_zero : (vacant 0 : HostArray c).Packed :=
  packed_vacant fits_zero

/-- An array made of elements shows these elements. -/
theorem toList_of_ofList (hc : c.Lawful) {vs : List α}
    (h : ((ofList vs : Op Unit (HostArray c)) ()).outcome = .ok a) :
    a.Packed ∧ a.toList = vs := by
  rw [ofList_eq] at h
  obtain ⟨-, t, l, hrun⟩ | ⟨-, b, l, hrun, hb, hcells⟩ :=
    appendAll_cases hc.sized (packed_vacant_zero (c := c)) vs
  · rw [hrun] at h
    cases h
  · rw [hrun] at h
    obtain rfl := Outcome.ok.inj h
    refine ⟨hb, ?_⟩
    rw [toList_eq_map, hcells, List.map_append, map_parse_bytes hc]
    rfl

/-- Calls, however they end, leave a packed array. -/
theorem packed_perform (hc : c.Lawful) (ha : a.Packed) (call : ArrayCall α) :
    (perform call a).state.Packed := by
  obtain ⟨-, hpacked, -⟩ | ⟨-, -, -, hsame⟩ := perform_acts hc ha call
  · exact hpacked
  · rwa [hsame]

theorem Reachable.packed (hc : c.Lawful) (h : Reachable a) : a.Packed := by
  induction h with
  | withCapacity made =>
    obtain ⟨rfl, hroom⟩ := eq_vacant_of_withCapacity made
    exact packed_vacant hroom
  | ofList made => exact (toList_of_ofList hc made).1
  | perform call _ ih => exact packed_perform hc ih call

/-- Host arrays of every format are lists.  A new array shows the elements it was made of.  After
any run of calls the array has one list of elements: a walk to the end shows it, the populated bytes
are its bytes, and the count is its length.  Every further call answers and changes the list as
`ArrayCall.onList` says, unless it asks for more room than there is and breaks down; then the array
is as before. -/
theorem acts_as_list (f : Format) :
    (∀ (n : Nat) (a : HostArray f.codec),
      ((withCapacity n : Op Unit (HostArray f.codec)) ()).outcome = .ok a →
        (elements a).outcome = .ok []) ∧
    (∀ (vs : List f.Element) (a : HostArray f.codec),
      ((ofList vs : Op Unit (HostArray f.codec)) ()).outcome = .ok a →
        (elements a).outcome = .ok vs) ∧
    ∀ a : HostArray f.codec, Reachable a → ∃ L : List f.Element,
      elements a = { outcome := .ok L, state := a, log := [] } ∧
      a.populated = L.flatMap f.codec.bytes ∧
      a.count = L.length ∧
      ∀ call : ArrayCall f.Element,
        ((perform call a).outcome = (call.onList L).outcome ∧
          (elements (perform call a).state).outcome = .ok (call.onList L).list) ∨
        ((a.capacity < call.demand L ∨ wordLimit ≤ call.demand L) ∧
          (call.onList L).outcome.isOk = true ∧
          (∃ t, (perform call a).outcome = .trapped t) ∧ (perform call a).state = a) := by
  have hc := f.lawful
  refine ⟨?_, ?_, ?_⟩
  · intro n a made
    obtain ⟨rfl, hroom⟩ := eq_vacant_of_withCapacity made
    rw [elements_eq (packed_vacant hroom)]
    rfl
  · intro vs a made
    obtain ⟨ha, hlist⟩ := toList_of_ofList hc made
    rw [elements_eq ha, hlist]
  · intro a hreach
    have ha := hreach.packed hc
    refine ⟨a.toList, elements_eq ha, populated_eq_flatMap hc ha, (length_toList a).symm, ?_⟩
    intro call
    refine (perform_acts hc ha call).imp_left ?_
    rintro ⟨houtcome, hpacked, hlist⟩
    exact ⟨houtcome, by rw [elements_eq hpacked, hlist]⟩

/-- Two bytes in a full array: the array was made of them, and an insertion, which needs more room,
acts on their list. -/
theorem acts_as_list_pair :
    ∃ a : HostArray Format.uint8.codec,
      ((ofList [7, 9] : Op Unit (HostArray Format.uint8.codec)) ()).outcome = .ok a ∧
      (elements a).outcome = .ok [7, 9] ∧
      ∃ L : List UInt8,
        elements a = { outcome := .ok L, state := a, log := [] } ∧
        a.populated = L.flatMap Format.uint8.codec.bytes ∧
        a.count = L.length ∧
        (((perform (.insert 1 8) a).outcome = .ok .done ∧
            (elements (perform (.insert 1 8) a).state).outcome = .ok (L.insertIdx 1 8)) ∨
          a.capacity < L.length + 1 ∧ (perform (.insert 1 8) a).state = a) := by
  have made : ((ofList [7, 9] : Op Unit (HostArray Format.uint8.codec)) ()).outcome =
      .ok { storage := [7, 9], capacity := 2, count := 2 } := rfl
  obtain ⟨-, hnew, hrun⟩ := acts_as_list .uint8
  obtain ⟨L, helements, hbytes, hcount, hcalls⟩ := hrun _ (.ofList made)
  refine ⟨_, made, hnew _ _ made, L, helements, hbytes, hcount, ?_⟩
  have hlen : 1 ≤ L.length := by
    rw [← hcount]
    decide
  have hinsert := hcalls (.insert 1 8)
  rw [ArrayCall.onList, if_pos hlen] at hinsert
  refine hinsert.imp_right ?_
  rintro ⟨-, -, -, hsame⟩
  rw [← hcount]
  exact ⟨by decide, hsame⟩

end HostArray

end BufferSync
