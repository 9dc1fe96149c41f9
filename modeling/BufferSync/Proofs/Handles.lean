import BufferSync.Device.HandleTable

/-!
# Handles come once

A table is *sound* if its freed slots are vacant and listed once.  On a sound table the value under
a handle follows from what was inserted, replaced and erased, just as if handles were plain keys:
slots and versions do not show (`find?_insert`, `find?_replace`, `find?_erase`).

A handle is *issued* if its slot has been used with its version or a later one.  Issued handles stay
issued, and the handle of a new value is not issued yet.  So a handle that was given out once is
never given out again, whatever happened to its value.

The number of values goes up by one with every insertion and down by one with every erasure.
-/

namespace BufferSync.HandleTable

variable {β : Type} {t : HandleTable β} {h k : Handle}

/-- The freed slots hold nothing, and each is listed once. -/
structure Sound (t : HandleTable β) : Prop where
  /-- No slot was freed twice. -/
  free_nodup : t.free.Nodup
  /-- A freed slot exists and holds nothing. -/
  free_vacant : ∀ slot ∈ t.free, ∃ s, t.slots[slot]? = some s ∧ s.content = none

/-- The slot of the handle has been used with its version or a later one. -/
def Issued (t : HandleTable β) (h : Handle) : Prop :=
  ∃ s, t.slots[h.slot]? = some s ∧
    (h.version < s.version ∨ h.version = s.version ∧ s.content.isSome)

/-! ## Slots of known handles -/

theorem find?_eq_some_iff {b : β} :
    t.find? h = some b ↔ t.slots[h.slot]? = some ⟨h.version, some b⟩ := by
  rw [find?]
  constructor
  · intro hfind
    split at hfind
    next s hs =>
      split at hfind
      next hversion =>
        rw [hs, ← hversion, ← hfind]
      next => cases hfind
    next => cases hfind
  · intro hslot
    rw [hslot]
    simp

theorem contains_iff : t.contains h = true ↔ ∃ b, t.find? h = some b := by
  rw [contains, Option.isSome_iff_exists]

theorem find?_of_not_contains (hk : t.contains h = false) : t.find? h = none := by
  rw [contains, Option.isSome_eq_false_iff, Option.isNone_iff_eq_none] at hk
  exact hk

/-- A known handle was issued. -/
theorem issued_of_find? {b : β} (hfind : t.find? h = some b) : t.Issued h :=
  ⟨_, find?_eq_some_iff.mp hfind, .inr ⟨rfl, rfl⟩⟩

/-- A slot that holds nothing has no known handle. -/
theorem find?_of_vacant {s : Slot β} (hs : t.slots[h.slot]? = some s) (hv : s.content = none) :
    t.find? h = none := by
  rw [find?, hs]
  simp [hv]

theorem version_eq {s : Slot β} {slot : Nat} (hs : t.slots[slot]? = some s) :
    t.version slot = s.version := by
  rw [version, hs]

theorem sound_empty : ({} : HandleTable β).Sound :=
  ⟨List.nodup_nil, fun _ hmem => absurd hmem List.not_mem_nil⟩

theorem find?_empty (h : Handle) : ({} : HandleTable β).find? h = none := by
  cases hslot : h.slot with
  | zero => exact find?_of_vacant (s := ⟨0, none⟩) (by rw [hslot]; rfl) rfl
  | succ n =>
    rw [find?, hslot]
    rfl

/-! ## New values -/

/-- The handle of a new value was never given out before. -/
theorem not_issued_nextHandle (ht : t.Sound) : ¬ t.Issued t.nextHandle := by
  rintro ⟨s, hs, hissued⟩
  rw [nextHandle] at hs hissued
  split at hs
  next slot rest hfree =>
    rw [hfree] at hissued
    obtain ⟨s', hs', hvacant⟩ := ht.free_vacant slot (by rw [hfree]; exact List.mem_cons_self)
    obtain rfl : s' = s := Option.some.inj (hs'.symm.trans hs)
    have hversion : t.version slot = s'.version := version_eq hs'
    simp only [hversion, hvacant, Option.isSome_none, Bool.false_eq_true, and_false, or_false]
      at hissued
    exact absurd hissued (Nat.lt_irrefl _)
  next =>
    rw [List.getElem?_eq_none (Nat.le_refl _)] at hs
    cases hs

theorem find?_insert (ht : t.Sound) (b : β) (h : Handle) :
    (t.insert b).find? h = if h = t.nextHandle then some b else t.find? h := by
  rw [insert, nextHandle]
  split
  next slot rest hfree =>
    obtain ⟨s, hs, hvacant⟩ := ht.free_vacant slot (by rw [hfree]; exact List.mem_cons_self)
    by_cases hslot : h.slot = slot
    · subst hslot
      have hlt : h.slot < t.slots.length := (List.getElem?_eq_some_iff.mp hs).1
      rw [find?_of_vacant hs hvacant, find?]
      simp only [List.getElem?_set_self hlt]
      by_cases hversion : t.version h.slot = h.version
      · rw [if_pos hversion, if_pos (by rw [hversion])]
      · rw [if_neg hversion, if_neg (fun heq => hversion (congrArg Handle.version heq).symm)]
    · rw [if_neg (fun heq => hslot (congrArg Handle.slot heq)), find?, find?]
      simp only [List.getElem?_set_ne (fun heq => hslot heq.symm)]
  next =>
    by_cases hslot : h.slot < t.slots.length
    · have hne : h ≠ ⟨t.slots.length, 1⟩ := by
        intro heq
        rw [heq] at hslot
        exact absurd hslot (Nat.lt_irrefl _)
      rw [if_neg hne, find?, find?]
      simp only [List.getElem?_append_left hslot]
    · have hold : t.find? h = none := by
        rw [find?, List.getElem?_eq_none (Nat.not_lt.mp hslot)]
      rw [hold, find?]
      by_cases hlast : h.slot = t.slots.length
      · simp only [hlast, List.getElem?_concat_length]
        by_cases hversion : 1 = h.version
        · rw [if_pos hversion, if_pos (by rw [← hlast, hversion])]
        · rw [if_neg hversion, if_neg (fun heq => hversion (congrArg Handle.version heq).symm)]
      · rw [if_neg (fun heq => hlast (congrArg Handle.slot heq)),
          List.getElem?_eq_none (by simp only [List.length_append, List.length_singleton]; omega)]

theorem Issued.insert (ht : t.Sound) (b : β) (hi : t.Issued h) : (t.insert b).Issued h := by
  obtain ⟨s, hs, hversion⟩ := hi
  rw [HandleTable.insert]
  split
  next slot rest hfree =>
    obtain ⟨s', hs', hvacant⟩ := ht.free_vacant slot (by rw [hfree]; exact List.mem_cons_self)
    by_cases hslot : h.slot = slot
    · subst hslot
      obtain rfl : s' = s := Option.some.inj (hs'.symm.trans hs)
      refine ⟨_, List.getElem?_set_self (List.getElem?_eq_some_iff.mp hs).1, ?_⟩
      simp only [hvacant, Option.isSome_none, Bool.false_eq_true, and_false, or_false] at hversion
      exact .inl (by rwa [version_eq hs])
    · exact ⟨s, by simp only [List.getElem?_set_ne (fun heq => hslot heq.symm), hs], hversion⟩
  next =>
    have hlt := (List.getElem?_eq_some_iff.mp hs).1
    exact ⟨s, by simp only [List.getElem?_append_left hlt, hs], hversion⟩

theorem issued_nextHandle (ht : t.Sound) (b : β) : (t.insert b).Issued t.nextHandle := by
  apply issued_of_find? (b := b)
  rw [find?_insert ht, if_pos rfl]

theorem Sound.insert (ht : t.Sound) (b : β) : (t.insert b).Sound := by
  have hnodup := ht.free_nodup
  rw [HandleTable.insert]
  split
  next slot rest hfree =>
    rw [hfree, List.nodup_cons] at hnodup
    refine ⟨hnodup.2, ?_⟩
    intro other hmem
    have hne : slot ≠ other := fun heq => hnodup.1 (heq ▸ hmem)
    rw [List.getElem?_set_ne hne]
    exact ht.free_vacant other (by rw [hfree]; exact List.mem_cons_of_mem _ hmem)
  next => exact ⟨List.nodup_nil, fun _ hmem => absurd hmem List.not_mem_nil⟩

/-! ## Replaced and erased values -/

/-- Writing the slot of a known handle changes what is under this handle only. -/
theorem find?_set_slot {b : β} (hk : t.find? k = some b) {v : Nat} {content : Option β}
    (hv : k.version ≤ v) (hc : k.version < v → content = none) (free : List Nat) (h : Handle) :
    (HandleTable.mk (t.slots.set k.slot ⟨v, content⟩) free).find? h =
      if h = k then content else t.find? h := by
  have hslot := find?_eq_some_iff.mp hk
  have hlt : k.slot < t.slots.length := (List.getElem?_eq_some_iff.mp hslot).1
  rw [find?, find?]
  by_cases hs : h.slot = k.slot
  · simp only [hs, List.getElem?_set_self hlt, hslot]
    by_cases hversion : h.version = k.version
    · have heq : h = k := by
        cases h
        cases k
        simp_all
      rw [if_pos heq]
      split
      · rfl
      · exact (hc (by omega)).symm
    · rw [if_neg (fun heq => hversion (congrArg Handle.version heq)),
        if_neg (fun heq : k.version = h.version => hversion heq.symm)]
      split
      next heq => exact hc (by omega)
      next => rfl
  · rw [if_neg (fun heq => hs (congrArg Handle.slot heq))]
    simp only [List.getElem?_set_ne (fun heq => hs heq.symm)]

theorem find?_replace {b : β} (hk : t.find? k = some b) (new : β) (h : Handle) :
    (t.replace k new).find? h = if h = k then some new else t.find? h :=
  find?_set_slot hk (Nat.le_refl _) (fun hlt => absurd hlt (Nat.lt_irrefl _)) t.free h

theorem find?_erase {b : β} (hk : t.find? k = some b) (h : Handle) :
    (t.erase k).find? h = if h = k then none else t.find? h :=
  find?_set_slot hk (Nat.le_add_right _ 2) (fun _ => rfl) (k.slot :: t.free) h

theorem Issued.set_slot {b : β} (hk : t.find? k = some b) {s : Slot β}
    (hs : k.version < s.version ∨ k.version = s.version ∧ s.content.isSome) (free : List Nat)
    (hi : t.Issued h) : (HandleTable.mk (t.slots.set k.slot s) free).Issued h := by
  have hslot := find?_eq_some_iff.mp hk
  have hlt : k.slot < t.slots.length := (List.getElem?_eq_some_iff.mp hslot).1
  obtain ⟨s', hs', hversion⟩ := hi
  by_cases hsame : h.slot = k.slot
  · rw [hsame, hslot] at hs'
    obtain rfl := Option.some.inj hs'
    refine ⟨s, by simp only [hsame, List.getElem?_set_self hlt], ?_⟩
    have hle : h.version ≤ k.version := by
      rcases hversion with hlt | ⟨heq, -⟩
      · exact Nat.le_of_lt hlt
      · exact Nat.le_of_eq heq
    rcases hs with hlater | ⟨hsame, hcontent⟩
    · exact .inl (Nat.lt_of_le_of_lt hle hlater)
    · exact (Nat.lt_or_eq_of_le (hsame ▸ hle)).imp_right fun heq => ⟨heq, hcontent⟩
  · exact ⟨s', by simp only [List.getElem?_set_ne (fun heq => hsame heq.symm), hs'], hversion⟩

theorem Issued.replace {b : β} (hk : t.find? k = some b) (new : β) (hi : t.Issued h) :
    (t.replace k new).Issued h :=
  hi.set_slot hk (.inr ⟨rfl, rfl⟩) t.free

theorem Issued.erase {b : β} (hk : t.find? k = some b) (hi : t.Issued h) : (t.erase k).Issued h :=
  hi.set_slot hk (.inl (by simp only; omega)) (k.slot :: t.free)

/-- The slot of a known handle is not a freed one. -/
theorem Sound.slot_not_mem_free (ht : t.Sound) {b : β} (hk : t.find? k = some b) :
    k.slot ∉ t.free := by
  intro hmem
  obtain ⟨s, hs, hvacant⟩ := ht.free_vacant k.slot hmem
  rw [find?_of_vacant hs hvacant] at hk
  cases hk

theorem Sound.replace (ht : t.Sound) {b : β} (hk : t.find? k = some b) (new : β) :
    (t.replace k new).Sound := by
  refine ⟨ht.free_nodup, ?_⟩
  intro slot hmem
  have hne : k.slot ≠ slot := fun heq => ht.slot_not_mem_free hk (heq ▸ hmem)
  rw [HandleTable.replace, List.getElem?_set_ne hne]
  exact ht.free_vacant slot hmem

theorem Sound.erase (ht : t.Sound) {b : β} (hk : t.find? k = some b) : (t.erase k).Sound := by
  have hlt := (List.getElem?_eq_some_iff.mp (find?_eq_some_iff.mp hk)).1
  refine ⟨List.nodup_cons.mpr ⟨ht.slot_not_mem_free hk, ht.free_nodup⟩, ?_⟩
  intro slot hmem
  by_cases hslot : k.slot = slot
  · subst hslot
    exact ⟨_, List.getElem?_set_self hlt, rfl⟩
  · rw [HandleTable.erase, List.getElem?_set_ne hslot]
    rcases List.mem_cons.mp hmem with heq | hmem
    · exact absurd heq.symm hslot
    · exact ht.free_vacant slot hmem

/-! ## Number of values -/

/-- Setting a slot counts its new content in place of the old one. -/
theorem size_set_slot {slot : Nat} {s : Slot β} (hs : t.slots[slot]? = some s) (new : Slot β)
    (free : List Nat) :
    (HandleTable.mk (t.slots.set slot new) free).size + (if s.content.isSome then 1 else 0) =
      t.size + if new.content.isSome then 1 else 0 := by
  obtain ⟨hlt, hget⟩ := List.getElem?_eq_some_iff.mp hs
  rw [size, size, List.countP_set hlt, hget]
  split
  next htaken =>
    have hpos : 0 < t.slots.countP fun s => s.content.isSome :=
      List.countP_pos_iff.mpr ⟨s, List.mem_of_getElem? hs, htaken⟩
    omega
  next => omega

theorem size_insert (ht : t.Sound) (b : β) : (t.insert b).size = t.size + 1 := by
  rw [insert]
  split
  next slot rest hfree =>
    obtain ⟨s, hs, hvacant⟩ := ht.free_vacant slot (by rw [hfree]; exact List.mem_cons_self)
    have hcount := size_set_slot hs ⟨t.version slot, some b⟩ rest
    rw [hvacant] at hcount
    exact hcount
  next => simp [size]

theorem size_replace {b : β} (hk : t.find? k = some b) (new : β) :
    (t.replace k new).size = t.size := by
  have hcount := size_set_slot (find?_eq_some_iff.mp hk) ⟨k.version, some new⟩ t.free
  exact Nat.add_right_cancel hcount

theorem size_erase {b : β} (hk : t.find? k = some b) : (t.erase k).size + 1 = t.size :=
  size_set_slot (find?_eq_some_iff.mp hk) ⟨k.version + 2, none⟩ (k.slot :: t.free)

end BufferSync.HandleTable
