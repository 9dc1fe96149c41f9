import BufferSync.Region

/-!
# Running operations

What a composed operation does is read off what its first part does.  The laws here run one part
and go on with the rest; together with `Op.bind_of_ok`, `Op.bind_of_error` and `Op.bind_of_trapped`
they are all that proofs use of the definition of an operation.

`Op.Keeps` is what can be shown about a whole operation one part at a time: a property of states
that it does not lose, whatever its outcome, and a property that all its entries have.  Both pass
through sequences and loops.  `Run.Ends` says more about one run: what its state is like for each
kind of outcome; it passes through sequences (`Op.ends_bind`).
-/

namespace BufferSync

namespace Run

variable {σ α : Type}

@[simp] theorem outcome_after (r : Run σ α) (l : List Log.Entry) :
    (r.after l).outcome = r.outcome := rfl

@[simp] theorem state_after (r : Run σ α) (l : List Log.Entry) : (r.after l).state = r.state := rfl

@[simp] theorem after_nil (r : Run σ α) : r.after [] = r := rfl

theorem after_after (r : Run σ α) (l m : List Log.Entry) :
    (r.after l).after m = r.after (m ++ l) := by
  simp [Run.after]

/-- The run ends with a value and a state that have the property `Q`, with an error and a state that
has `E`, or by a breakdown and a state that has `T`. -/
def Ends (Q : α → σ → Prop) (E T : σ → Prop) (r : Run σ α) : Prop :=
  match r.outcome with
  | .ok v => Q v r.state
  | .error _ => E r.state
  | .trapped _ => T r.state

section Ends

variable {Q Q' : α → σ → Prop} {E E' T T' : σ → Prop} {r : Run σ α}

theorem ends_ok {v : α} {s : σ} {l : List Log.Entry} (h : Q v s) :
    Ends Q E T { outcome := .ok v, state := s, log := l } := h

theorem ends_error {e : Error} {s : σ} {l : List Log.Entry} (h : E s) :
    Ends Q E T { outcome := .error e, state := s, log := l } := h

theorem ends_trapped {t : Trap} {s : σ} {l : List Log.Entry} (h : T s) :
    Ends Q E T { outcome := .trapped t, state := s, log := l } := h

theorem Ends.mono (hr : r.Ends Q E T) (hQ : ∀ v s, Q v s → Q' v s) (hE : ∀ s, E s → E' s)
    (hT : ∀ s, T s → T' s) : r.Ends Q' E' T' := by
  rcases r with ⟨v | e | t, s, l⟩
  · exact hQ v s hr
  · exact hE s hr
  · exact hT s hr

theorem Ends.after (hr : r.Ends Q E T) (l : List Log.Entry) : (r.after l).Ends Q E T := by
  rcases r with ⟨v | e | t, s, l'⟩
  · exact hr
  · exact hr
  · exact hr

theorem Ends.of_ok {v : α} (hr : r.Ends Q E T) (ho : r.outcome = .ok v) : Q v r.state := by
  rw [Ends, ho] at hr
  exact hr

theorem Ends.of_error {e : Error} (hr : r.Ends Q E T) (ho : r.outcome = .error e) : E r.state := by
  rw [Ends, ho] at hr
  exact hr

theorem Ends.of_trapped {t : Trap} (hr : r.Ends Q E T) (ho : r.outcome = .trapped t) :
    T r.state := by
  rw [Ends, ho] at hr
  exact hr

/-- What holds of all endings holds. -/
theorem Ends.elim {P : σ → Prop} (hr : r.Ends (fun _ => P) P P) : P r.state := by
  rcases r with ⟨v | e | t, s, l⟩
  · exact hr
  · exact hr
  · exact hr

end Ends

end Run

@[simp] theorem Outcome.isOk_map {α β : Type} (f : α → β) (o : Outcome α) :
    (o.map f).isOk = o.isOk := by
  cases o <;> rfl

theorem Outcome.exists_of_isOk {α : Type} {o : Outcome α} (ho : o.isOk = true) :
    ∃ v, o = .ok v := by
  cases o with
  | ok v => exact ⟨v, rfl⟩
  | error e => cases ho
  | trapped t => cases ho

theorem Outcome.exists_of_map {α β : Type} {f : α → β} {o : Outcome α} {w : β}
    (ho : o.map f = .ok w) : ∃ v, o = .ok v ∧ f v = w := by
  cases o with
  | ok v =>
    cases ho
    exact ⟨v, rfl, rfl⟩
  | error e => cases ho
  | trapped t => cases ho

theorem Outcome.error_of_map {α β : Type} {f : α → β} {o : Outcome α} {e : Error}
    (ho : o.map f = .error e) : o = .error e := by
  cases o with
  | ok v => cases ho
  | error e' =>
    cases ho
    rfl
  | trapped t => cases ho

theorem Outcome.trapped_of_map {α β : Type} {f : α → β} {o : Outcome α} {t : Trap}
    (ho : o.map f = .trapped t) : o = .trapped t := by
  cases o with
  | ok a => cases ho
  | error e => cases ho
  | trapped t' =>
    cases ho
    rfl

namespace Op

variable {σ τ α β : Type}

/-! ## The first part of a sequence -/

theorem state_bind (f : σ → Op σ α) (s : σ) : (state >>= f) s = f s s := rfl

theorem update_bind (g : σ → σ) (f : Unit → Op σ α) (s : σ) :
    (update g >>= f) s = f () (g s) := rfl

theorem note_bind (severity : Log.Severity) (source message : String) (f : Unit → Op σ α) (s : σ) :
    (note severity source message >>= f) s = (f () s).after [{ severity, source, message }] := rfl

theorem ofOutcome_bind (a : α) (f : α → Op σ β) (s : σ) : (ofOutcome (.ok a) >>= f) s = f a s := rfl

theorem word_bind_of_lt {n : Nat} (h : n < wordLimit) (f : Nat → Op σ α) : word n >>= f = f n := by
  rw [word_of_lt h, pure_bind]

theorem word_bind_of_ge {n : Nat} (h : wordLimit ≤ n) (f : Nat → Op σ α) :
    word n >>= f = trap .overflow := by
  funext s
  rw [word, if_neg (by omega)]
  rfl

theorem roomFor_bind_of_le {n : Nat} (h : n ≤ regionLimit) (f : Unit → Op σ α) :
    roomFor n >>= f = f () := by
  rw [roomFor_of_le h, pure_bind]

theorem roomFor_bind_of_gt {n : Nat} (h : regionLimit < n) (f : Unit → Op σ α) :
    roomFor n >>= f = trap .regionTooLarge := by
  funext s
  rw [roomFor, if_neg (by omega)]
  rfl

/-- If a sequence ends well, its first part does, and the rest ends the sequence. -/
theorem exists_of_bind_isOk {x : Op σ α} {f : α → Op σ β} {s : σ}
    (hok : ((x >>= f) s).outcome.isOk = true) :
    ∃ v, (x s).outcome = .ok v ∧ (x >>= f) s = (f v (x s).state).after (x s).log := by
  rcases hrun : x s with ⟨v | e | t, s', l⟩
  · exact ⟨v, rfl, bind_of_ok hrun f⟩
  · rw [bind_of_error hrun] at hok
    cases hok
  · rw [bind_of_trapped hrun] at hok
    cases hok

/-- What comes behind the first part matters only for the value and the state with which that part
ends well. -/
theorem bind_congr_of_ok {x : Op σ α} {f g : α → Op σ β} {s : σ}
    (hfg : ∀ v, (x s).outcome = .ok v → f v (x s).state = g v (x s).state) :
    (x >>= f) s = (x >>= g) s := by
  rcases hrun : x s with ⟨v | e | t, s', l⟩
  · rw [hrun] at hfg
    rw [bind_of_ok hrun, bind_of_ok hrun, hfg v rfl]
  · rw [bind_of_error hrun, bind_of_error hrun]
  · rw [bind_of_trapped hrun, bind_of_trapped hrun]

/-- Giving the value a new form changes neither the state nor the entries. -/
theorem map_apply (g : α → β) (x : Op σ α) (s : σ) :
    (x >>= fun a => pure (g a)) s =
      { outcome := (x s).outcome.map g, state := (x s).state, log := (x s).log } := by
  rw [bind_apply]
  rcases x s with ⟨_ | _ | _, _, _⟩ <;> simp [Outcome.map, pure_apply, Run.after]

/-- An operation is run for what it does, and its value is dropped. -/
theorem discard_of_ok {x : Op σ α} {s s' : σ} {a : α} {l : List Log.Entry}
    (h : x s = { outcome := .ok a, state := s', log := l }) :
    (x >>= fun _ => pure PUnit.unit) s = { outcome := .ok (), state := s', log := l } := by
  rw [map_apply, h]
  rfl

/-- A sequence ends as its first part does or, if that ends well, as the rest does. -/
theorem ends_bind {x : Op σ α} {f : α → Op σ β} {s : σ} {Q : α → σ → Prop} {R : β → σ → Prop}
    {E T : σ → Prop} (hx : (x s).Ends Q E T) (hf : ∀ v s', Q v s' → (f v s').Ends R E T) :
    ((x >>= f) s).Ends R E T := by
  rcases hrun : x s with ⟨v | e | t, s', l⟩
  · rw [hrun] at hx
    rw [bind_of_ok hrun]
    exact (hf v s' hx).after l
  · rw [hrun] at hx
    rw [bind_of_error hrun]
    exact hx
  · rw [hrun] at hx
    rw [bind_of_trapped hrun]
    exact hx

/-- An operation on a part of the state ends as it does on that part. -/
theorem ends_focus {part : σ → τ} {put : τ → σ → σ} {x : Op τ α} {s : σ} {Q : α → σ → Prop}
    {E T : σ → Prop}
    (hx : (x (part s)).Ends (fun v t => Q v (put t s)) (fun t => E (put t s))
      fun t => T (put t s)) : (focus part put x s).Ends Q E T :=
  hx

/-! ## Continuing after an error -/

theorem handle_of_ok {x : Op σ α} {s s' : σ} {a : α} {l : List Log.Entry}
    (h : x s = { outcome := .ok a, state := s', log := l }) (f : Error → Op σ α) :
    x.handle f s = { outcome := .ok a, state := s', log := l } := by
  simp [handle, h]

theorem handle_of_error {x : Op σ α} {s s' : σ} {e : Error} {l : List Log.Entry}
    (h : x s = { outcome := .error e, state := s', log := l }) (f : Error → Op σ α) :
    x.handle f s = (f e s').after l := by
  simp [handle, h]

theorem handle_of_trapped {x : Op σ α} {s s' : σ} {t : Trap} {l : List Log.Entry}
    (h : x s = { outcome := .trapped t, state := s', log := l }) (f : Error → Op σ α) :
    x.handle f s = { outcome := .trapped t, state := s', log := l } := by
  simp [handle, h]

theorem undoing_of_ok {x : Op σ α} {s s' : σ} {a : α} {l : List Log.Entry}
    (h : x s = { outcome := .ok a, state := s', log := l }) (undo : Op σ Unit) :
    x.undoing undo s = { outcome := .ok a, state := s', log := l } :=
  handle_of_ok h _

theorem undoing_of_error {x : Op σ α} {s s' : σ} {e : Error} {l : List Log.Entry}
    (h : x s = { outcome := .error e, state := s', log := l }) (f : σ → σ) :
    x.undoing (update f) s = { outcome := .error e, state := f s', log := l } := by
  rw [undoing, handle_of_error h]
  simp [update_bind, fail, Run.after]

theorem undoing_of_trapped {x : Op σ α} {s s' : σ} {t : Trap} {l : List Log.Entry}
    (h : x s = { outcome := .trapped t, state := s', log := l }) (undo : Op σ Unit) :
    x.undoing undo s = { outcome := .trapped t, state := s', log := l } :=
  handle_of_trapped h _

theorem finishing_of_ok {x : Op σ α} {s s' : σ} {a : α} {l : List Log.Entry}
    (h : x s = { outcome := .ok a, state := s', log := l }) (last : Op σ Unit) :
    x.finishing last s = { outcome := .ok a, state := s', log := l } := by
  simp [finishing, h]

theorem finishing_of_error {x : Op σ α} {s s' : σ} {e : Error} {l : List Log.Entry}
    (h : x s = { outcome := .error e, state := s', log := l }) (last : Op σ Unit) :
    x.finishing last s =
      { outcome := .error e, state := (last s').state, log := l ++ (last s').log } := by
  simp [finishing, h]

theorem finishing_of_trapped {x : Op σ α} {s s' : σ} {t : Trap} {l : List Log.Entry}
    (h : x s = { outcome := .trapped t, state := s', log := l }) (last : Op σ Unit) :
    x.finishing last s =
      { outcome := .trapped t, state := (last s').state, log := l ++ (last s').log } := by
  simp [finishing, h]

theorem outcome_finishing (x : Op σ α) (last : Op σ Unit) (s : σ) :
    (x.finishing last s).outcome = (x s).outcome := by
  rcases hrun : x s with ⟨v | e | t, s', l⟩
  · rw [finishing_of_ok hrun]
  · rw [finishing_of_error hrun]
  · rw [finishing_of_trapped hrun]

/-! ## A value beside the state -/

theorem beside_of_eq {a a' : τ} {x : Op (τ × σ) α} {s s' : σ} {o : Outcome α} {l : List Log.Entry}
    (h : x (a, s) = { outcome := o, state := (a', s'), log := l }) :
    beside a x s = { outcome := o.map fun v => (v, a'), state := s', log := l } := by
  simp [beside, h]

/-! ## Loops -/

theorem each_append (f : α → Op σ Unit) (first rest : List α) :
    each f (first ++ rest) = each f first >>= fun _ => each f rest := by
  induction first with
  | nil => rw [List.nil_append, each, pure_bind]
  | cons a first ih => rw [List.cons_append, each, each, ih, bind_assoc]

/-! ## Properties that operations keep -/

/-- From a state with the property `I` the operation leads to such a state, and its entries have the
property `P`. -/
def Keeps (I : σ → Prop) (P : Log.Entry → Prop) (x : Op σ α) : Prop :=
  ∀ s, I s → I (x s).state ∧ ∀ e ∈ (x s).log, P e

section Keeps

variable {I : σ → Prop} {P : Log.Entry → Prop} {x y : Op σ α}

/-- An operation that leaves no entries keeps what its state has. -/
theorem keeps_of_silent (hstate : ∀ s, I s → I (x s).state) (hlog : ∀ s, (x s).log = []) :
    x.Keeps I P := by
  intro s hs
  refine ⟨hstate s hs, ?_⟩
  intro e he
  rw [hlog] at he
  cases he

theorem keeps_pure (a : α) : (pure a : Op σ α).Keeps I P :=
  keeps_of_silent (fun _ hs => hs) fun _ => rfl

theorem keeps_state : (state : Op σ σ).Keeps I P :=
  keeps_of_silent (fun _ hs => hs) fun _ => rfl

theorem keeps_ofOutcome (o : Outcome α) : (ofOutcome o : Op σ α).Keeps I P :=
  keeps_of_silent (fun _ hs => hs) fun _ => rfl

theorem keeps_trap (t : Trap) : (trap t : Op σ α).Keeps I P :=
  keeps_of_silent (fun _ hs => hs) fun _ => rfl

theorem keeps_update {f : σ → σ} (hf : ∀ s, I s → I (f s)) : (update f).Keeps I P :=
  keeps_of_silent hf fun _ => rfl

theorem keeps_report {e : Log.Entry} (he : P e) : (report e : Op σ Unit).Keeps I P := by
  intro s hs
  refine ⟨hs, ?_⟩
  intro e' he'
  obtain rfl := List.mem_singleton.mp he'
  exact he

theorem Keeps.bind {f : α → Op σ β} (hx : x.Keeps I P) (hf : ∀ a, (f a).Keeps I P) :
    (x >>= f).Keeps I P := by
  intro s hs
  have hfirst := hx s hs
  rcases hrun : x s with ⟨a | e | t, s', l⟩
  · rw [hrun] at hfirst
    have hrest := hf a s' hfirst.1
    rw [bind_of_ok hrun]
    refine ⟨hrest.1, ?_⟩
    intro e he
    exact (List.mem_append.mp he).elim (hfirst.2 e) (hrest.2 e)
  · rw [bind_of_error hrun]
    rw [hrun] at hfirst
    exact hfirst
  · rw [bind_of_trapped hrun]
    rw [hrun] at hfirst
    exact hfirst

theorem Keeps.handle {f : Error → Op σ α} (hx : x.Keeps I P) (hf : ∀ e, (f e).Keeps I P) :
    (x.handle f).Keeps I P := by
  intro s hs
  have hfirst := hx s hs
  rcases hrun : x s with ⟨a | e | t, s', l⟩
  · rw [hrun] at hfirst
    rw [handle_of_ok hrun]
    exact hfirst
  · rw [hrun] at hfirst
    have hrest := hf e s' hfirst.1
    rw [handle_of_error hrun]
    refine ⟨hrest.1, ?_⟩
    intro e he
    exact (List.mem_append.mp he).elim (hfirst.2 e) (hrest.2 e)
  · rw [hrun] at hfirst
    rw [handle_of_trapped hrun]
    exact hfirst

theorem Keeps.undoing {undo : Op σ Unit} (hx : x.Keeps I P) (hundo : undo.Keeps I P) :
    (x.undoing undo).Keeps I P :=
  hx.handle fun _ => hundo.bind fun _ => keeps_of_silent (fun _ hs => hs) fun _ => rfl

theorem Keeps.finishing {last : Op σ Unit} (hx : x.Keeps I P) (hlast : last.Keeps I P) :
    (x.finishing last).Keeps I P := by
  intro s hs
  have hfirst := hx s hs
  rcases hrun : x s with ⟨a | e | t, s', l⟩
  · rw [hrun] at hfirst
    rw [finishing_of_ok hrun]
    exact hfirst
  · rw [hrun] at hfirst
    have hrest := hlast s' hfirst.1
    rw [finishing_of_error hrun]
    exact ⟨hrest.1, fun e he => (List.mem_append.mp he).elim (hfirst.2 e) (hrest.2 e)⟩
  · rw [hrun] at hfirst
    have hrest := hlast s' hfirst.1
    rw [finishing_of_trapped hrun]
    exact ⟨hrest.1, fun e he => (List.mem_append.mp he).elim (hfirst.2 e) (hrest.2 e)⟩

/-- A value beside the state does not matter to what is said about the state. -/
theorem Keeps.beside {y : Op (τ × σ) α} (hy : y.Keeps (fun p => I p.2) P) (a : τ) :
    (beside a y).Keeps I P :=
  fun s hs => hy (a, s) hs

theorem keeps_word_bind {n : Nat} {f : Nat → Op σ α} (hf : n < wordLimit → (f n).Keeps I P) :
    (word n >>= f).Keeps I P := by
  by_cases hn : n < wordLimit
  · rw [word_bind_of_lt hn]
    exact hf hn
  · rw [word_bind_of_ge (Nat.not_lt.mp hn)]
    exact keeps_trap _

theorem keeps_word (n : Nat) : (word n : Op σ Nat).Keeps I P := by
  rw [word]
  split
  · exact keeps_pure n
  · exact keeps_trap _

theorem keeps_roomFor (n : Nat) : (roomFor n : Op σ Unit).Keeps I P := by
  rw [roomFor]
  split
  · exact keeps_pure ()
  · exact keeps_trap _

theorem keeps_require (p : Prop) [Decidable p] (t : Trap) :
    (require p t : Op σ Unit).Keeps I P := by
  rw [require]
  split
  · exact keeps_pure ()
  · exact keeps_trap t

theorem keeps_difference (m n : Nat) : (difference m n : Op σ Nat).Keeps I P :=
  (keeps_require _ _).bind fun _ => keeps_pure _

theorem keeps_raise {source : String} {e : Error}
    (he : P { severity := .error, source, message := e.report, located := true }) :
    (raise source e : Op σ α).Keeps I P :=
  (keeps_report he).bind fun _ => keeps_of_silent (fun _ hs => hs) fun _ => rfl

theorem Keeps.ite {p : Prop} [Decidable p] (hx : x.Keeps I P) (hy : y.Keeps I P) :
    (if p then x else y).Keeps I P := by
  split
  · exact hx
  · exact hy

theorem Keeps.focus {part : σ → τ} {put : τ → σ → σ} {J : τ → Prop} {z : Op τ α}
    (hz : z.Keeps J P) (hpart : ∀ s, I s → J (part s)) (hput : ∀ s t, I s → J t → I (put t s)) :
    (Op.focus part put z).Keeps I P := by
  intro s hs
  have hrun := hz (part s) (hpart s hs)
  exact ⟨hput s _ hs hrun.1, hrun.2⟩

/-- An operation on a part of the state keeps what does not depend on that part. -/
theorem keeps_focus {part : σ → τ} {put : τ → σ → σ} (z : Op τ α)
    (hput : ∀ s t, I s → I (put t s)) : (Op.focus part put z).Keeps I fun _ => True :=
  fun s hs => ⟨hput s _ hs, fun _ _ => trivial⟩

theorem keeps_each {f : α → Op σ Unit} (hf : ∀ a, (f a).Keeps I P) (as : List α) :
    (each f as).Keeps I P := by
  induction as with
  | nil => exact keeps_pure ()
  | cons a rest ih => exact (hf a).bind fun _ => ih

theorem keeps_times {x : Op σ Unit} (hx : x.Keeps I P) (n : Nat) : (times n x).Keeps I P := by
  induction n with
  | zero => exact keeps_pure ()
  | succ n ih => exact hx.bind fun _ => ih

end Keeps

end Op

end BufferSync
