import BufferSync.Error
import BufferSync.Log.Entry

/-!
# Operations

An operation works on a state, ends with an outcome and reports entries to the log.  It is a
function from the state to a `Run`: the outcome, the state left behind and the entries in the order
in which they were made.  The state left behind and the entries are there for every outcome, so what
was done before an error or a trap stays done.  An operation cannot read the log.

*Sequencing.*  `x >>= f` runs `f` on the result and the state of `x` if `x` ends well, and otherwise
ends as `x` ended.  Entries are concatenated.  These operations form a lawful monad.

*Failing.*  `Op.fail` ends with an error without a word, `Op.raise` first reports the error as a
located entry.  `Op.handle` continues after an error; a trap is never continued.  `Op.finishing`
runs a last action when the operation did not end well, whatever the reason, and keeps its outcome.

*Parts of a state.*  `Op.focus` runs an operation on a part of the state, `Op.beside` runs an
operation on the state together with a value that is handed back at the end.
-/

namespace BufferSync

/-- How an operation ends. -/
inductive Outcome (α : Type) where
  /-- It ends well with a value. -/
  | ok (value : α)
  /-- It is refused. -/
  | error (cause : Error)
  /-- It breaks down. -/
  | trapped (cause : Trap)
deriving DecidableEq, Repr

namespace Outcome

/-- Whether the operation ended well. -/
def isOk {α : Type} : Outcome α → Bool
  | .ok _ => true
  | _ => false

/-- The outcome with its value changed by `f`. -/
def map {α β : Type} (f : α → β) : Outcome α → Outcome β
  | .ok a => .ok (f a)
  | .error e => .error e
  | .trapped t => .trapped t

end Outcome

/-- What running an operation leaves behind. -/
structure Run (σ α : Type) where
  /-- How it ended. -/
  outcome : Outcome α
  /-- The state afterwards. -/
  state : σ
  /-- The entries it reported, first one first. -/
  log : List Log.Entry
deriving DecidableEq, Repr

/-- The run with entries that were reported earlier in front of its own. -/
def Run.after {σ α : Type} (r : Run σ α) (earlier : List Log.Entry) : Run σ α :=
  { r with log := earlier ++ r.log }

/-- An operation on a state of type `σ` that gives an `α`. -/
def Op (σ α : Type) : Type :=
  σ → Run σ α

namespace Op

variable {σ τ α β : Type}

/-- Does nothing and gives `a`. -/
protected def pure (a : α) : Op σ α := fun s =>
  { outcome := .ok a, state := s, log := [] }

/-- Runs `x` and, if it ends well, `f` on its value. -/
protected def bind (x : Op σ α) (f : α → Op σ β) : Op σ β := fun s =>
  let r := x s
  match r.outcome with
  | .ok a => (f a r.state).after r.log
  | .error e => { outcome := .error e, state := r.state, log := r.log }
  | .trapped t => { outcome := .trapped t, state := r.state, log := r.log }

instance : Monad (Op σ) where
  pure := Op.pure
  bind := Op.bind

theorem pure_apply (a : α) (s : σ) :
    (pure a : Op σ α) s = { outcome := .ok a, state := s, log := [] } := rfl

theorem bind_apply (x : Op σ α) (f : α → Op σ β) (s : σ) :
    (x >>= f) s =
      match (x s).outcome with
      | .ok a => (f a (x s).state).after (x s).log
      | .error e => { outcome := .error e, state := (x s).state, log := (x s).log }
      | .trapped t => { outcome := .trapped t, state := (x s).state, log := (x s).log } := rfl

theorem bind_of_ok {x : Op σ α} {s s' : σ} {a : α} {l : List Log.Entry}
    (h : x s = { outcome := .ok a, state := s', log := l }) (f : α → Op σ β) :
    (x >>= f) s = (f a s').after l := by
  simp [bind_apply, h]

theorem bind_of_error {x : Op σ α} {s s' : σ} {e : Error} {l : List Log.Entry}
    (h : x s = { outcome := .error e, state := s', log := l }) (f : α → Op σ β) :
    (x >>= f) s = { outcome := .error e, state := s', log := l } := by
  simp [bind_apply, h]

theorem bind_of_trapped {x : Op σ α} {s s' : σ} {t : Trap} {l : List Log.Entry}
    (h : x s = { outcome := .trapped t, state := s', log := l }) (f : α → Op σ β) :
    (x >>= f) s = { outcome := .trapped t, state := s', log := l } := by
  simp [bind_apply, h]

protected theorem id_map (x : Op σ α) : id <$> x = x := by
  funext s
  change (x >>= fun a => pure a) s = x s
  rw [bind_apply]
  rcases x s with ⟨_ | _ | _, _, _⟩ <;> simp [pure_apply, Run.after]

protected theorem pure_bind (a : α) (f : α → Op σ β) : pure a >>= f = f a := by
  funext s
  simp [bind_apply, pure_apply, Run.after]

protected theorem bind_assoc {γ : Type} (x : Op σ α) (f : α → Op σ β) (g : β → Op σ γ) :
    x >>= f >>= g = x >>= fun a => f a >>= g := by
  funext s
  simp only [bind_apply]
  rcases x s with ⟨a | _ | _, s', l⟩
  · simp only [Run.after]
    rcases f a s' with ⟨_ | _ | _, _, _⟩ <;> simp
  · rfl
  · rfl

instance : LawfulMonad (Op σ) :=
  LawfulMonad.mk' (Op σ) Op.id_map Op.pure_bind Op.bind_assoc

/-! ## State and log -/

/-- The current state. -/
def state : Op σ σ := fun s =>
  { outcome := .ok s, state := s, log := [] }

/-- Replaces the state by its image under `f`. -/
def update (f : σ → σ) : Op σ Unit := fun s =>
  { outcome := .ok (), state := f s, log := [] }

/-- Reports one entry. -/
def report (entry : Log.Entry) : Op σ Unit := fun s =>
  { outcome := .ok (), state := s, log := [entry] }

/-- Reports a message of the given severity. -/
def note (severity : Log.Severity) (source message : String) : Op σ Unit :=
  report { severity, source, message }

theorem update_apply (f : σ → σ) (s : σ) :
    update f s = { outcome := .ok (), state := f s, log := [] } := rfl

/-! ## Failure -/

/-- Ends with an error and reports nothing. -/
def fail (e : Error) : Op σ α := fun s =>
  { outcome := .error e, state := s, log := [] }

/-- Breaks down. -/
def trap (t : Trap) : Op σ α := fun s =>
  { outcome := .trapped t, state := s, log := [] }

/-- Reports the error as a located entry of the highest severity and ends with it. -/
def raise (source : String) (e : Error) : Op σ α := do
  report { severity := .error, source, message := e.report, located := true }
  fail e

theorem raise_apply (source : String) (e : Error) (s : σ) :
    (raise source e : Op σ α) s =
      { outcome := .error e
        state := s
        log := [{ severity := .error, source, message := e.report, located := true }] } := rfl

/-- Ends as `outcome` says, without touching the state or the log. -/
def ofOutcome (outcome : Outcome α) : Op σ α := fun s =>
  { outcome, state := s, log := [] }

/-- Runs `x`; after an error goes on with `f`. -/
def handle (x : Op σ α) (f : Error → Op σ α) : Op σ α := fun s =>
  let r := x s
  match r.outcome with
  | .ok _ => r
  | .error e => (f e r.state).after r.log
  | .trapped _ => r

/-- Runs `x`; after an error runs `undo` and ends with that error. -/
def undoing (x : Op σ α) (undo : Op σ Unit) : Op σ α :=
  x.handle fun e => do
    undo
    fail e

/-- Runs `x`; if it did not end well, runs `last` and ends as `x` ended. -/
def finishing (x : Op σ α) (last : Op σ Unit) : Op σ α := fun s =>
  let r := x s
  match r.outcome with
  | .ok _ => r
  | .error _ | .trapped _ =>
      let l := last r.state
      { outcome := r.outcome, state := l.state, log := r.log ++ l.log }

/-! ## Parts of a state -/

/-- Runs `x` on the part of the state that `part` selects and `put` replaces. -/
def focus (part : σ → τ) (put : τ → σ → σ) (x : Op τ α) : Op σ α := fun s =>
  let r := x (part s)
  { outcome := r.outcome, state := put r.state s, log := r.log }

theorem focus_apply (part : σ → τ) (put : τ → σ → σ) (x : Op τ α) (s : σ) :
    focus part put x s =
      { outcome := (x (part s)).outcome
        state := put (x (part s)).state s
        log := (x (part s)).log } := rfl

/-- Runs `x` on the first component. -/
def onFst (x : Op σ α) : Op (σ × τ) α :=
  focus Prod.fst (fun a p => (a, p.2)) x

/-- Runs `x` on the second component. -/
def onSnd (x : Op τ α) : Op (σ × τ) α :=
  focus Prod.snd (fun b p => (p.1, b)) x

/-- Runs `x` on the state with `a` beside it; gives the value of `x` and what became of `a`. -/
def beside (a : τ) (x : Op (τ × σ) α) : Op σ (α × τ) := fun s =>
  let r := x (a, s)
  { outcome := r.outcome.map fun v => (v, r.state.1), state := r.state.2, log := r.log }

/-! ## Loops -/

/-- Runs the operation for every member of the list, first one first. -/
def each (f : α → Op σ Unit) : List α → Op σ Unit
  | [] => pure ()
  | a :: rest => do
    f a
    each f rest

/-- Runs the operation `n` times. -/
def times (n : Nat) (x : Op σ Unit) : Op σ Unit :=
  match n with
  | 0 => pure ()
  | k + 1 => do
    x
    times k x

end Op

end BufferSync
