import BufferSync.Dirty.Span

/-!
# Marks

The marks of a buffer tell which elements changed since the last upload, as one span or nothing.
Every mark widens the span to the hull of all marks, so two changes far apart also mark what lies
between them; in exchange one upload always suffices.
-/

namespace BufferSync

/-- The elements changed since the last upload. -/
structure Marks where
  /-- Hull of the marked elements, if there are any. -/
  span : Option Span := none
deriving DecidableEq, Repr

namespace Marks

/-- No marks. -/
def clean : Marks := {}

/-- Whether anything is marked. -/
def isDirty (m : Marks) : Bool :=
  m.span.isSome

/-- The marks widened by the positions of a span. -/
def mark (m : Marks) (s : Span) : Marks :=
  match m.span with
  | some t => { span := some (t.hull s) }
  | none => { span := some s }

/-- The marks widened by a span, if there is one. -/
def mark? (m : Marks) (s : Option Span) : Marks :=
  match s with
  | some s => m.mark s
  | none => m

/-- The marks widened by one position. -/
def markIndex (m : Marks) (i : Nat) : Marks :=
  m.mark (.single i)

/-- The marks without the positions from `length` on. -/
def truncate (m : Marks) (length : Nat) : Marks :=
  { span := m.span.bind fun s => s.below? length }

/-- Widens the marks by the positions from `first` to `last`; refused if they are reversed. -/
def markBetween (first last : Nat) : Op Marks Unit := do
  let s ← Span.between first last
  Op.update fun m => m.mark s

/-- Gives the marked span and forgets it. -/
def take : Op Marks (Option Span) := do
  let m ← Op.state
  Op.update fun _ => clean
  pure m.span

/-- The marks as a term. -/
def term (m : Marks) : String :=
  let inner := match m.span with
    | some s => "Some(" ++ s.term ++ ")"
    | none => "None"
  "DirtyRegionTracker \x7b range: " ++ inner ++ " \x7d"

end Marks

end BufferSync
