import BufferSync.Demo.Config
import BufferSync.Demo.Quad
import BufferSync.Element.Format
import BufferSync.SyncedArray.Sync

/-!
# The renderer of the demo

The renderer holds the corners and the triangles of the quad as two synced arrays on one device.  A
frame recolours every corner and binds both arrays, so all corners are uploaded in every frame and
the triangles in the first one only.  At the end the renderer unbinds both arrays and gives them
back; whatever a refused request leaves undone is done by dropping the arrays.
-/

namespace BufferSync.Demo

/-- The arrays of the quad and the time that has passed. -/
structure Renderer where
  /-- The corners. -/
  vertices : SyncedArray FlatVertex.codec
  /-- The triangles. -/
  indices : SyncedArray Format.index16Codec
  /-- Seconds since the start. -/
  elapsed : Binary32
deriving DecidableEq, Repr

namespace Renderer

variable {D : Type} {α : Type}

/-- Runs an operation on the corners and the device. -/
def onVertices (x : Op (SyncedArray FlatVertex.codec × D) α) : Op (Renderer × D) α :=
  Op.focus (fun s => (s.1.vertices, s.2)) (fun p s => ({ s.1 with vertices := p.1 }, p.2)) x

/-- Runs an operation on the triangles and the device. -/
def onIndices (x : Op (SyncedArray Format.index16Codec × D) α) : Op (Renderer × D) α :=
  Op.focus (fun s => (s.1.indices, s.2)) (fun p s => ({ s.1 with indices := p.1 }, p.2)) x

variable [Device D]

/-- Settings of the array of corners. -/
def vertexConfig : ArrayConfig :=
  { label := "quad vertices", usage := .vertex, capacity := 4 }

/-- Settings of the array of triangles. -/
def indexConfig : ArrayConfig :=
  { label := "quad indices", usage := .index, capacity := quadIndices.length }

/-- A renderer for the given settings.  If there is no room for the triangles, the corners are
dropped again. -/
def create (config : Config) : Op D Renderer := do
  let vertices ← SyncedArray.ofList vertexConfig (quadVertices config.aspect)
  let (indices, vertices) ← Op.beside vertices
    ((Op.onSnd (SyncedArray.ofList indexConfig quadIndices)).finishing SyncedArray.drop)
  pure { vertices, indices, elapsed := .zero }

/-- Gives corner `i` the colour of the present time. -/
def recolor (i : Nat) : Op (Renderer × D) Unit := do
  let vertex ← onVertices (SyncedArray.get i)
  let (r, _) ← Op.state
  onVertices (SyncedArray.set i { vertex with color := phaseColor (cornerPhase r.elapsed i) })

/-- Draws one frame, `delta` seconds after the one before. -/
def render (delta : Binary32) : Op (Renderer × D) Unit := do
  Op.update fun (r, d) => ({ r with elapsed := r.elapsed + delta }, d)
  let (r, _) ← Op.state
  Op.each recolor (List.range r.vertices.host.count)
  onVertices SyncedArray.bind
  onIndices SyncedArray.bind

/-- Gives back what is left, the corners first. -/
def drop : Op (Renderer × D) Unit := do
  onVertices SyncedArray.drop
  onIndices SyncedArray.drop

/-- Unbinds and gives back both arrays. -/
def release : Op (Renderer × D) Unit := do
  onVertices SyncedArray.unbind
  onIndices SyncedArray.unbind
  onVertices SyncedArray.dispose
  onIndices SyncedArray.dispose

/-- The end of a renderer: unbinds and gives back both arrays, and drops them however that ended. -/
def dispose (r : Renderer) : Op D Unit := do
  let _ ← Op.beside r do
    release.finishing drop
    drop

end Renderer

end BufferSync.Demo
