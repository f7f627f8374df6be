import GrumpyScreen.Delta
import GrumpyScreen.Lib.Grid
import GrumpyScreen.Lib.Run

/-! The bed mesh screen: what `render_bed_mesh` makes of a probed matrix, the cells
`mesh_render` draws of it, and when the heatmap and the range label tell the same. -/

namespace GrumpyScreen

open Lib Lib.Exec

structure Rgb where
  r : UInt8
  g : UInt8
  b : UInt8
deriving DecidableEq, Repr

/-- The stops of the ramp: cold steel, phosphor, lamp, alarm. -/
def heatStop : Nat → Int × Int × Int
  | 0 => (0x3a, 0x4a, 0x63)
  | 1 => (0x8f, 0xd6, 0xad)
  | 2 => (0xe2, 0xa1, 0x3c)
  | _ => (0xe0, 0x6a, 0x5a)

/-- One colour channel between two stops. -/
def heatChannel (low high : Int) (u : Float32) : UInt8 :=
  (Float32.ofInt low + Float32.ofInt (high - low) * u).toUInt8

/-- `heat_color`. -/
def heatColor (t : Float32) : Rgb :=
  let t := if t < 0 then 0 else t
  let t := if 1 < t then 1 else t
  let seg := t * 3
  let i := min seg.toUInt8.toNat 2
  let u := seg - Float32.ofNat i
  let low := heatStop i
  let high := heatStop (i + 1)
  ⟨heatChannel low.1 high.1 u, heatChannel low.2.1 high.2.1 u, heatChannel low.2.2 high.2.2 u⟩

structure MeshCell where
  x : Int
  y : Int
  width : Int
  height : Int
  color : Rgb
deriving DecidableEq, Repr

/-- The sides of the grid widget. -/
def gridSide : Int := 192

/-- The colour of a height on the scale of the mesh. -/
def Heatmap.color (h : Heatmap) (v : Float32) : Rgb :=
  let range := h.hi - h.lo
  heatColor ((v - h.lo) / if range < 1e-6 then 1e-6 else range)

/-- The cell of a row and a column; the front row stands at the bottom. -/
def Heatmap.cell (h : Heatmap) (r c : Nat) : MeshCell :=
  let cw := gridSide / h.cols
  let ch := gridSide / h.rows
  { x := c * cw
    y := (h.rows - 1 - r) * ch
    width := cw + 1
    height := ch + 1
    color := h.color (h.z.getD (r * h.cols + c) 0) }

section Matrix

variable {J : Type} [JsonLib J]

/-- A row of numbers. -/
def probedRow (row : J) : Option (List Float) :=
  if JsonLib.isArray row then
    (JsonLib.elements row).mapM fun cell => (JsonLib.getDouble cell).toOption
  else none

/-- An array of arrays of numbers. -/
def matrixOf (pm : J) : Option (List (List Float)) :=
  if JsonLib.isArray pm then (JsonLib.elements pm).mapM probedRow else none

/-- The entries in single precision, row after row. -/
def entries (m : List (List Float)) : List Float32 := m.flatten.map Ieee.single

/-- The width the matrix is indexed with: that of its first row. -/
def meshWidth (m : List (List Float)) : Nat := (m.headD []).length

/-- A rectangle with a cell in it. -/
def MeshShape (m : List (List Float)) : Prop :=
  m ≠ [] ∧ 1 ≤ meshWidth m ∧ Rectangular (meshWidth m) m

instance (m : List (List Float)) : Decidable (MeshShape m) :=
  inferInstanceAs (Decidable (_ ∧ _ ∧ _))

end Matrix

section Rectangle

variable {m : List (List Float)}

/-- What the search of the least and the greatest entry yields. -/
def lowest (m : List (List Float)) : Float32 :=
  (entries m).foldl (fun lo v => if v < lo then v else lo) 1e9

def highest (m : List (List Float)) : Float32 :=
  (entries m).foldl (fun hi v => if hi < v then v else hi) (-1e9)

def heatmapOf (m : List (List Float)) : Heatmap :=
  ⟨entries m, m.length, meshWidth m, lowest m, highest m⟩

end Rectangle

section Screen

variable {J : Type} [JsonLib J] {bm : J} {m : List (List Float)}

end Screen

section Samples

end Samples

end GrumpyScreen
