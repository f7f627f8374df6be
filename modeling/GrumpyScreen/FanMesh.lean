import GrumpyScreen.BedMesh
import GrumpyScreen.TempLabels

/-! What a run of deltas leaves on the Fans and the Bed mesh screens, which are updated
only by a delta that keeps the layout, and in the cached values. -/

namespace GrumpyScreen

open Lib Lib.Exec

section Stored

variable {J : Type} [JsonLib J] {j status : J} {base : List String}

end Stored

section Fans

/-- The readout of a fan. -/
def fanText (pct : Int) : String := s!"{pct}%"

/-- The readout of a fan with its shadow. -/
def Dash.fanLabel (d : Dash) (i : Fin 5) : Shadowed Int String := ⟨d.shadows.fan i, d.fans.val i⟩

variable {J : Type} [JsonLib J] {j status : J}

end Fans

section Mesh

variable {J : Type} [JsonLib J] {j status : J} {m : List (List Float)}

/-- The probed matrix a status object carries. -/
def statusMatrix (status : J) : Option J :=
  match JsonLib.lookup status ["bed_mesh"] with
  | .ok bm =>
    if JsonLib.isNull bm then none
    else (JsonLib.find bm "probed_matrix").filter JsonLib.isArray
  | .error _ => none

/-- The heatmap is drawn from the matrix. -/
def MeshScreen.ShowsMatrix (mesh : MeshScreen) (pm : J) : Prop :=
  ∃ m, matrixOf pm = some m ∧ MeshShape m ∧ mesh.heatmap = some (heatmapOf m)

end Mesh

section Delta

variable {J : Type} [JsonLib J] {j status : J} {m : List (List Float)}

end Delta

section Runs

variable {L : Type → Type} [Layer L] [LawfulLayer L] {J : Type} [JsonLib J]

/-- A status object that changed, and the time of the event. -/
structure StatusDelta (J : Type) where
  status : J
  time : J

def StatusDelta.message (delta : StatusDelta J) : J := statusNotify delta.status delta.time

/-- The last speed reported of each fan, and the last matrix. -/
structure Reported (J : Type) where
  speed : Fin 5 → Option Float := fun _ => none
  matrix : Option J := none

/-- The speed a delta reports of a fan. -/
def StatusDelta.speed (delta : StatusDelta J) (i : Fin 5) : Option Float :=
  statusField delta.status [fanObject i, "speed"] JsonLib.getDouble

def Reported.hear (o : Reported J) (_ : Panel L) (delta : StatusDelta J) : Reported J where
  speed i := (delta.speed i).or (o.speed i)
  matrix := (statusMatrix delta.status).or o.matrix

/-- The screens show what was last reported. -/
structure Reported.Shown (o : Reported J) (d : Dash) : Prop where
  fans : ∀ i v, o.speed i = some v → d.fans.val i = fanText (percent v)
  mesh : ∀ pm, o.matrix = some pm → d.mesh.ShowsMatrix pm

/-- The delta is consumed to its end and leaves the layout as it is. -/
def StatusDelta.InPlace (p : Panel L) (delta : StatusDelta J) : Prop :=
  Returns (consume delta.message) p ∧
    ((p.dash.core.next delta.message).printing, (p.dash.core.next delta.message).paused) =
      (p.dash.printing, p.dash.paused)

/-- What the delta brings is shown already, or can be shown: it is consumed in place, its
speed is not what an unset shadow stands for, and its matrix is a rectangle. -/
structure StatusDelta.Spares (p : Panel L) (delta : StatusDelta J) : Prop where
  fans : ∀ i v, delta.speed i = some v → p.dash.fans.val i = fanText (percent v) ∨
    delta.InPlace p ∧ ¬ (percent v = intMin ∧ p.dash.shadows.fan i = intMin)
  mesh : ∀ pm, statusMatrix delta.status = some pm → p.dash.mesh.ShowsMatrix pm ∨
    delta.InPlace p ∧ ∃ m, matrixOf pm = some m ∧ MeshShape m

variable [LawfulJson J]

end Runs

section Samples

end Samples

end GrumpyScreen
