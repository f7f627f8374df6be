import GrumpyScreen.CalLog
import GrumpyScreen.Command
import Mathlib.Algebra.GroupWithZero.Nat
import Mathlib.Logic.Function.Basic

/-! The cockpit and the sub-screens' readouts: the cached status, what the
labels show of it, the render shadows and the Move gates. -/

namespace GrumpyScreen

-- the screens keep their buttons and fans in arrays of three, four and five
instance neZeroThree : NeZero (3 : Nat) := ⟨by decide⟩
instance neZeroFour : NeZero (4 : Nat) := ⟨by decide⟩
instance neZeroFive : NeZero (5 : Nat) := ⟨by decide⟩

/-- Cached status values; they survive deltas that do not carry them. -/
structure Cache where
  progress : Float := 0.0
  duration : Float := 0.0
  nozzle : Int := 0
  nozzleSet : Int := 0
  bed : Int := 0
  bedSet : Int := 0
  layer : Int := 0
  layerTotal : Int := 0
  job : String := ""
  homed : String := ""
  pos : Float × Float × Float := (0, 0, 0)

/-- The nine gated controls of the Move sub-screen. -/
inductive MoveButton where
  | xplus | xminus | yplus | yminus | zplus | zminus
  | homeXy | homeAll
  | motorsOff
deriving DecidableEq, Repr

/-- Jog and home buttons, as opposed to motors-off. -/
def MoveButton.isMotion : MoveButton → Bool
  | .motorsOff => false
  | _ => true

inductive Tint where
  | error | primary | secondary
deriving DecidableEq, Repr

/-- Phosphor cool, lamp while heat is at work, alarm past `limit`. -/
def heatTint (limit value : Int) : Tint :=
  if value ≥ limit then .error else if value ≥ 45 then .primary else .secondary

structure TempCard where
  value : String
  tint : Tint
  target : String
deriving DecidableEq, Repr

/-- The printing hero: progress ring, its labels and the readout-stale flag. -/
structure Ring where
  arc : Int
  pct : String
  layer : String
  eta : String
  staleText : String := "READOUT STALE"
  staleHidden : Bool := true
deriving DecidableEq, Repr

inductive Pill where
  | ready | printing | paused
deriving DecidableEq, Repr

/-- The cockpit's live handles; the ring exists in the printing layout only. -/
structure Cockpit where
  pill : Pill
  nozzle : TempCard
  bed : TempCard
  ring : Option Ring
deriving DecidableEq, Repr

/-- The Temperature sub-screen's four labels. -/
structure TempsScreen where
  nzCur : String := "--"
  nzTgt : String := "off"
  bdCur : String := "--"
  bdTgt : String := "off"
deriving DecidableEq, Repr

/-- The values the labels were last painted from; `INT_MIN` forces a repaint. -/
structure Shadows where
  nozzle : Int
  nozzleSet : Int
  bed : Int
  bedSet : Int
  fan : Fin 5 → Int

def intMin : Int := -2147483648

def Shadows.none : Shadows := ⟨intMin, intMin, intMin, intMin, fun _ => intMin⟩

/-- The Fans sub-screen: percent labels, sliders and which one a finger holds. -/
structure FansScreen where
  val : Fin 5 → String := fun _ => "0%"
  slider : Fin 3 → Int := fun _ => 0
  held : Fin 3 → Bool := fun _ => false

structure Heatmap where
  z : List Float32
  rows : Nat
  cols : Nat
  lo : Float32
  hi : Float32

/-- `mesh_z_` and the mesh screen; no heatmap stands for the demo surface. -/
structure MeshScreen where
  z : List Float32 := []
  heatmap : Option Heatmap := none
  range : Text := [.lit "Range: --"]
  profile : String := "Profile: default"

/-- A legacy sensor row behind the cockpit. -/
structure Sensor where
  target : Int := -1
  value : Int := 0

/-- Everything a status update writes outside the top layer. -/
structure Dash where
  cache : Cache := {}
  printing : Bool := false
  paused : Bool := false
  busy : Bool := false
  calMsg : String := ""
  eta : String := ""
  staleShown : Bool := false
  cockpit : Cockpit
  temps : TempsScreen := {}
  filTemp : String := "-- / --"
  fans : FansScreen := {}
  shadows : Shadows := .none
  posText : String := "X --  Y --  Z --"
  moveDisabled : MoveButton → Bool := fun _ => false
  installHidden : Bool := true
  mesh : MeshScreen := {}
  sensors : List (String × Sensor) := []
  legacyMotion : Bool := true

/-- A job is loaded: printing or paused. -/
def Dash.held (d : Dash) : Bool := d.printing || d.paused

/-- `(int)` of a double. -/
def castInt (x : Float) : Int := x.toModel.toInt32.toInt

/-- A fraction rounded to a percentage, `(int)(x * 100.0 + 0.5)`. -/
def percent (x : Float) : Int := castInt (x * 100.0 + 0.5)

/-- "{:02d}" of a non-negative number. -/
def pad2 (n : Int) : String := if n < 10 then s!"0{n}" else s!"{n}"

def etaText (progress duration : Float) : String :=
  let remain := duration * (1.0 - progress) / progress
  let remain := if remain < 0.0 then 0.0 else remain
  let mins := castInt (remain / 60.0 + 0.5)
  if mins ≥ 60 then s!"{mins.tdiv 60}:{pad2 (mins.tmod 60)} left" else s!"{mins} min left"

/-- An ETA is shown once there is progress and time to extrapolate from. -/
def Cache.etaKnown (c : Cache) : Bool := c.progress > 0.01 && c.duration > 1.0

/-- A target below a live reading: "/ N" on the cockpit. -/
def targetLabel (style : String) (target : Int) : String :=
  if target > 0 then s!"{style}{target}" else "off"

def tempCard (limit value target : Int) : TempCard :=
  ⟨s!"{value}", heatTint limit value, targetLabel "/ " target⟩

def percentText (c : Cache) : String := s!"{percent c.progress}%"

def layerText (c : Cache) : String := s!"layer {c.layer} / {c.layerTotal}"

/-- `snprintf` of ASCII text into a buffer, which also holds the NUL. -/
def snprintf (size : Nat) (s : String) : String := String.ofList (s.toList.take (size - 1))

/-- `build_home`: both temperature cards alarm at 280, and the ring stands only
in the printing layout, its stale flag hidden and its labels cut to their buffers. -/
def buildHome (printing paused : Bool) (c : Cache) (eta : String) : Cockpit where
  pill := if paused then .paused else if printing then .printing else .ready
  nozzle := tempCard 280 c.nozzle c.nozzleSet
  bed := tempCard 280 c.bed c.bedSet
  ring :=
    if printing then
      some { arc := percent c.progress, pct := snprintf 8 (percentText c),
             layer := snprintf 28 (layerText c), eta := eta }
    else none

/-- The guard of a Move button: jog and home while printing and not paused,
motors-off whenever a job is loaded. -/
def Dash.moveGuard (d : Dash) (button : MoveButton) : Bool :=
  if button.isMotion then d.printing && !d.paused else d.printing || d.paused

def applyMoveGates (d : Dash) : Dash :=
  { d with
    moveDisabled := fun button =>
      if button.isMotion then d.printing && !d.paused else d.held }

/-- Rebuild the cockpit in the layout of the current state; the fresh labels
force the next status update to repaint. -/
def rebuildHome (d : Dash) : Dash :=
  let eta := if d.held && d.cache.etaKnown then etaText d.cache.progress d.cache.duration else ""
  applyMoveGates
    { d with
      eta := eta
      cockpit := buildHome d.held d.paused d.cache eta
      shadows := .none }

/-- Show the stale flag with an age in seconds, or hide it for a negative age. -/
def homeSetStale (age : Int) (d : Dash) : Dash :=
  { d with
    cockpit := { d.cockpit with
      ring := d.cockpit.ring.map fun ring =>
        if age < 0 then { ring with staleHidden := true }
        else { ring with staleText := s!"READOUT STALE {age}s", staleHidden := false } } }

/-- A quotient rounded to the nearest number, a half to the even one. -/
def roundedQuotient (n d : Nat) : Nat :=
  let q := n / d
  let twice := 2 * (n % d)
  if twice < d then q else if d < twice then q + 1 else q + q % 2

/-- "{:.1f}" of a double: its exact value rounded to tenths. -/
def tenthsText (x : Float) : String :=
  let sign (s : Float.Model.UnpackedFloat.Sign) := if s == .negative then "-" else ""
  match x.toModel.unpack with
  | .notANumber => "nan"
  | .infinity s => sign s ++ "inf"
  | .zero s => sign s ++ "0.0"
  | .finite s m e _ =>
    let tenths := roundedQuotient (10 * m * 2 ^ e.toNat) (2 ^ (-e).toNat)
    s!"{sign s}{tenths / 10}.{tenths % 10}"

/-- One axis of the Move readout: "--" until the axis is homed. -/
def axisText (homed : String) (up : String) (lo : Char) (v : Float) : String :=
  if lo ∈ homed.toList then s!"{up} {tenthsText v}" else s!"{up} --"

def posText (c : Cache) : String :=
  let x := axisText c.homed "X" 'x' c.pos.1
  let y := axisText c.homed "Y" 'y' c.pos.2.1
  let z := axisText c.homed "Z" 'z' c.pos.2.2
  s!"{x}  {y}  {z}"

/-- The temperature labels of the cockpit, the Temperature screen and the
Filament banner, painted from the cache. Here the bed alarms at 100. -/
def paintTemps (d : Dash) : Dash :=
  { d with
    cockpit := { d.cockpit with
      nozzle := tempCard 280 d.cache.nozzle d.cache.nozzleSet
      bed := tempCard 100 d.cache.bed d.cache.bedSet }
    temps := {
      nzCur := s!"{d.cache.nozzle}", nzTgt := targetLabel "set " d.cache.nozzleSet
      bdCur := s!"{d.cache.bed}", bdTgt := targetLabel "set " d.cache.bedSet }
    filTemp := s!"{d.cache.nozzle} / " ++ targetLabel "" d.cache.nozzleSet
    shadows := { d.shadows with
      nozzle := d.cache.nozzle, nozzleSet := d.cache.nozzleSet
      bed := d.cache.bed, bedSet := d.cache.bedSet } }

/-- Repaint only when a value moved away from its shadow. -/
def repaintTemps (d : Dash) : Dash :=
  if d.cache.nozzle ≠ d.shadows.nozzle ∨ d.cache.nozzleSet ≠ d.shadows.nozzleSet ∨
      d.cache.bed ≠ d.shadows.bed ∨ d.cache.bedSet ≠ d.shadows.bedSet then
    paintTemps d
  else d

/-- The slider widget keeps its value in its range. -/
def sliderRange (value : Int) : Int := if value < 0 then 0 else if value > 100 then 100 else value

/-- One fan's percentage onto its label and, unless a finger holds it, its slider. -/
def paintFan (i : Fin 5) (pct : Int) (d : Dash) : Dash :=
  if pct = d.shadows.fan i then d
  else
    { d with
      shadows := { d.shadows with fan := Function.update d.shadows.fan i pct }
      fans := { d.fans with
        val := Function.update d.fans.val i s!"{pct}%"
        slider :=
          if settable : i.val < 3 then
            if d.fans.held ⟨i, settable⟩ then d.fans.slider
            else Function.update d.fans.slider ⟨i, settable⟩ (sliderRange pct)
          else d.fans.slider } }

/-- Progress, layer and ETA onto the ring while a job runs. -/
def paintRing (d : Dash) : Dash :=
  match d.cockpit.ring with
  | none => d
  | some ring =>
    let eta := if d.cache.etaKnown then etaText d.cache.progress d.cache.duration else d.eta
    { d with
      eta := eta
      cockpit := { d.cockpit with
        ring := some { ring with
          arc := percent d.cache.progress
          pct := percentText d.cache
          layer := layerText d.cache
          eta := if d.cache.etaKnown then eta else ring.eta } } }

/-- The cockpit as `create_panel` builds it: idle, everything at zero. -/
def Dash.initial : Dash := { cockpit := buildHome false false {} "" }

section Gates

@[simp] theorem applyMoveGates_moveDisabled (d : Dash) (button : MoveButton) :
    (applyMoveGates d).moveDisabled button = d.moveGuard button := rfl

@[simp] theorem rebuildHome_moveDisabled (d : Dash) (button : MoveButton) :
    (rebuildHome d).moveDisabled button = d.moveGuard button := rfl

end Gates

end GrumpyScreen
