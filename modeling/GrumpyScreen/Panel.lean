import GrumpyScreen.Config
import GrumpyScreen.Home
import GrumpyScreen.Overlay

/-! The state of the main panel: the dashboard, the overlays with the panel's
own tracking flags, the screens, the controls and what was sent. -/

namespace GrumpyScreen

open Lib

/-- The native sub-screens. -/
inductive Screen where
  | move | filament | temps | fans | files | tune
  | more | settings | mesh | system | power | lights
deriving DecidableEq, Repr

def Screen.all : List Screen :=
  [.move, .filament, .temps, .fans, .files, .tune,
   .more, .settings, .mesh, .system, .power, .lights]

/-- The children of the active screen that are reordered. -/
inductive ScrObj where
  | saver
  | prompt
  | wifi
  | tabview
  | boot
  | home
  | sub (screen : Screen)
deriving DecidableEq, Repr

instance : Staged ScrObj where
  eager _ := true

/-- What the panel remembers about the overlays: the calibration overlay, the
logbook and its last parsed step, and the prompt panel's `showing_`. -/
structure Tracking where
  calOverlay : Bool := false
  calOverlayText : String := ""
  callogShown : Bool := false
  callogText : String := ""
  callogStep : CalStep := {}
  callogFault : Bool := false
  promptShowing : Bool := false

inductive IntegrityState where
  | unknown | official | unofficial
deriving DecidableEq, Repr

/-- The value pills of the Expert Tune screen. -/
inductive SettingsPill where
  | speed | flow | pressureAdvance | zOffset | fan
deriving DecidableEq, Repr

/-- The pills as `build_settings` draws them. -/
def SettingsPill.initial : SettingsPill → Text
  | .speed | .flow => [.lit "100%"]
  | .pressureAdvance => [.lit "0.040"]
  | .zOffset => [.lit "0.000"]
  | .fan => [.lit "0%"]

/-- A row of the Files list: the object, by the order in which rows are made, the
path it was added with, its second line, the thumbnail once it is shown, and the
index a tap finds in its user data. -/
structure FileRow where
  row : Nat
  path : String
  detail : Text
  thumb : Option Bytes := none
  zoom : Int := 256
  index : Option Nat := none

/-- The rows `build_files` draws before any list is there. -/
def FileRow.placeholders : List FileRow :=
  [{ row := 0, path := "omega_cube.gcode", detail := [.lit "18m  .  PA-CF"] },
   { row := 1, path := "benchy_0.25.gcode", detail := [.lit "1h 12m  .  PA-CF"] },
   { row := 2, path := "bracket_v3.gcode", detail := [.lit "42m  .  PLA"] },
   { row := 3, path := "phone_stand.gcode", detail := [.lit "2h 04m  .  PETG"] }]

/-- What the callback of a metadata request captured, and for the history how many
lists were built by then. -/
structure FileMeta where
  gen : UInt32
  row : Nat
  path : String
  built : Nat
deriving DecidableEq

/-- The operator's selections and the System and Files screens' data. -/
structure Controls where
  moveStep : Float := 1.0
  moveStepLit : Fin 4 := 1
  filMat : Fin 3 := 2
  filMatLit : Fin 3 := 2
  filLen : Int := 100
  filLenText : String := "200 mm"
  tuneZoff : Float := 0.0
  pills : SettingsPill → Text := SettingsPill.initial
  speedText : String := "100%"
  ledCase : Fin 3 := 2
  ledHot : Fin 3 := 0
  integrity : IntegrityState := .unknown
  unofficialNoticeShown : Bool := false
  updateChecking : Bool := false
  updateAvail : String := ""
  updateStatus : String := "checking..."
  filesNames : List String := []
  filesGen : UInt32 := 0
  fileRows : List FileRow := FileRow.placeholders
  rowsMade : Nat := 4
  -- the history: lists built, and deleted rows that were written to
  listsBuilt : Nat := 0
  strayWrites : List Nat := []

/-- Requests whose reply the panel still waits for. -/
structure Outstanding where
  actions : List Nat := []
  nextAction : Nat := 0
  printStarts : Nat := 0
  filesLists : Nat := 0
  fileMetas : List FileMeta := []
  updateRuns : Nat := 0

structure Panel (L : Type → Type) [Layer L] where
  dash : Dash
  ov : Overlays L
  track : Tracking := {}
  scr : Stack L ScrObj
  ui : Controls := {}
  waits : Outstanding := {}
  lastStatus : Option Nat := none
  -- `is_sleeping` of the render loop
  asleep : Bool := false
  sent : List Command := []

variable {L : Type → Type} [Layer L] [LawfulLayer L]

/-- Milliseconds since the last status notify, -1 before the first one. -/
def Panel.msSinceStatusUpdate (p : Panel L) : Int :=
  match p.lastStatus with
  | none => -1
  | some stamp => (p.ov.clock : Int) - stamp

/-- The dashboard drops the overlay and its tracking, so that a status update
can raise the calibration overlay again. -/
def hideBusyOverlay (p : Panel L) : Panel L :=
  { p with
    ov := busyHide p.ov
    track := { p.track with calOverlay := false, calOverlayText := "" } }

/-- `PromptPanel::reset`: the card down, the flag cleared. -/
def promptReset (p : Panel L) : Panel L :=
  { p with
    scr := p.scr.background .prompt
    track := { p.track with promptShowing := false } }

/-- Reset overlay tracking on a link loss. -/
def resetOverlayState (p : Panel L) : Panel L :=
  let p := hideBusyOverlay p
  let p := { p with
    ov := calLogHide p.ov
    track := { p.track with callogShown := false, callogText := "", callogFault := false } }
  let p := promptReset p
  { p with dash := { p.dash with busy := false } }

/-- Hide the cockpit and every sub-screen, reveal `screen`. -/
def showPono (screen : Screen) (p : Panel L) : Panel L :=
  let hidden := Screen.all.foldl (fun scr s => scr.conceal (.sub s)) p.scr
  { p with scr := (hidden.conceal .home).raise (.sub screen) }

/-- Bring the cockpit to the front. -/
def showHome (p : Panel L) : Panel L := { p with scr := p.scr.raise .home }

def backToHome (p : Panel L) : Panel L :=
  showHome { p with scr := Screen.all.foldl (fun scr s => scr.conceal (.sub s)) p.scr }

def send (command : Command) (p : Panel L) : Panel L := { p with sent := p.sent ++ [command] }

private theorem screens_initial {l : L ScrObj}
    (children : Layer.children l = [ScrObj.saver, .prompt, .wifi, .tabview, .boot, .home]) :
    Layer.children (Screen.all.foldl
      (fun l s => Layer.addHidden (.sub s) (Layer.create (.sub s) l)) l) =
      [.saver, .prompt, .wifi, .tabview, .boot, .home] ++ Screen.all.map .sub := by
  simp [Screen.all, children]

/-- The active screen after construction: the boot screen covers the tabview,
the cockpit and the sub-screens wait hidden, the prompt card and the screen saver
lie at the back. -/
def initialScreens : Stack L ScrObj where
  raw :=
    let built : L ScrObj := Layer.addHidden .home (Layer.create .home (Layer.create .boot
      (Layer.create .tabview (Layer.create .wifi (Layer.create .prompt
        (Layer.create .saver Layer.bare))))))
    Screen.all.foldl (fun l s => Layer.addHidden (.sub s) (Layer.create (.sub s) l)) built
  distinct := by
    rw [screens_initial (by simp)]
    decide
  built o _ := by
    rw [screens_initial (by simp)]
    cases o with
    | sub screen => cases screen <;> decide
    | _ => decide

/-- The panel once `create_panel` has built it. -/
def Panel.initial : Panel L :=
  { dash := .initial, ov := .initial, scr := initialScreens }

end GrumpyScreen
