import GrumpyScreen.Status

/-! The operator's side: what each tap, slider and key does, as the list of
calls its handler makes, and the panel operation behind every call. -/

namespace GrumpyScreen

open Lib

/-- The tap targets of the cockpit. -/
inductive HomeButton where
  | pauseStop | cancel
  | move | filament | files | fans
  | nozzle | bed | tune | more | hero
deriving DecidableEq, Repr

/-- The tap targets of the sub-screens. The System row carries what the boot
check wrote to `/run/pono-integrity`, which its tap reads. -/
inductive SubButton where
  | back
  | move (button : MoveButton)
  | step (i : Fin 4)
  | load | unload | extrude | retract
  | material (i : Fin 3)
  | cooldown
  | filTemp
  | nzPreset (i : Fin 3)
  | nzOff
  | bdPreset (i : Fin 3)
  | bdOff
  | nzMinus | nzPlus | bdMinus | bdPlus
  | nzCur | bdCur
  | standard | omega
  | cal (i : Fin 5)
  | wifi | expert | mesh
  | system (wire : String)
  | power | led
  | integrity | install
  | restartKlipper | restartFw | reboot | shutdown
  | lightCase (i : Fin 3)
  | lightHot (i : Fin 3)
  | speed | flow | pa | zoff | fan
  | speedP (i : Fin 3)
  | flowP (i : Fin 3)
  | fanP (i : Fin 3)
  | zoffMinus | zoffPlus
deriving DecidableEq, Repr

/-- One call a handler makes. `act` is the blocking pattern: raise the busy
overlay and send a script whose reply hides it again. -/
inductive Effect where
  | send (command : Command)
  | act (text : String) (script : Script)
  | busy (text : String)
  | confirm (msg : String) (action : Action)
  | notice (msg : String)
  | keypad (use : KeypadUse)
  | screen (screen : Screen)
  | home
  | wifi
  | populateFiles
  | checkUpdate
  | spawnUpdate
  | printStart (filename : String)
  | fanLabel (i : Fin 3) (text : String)
  | controls (ui : Controls)

def clampInt (lo hi v : Int) : Int := if v < lo then lo else if v > hi then hi else v

/-- PLA, PETG, PA-CF. -/
def filTemp : Fin 3 → Int
  | 0 => 220 | 1 => 240 | 2 => 260

/-- Klipper's min_extrude_temp floor. -/
def minExtrudeTemp : Int := 170

def stepValue : Fin 4 → Float
  | 0 => 0.1 | 1 => 1.0 | 2 => 10.0 | 3 => 100.0

def unofficialBuildNotice : String :=
  "Unofficial build - good luck out there. This isn't a Pono-signed image, " ++
  "so updates and support work differently. FEL/UART got you here; it'll " ++
  "get you back."

/-- Absent, unreadable or unrecognised renders unknown, never official. -/
def integrityStateFromWire (wire : String) : IntegrityState :=
  if wire = "signed" then .official else if wire = "modified" then .unofficial else .unknown

def Controls.setPill (ui : Controls) (pill : SettingsPill) (text : Text) : Controls :=
  { ui with pills := Function.update ui.pills pill text }

section Handlers

variable {L : Type → Type} [Layer L]

/-- The script of a Move button. -/
def moveScript (step : Float) : MoveButton → Script
  | .xplus => .jog .x false step
  | .xminus => .jog .x true step
  | .yplus => .jog .y false step
  | .yminus => .jog .y true step
  | .zplus => .jog .z false step
  | .zminus => .jog .z true step
  | .homeXy => .homeXY
  | .homeAll => .homeAll
  | .motorsOff => .motorsOff

/-- Homing blocks with an overlay, the jogs and motors-off only send. -/
def moveEffects (step : Float) (button : MoveButton) : List Effect :=
  match button with
  | .homeXy => [.act "Homing X / Y" .homeXY]
  | .homeAll => [.act "Homing all axes" .homeAll]
  | _ => [.send (.gcode (moveScript step button))]

/-- Warn plainly when a print is live. -/
def powerMsg (d : Dash) (msg : String) : String :=
  if d.held then "A print is running - this stops it. " ++ msg else msg

/-- `populate_system`: the badge, the notice once per run, the update check. -/
def populateSystem (p : Panel L) (wire : String) : List Effect :=
  let integrity := integrityStateFromWire wire
  let ui := { p.ui with integrity := integrity }
  if integrity = .unofficial ∧ ¬ p.ui.unofficialNoticeShown then
    [.controls { ui with unofficialNoticeShown := true }, .notice unofficialBuildNotice,
     .checkUpdate]
  else [.controls ui, .checkUpdate]

/-- `MainPanel::_sub_tap`. -/
def subTap (p : Panel L) : SubButton → List Effect
  | .back => [.home]
  | .move button =>
    -- the belt to `apply_move_gates`, checked again at tap time
    let printing := p.dash.printing && !p.dash.paused
    let held := p.dash.printing || p.dash.paused
    if (printing && button.isMotion) || (held && button = .motorsOff) then []
    else moveEffects p.ui.moveStep button
  | .step i => [.controls { p.ui with moveStep := stepValue i, moveStepLit := i }]
  | .load =>
    [.act s!"Loading {p.ui.filLen}mm at {filTemp p.ui.filMat}C"
      (.loadFilament (filTemp p.ui.filMat) p.ui.filLen)]
  | .unload =>
    [.act s!"Unloading at {filTemp p.ui.filMat}C" (.unloadFilament (filTemp p.ui.filMat))]
  | .extrude =>
    if p.dash.cache.nozzle < minExtrudeTemp then
      [.confirm s!"Heat the nozzle to at least {minExtrudeTemp}C before extruding." .acknowledge]
    else [.act "Extruding 25mm" .extrude]
  | .retract =>
    if p.dash.cache.nozzle < minExtrudeTemp then
      [.confirm s!"Heat the nozzle to at least {minExtrudeTemp}C before retracting." .acknowledge]
    else [.act "Retracting 25mm" .retract]
  | .material i =>
    [.controls { p.ui with filMat := i, filMatLit := i }, .send (.gcode (.heaterTarget .extruder (filTemp i)))]
  | .cooldown => [.send (.gcode .heatersOff)]
  | .filTemp => [.keypad .nozzle]
  | .nzPreset i => [.send (.gcode (.heaterTarget .extruder (filTemp i)))]
  | .nzOff => [.send (.gcode (.heaterTarget .extruder 0))]
  | .bdPreset i =>
    [.send (.gcode (.heaterTarget .bed (match i with | 0 => 60 | 1 => 80 | 2 => 45)))]
  | .bdOff => [.send (.gcode (.heaterTarget .bed 0))]
  | .nzMinus =>
    [.send (.gcode (.heaterTarget .extruder (clampInt 0 300 (p.dash.cache.nozzleSet - 5))))]
  | .nzPlus =>
    [.send (.gcode (.heaterTarget .extruder (clampInt 0 300 (p.dash.cache.nozzleSet + 5))))]
  | .bdMinus => [.send (.gcode (.heaterTarget .bed (clampInt 0 120 (p.dash.cache.bedSet - 5))))]
  | .bdPlus => [.send (.gcode (.heaterTarget .bed (clampInt 0 120 (p.dash.cache.bedSet + 5))))]
  | .nzCur => [.keypad .nozzle]
  | .bdCur => [.keypad .bed]
  | .standard =>
    if p.dash.held then
      [.confirm "A job is loaded. Finish or cancel it before calibrating." .acknowledge]
    else [.busy "Starting calibration...", .send (.gcode .calStandard), .home]
  | .omega =>
    if p.dash.held then
      [.confirm "A job is loaded. Finish or cancel it before calibrating." .acknowledge]
    else [.busy "Starting calibration...", .send (.gcode .calFull), .home]
  | .cal i =>
    -- 0 Bed Mesh, 3 Input Shaper; the other tiles open Expert Tune
    if (i = 0 ∨ i = 3) ∧ p.dash.held then
      [.confirm "A job is loaded. Finish or cancel it before calibrating." .acknowledge]
    else if i = 0 then
      [.confirm "Calibrate bed mesh? Heats the bed to 60C and probes the surface." .bedMesh]
    else if i = 3 then
      [.confirm "Calibrate input shaper? The screen pauses while it measures resonance."
        .inputShaper]
    else [.screen .settings]
  | .wifi => [.wifi]
  | .expert => [.screen .settings]
  | .mesh => [.screen .mesh]
  | .system wire => populateSystem p wire ++ [.screen .system]
  | .power => [.screen .power]
  | .led => [.screen .lights]
  | .integrity =>
    if p.ui.integrity = .unofficial then [.notice unofficialBuildNotice] else []
  | .install =>
    if p.ui.updateAvail = "" then []
    else if p.dash.held then []
    else
      [.confirm ("Install " ++ p.ui.updateAvail ++
        "? The printer flashes the spare slot and reboots itself.") .install]
  | .restartKlipper => [.confirm (powerMsg p.dash "Restart Klipper?") .restartKlipper]
  | .restartFw => [.confirm (powerMsg p.dash "Restart firmware?") .restartFirmware]
  | .reboot => [.confirm (powerMsg p.dash "Reboot the printer?") .reboot]
  | .shutdown => [.confirm (powerMsg p.dash "Shut down the printer?") .shutdown]
  | .lightCase i =>
    [.send (.gcode (.led "case" (match i with | 0 => "0" | 1 => "0.5" | 2 => "1.0"))),
     .controls { p.ui with ledCase := i }]
  | .lightHot i =>
    [.send (.gcode (.led "hotend" (match i with | 0 => "0" | 1 => "0.5" | 2 => "1.0"))),
     .controls { p.ui with ledHot := i }]
  | .speed => [.keypad .speed]
  | .flow => [.keypad .flow]
  | .pa => [.keypad .pressureAdvance]
  | .zoff => [.keypad .zOffset]
  | .fan => [.keypad .fan]
  | .speedP i =>
    let sp : Int := match i with | 0 => 50 | 1 => 100 | 2 => 150
    [.send (.gcode (.speedFactor sp)), .controls (p.ui.setPill .speed [.lit s!"{sp}%"])]
  | .flowP i =>
    let fl : Int := match i with | 0 => 95 | 1 => 100 | 2 => 105
    [.send (.gcode (.flowFactor fl)), .controls (p.ui.setPill .flow [.lit s!"{fl}%"])]
  | .fanP i =>
    let duty : Int := match i with | 0 => 0 | 1 => 128 | 2 => 255
    let shown := match i with | 0 => "0%" | 1 => "50%" | 2 => "100%"
    [.send (.gcode (.partFan duty)), .controls (p.ui.setPill .fan [.lit shown])]
  | .zoffMinus =>
    let zoff := p.ui.tuneZoff - 0.01
    [.send (.gcode (.zAdjust false)),
     .controls ({ p.ui with tuneZoff := zoff }.setPill .zOffset [.fixed 3 zoff])]
  | .zoffPlus =>
    let zoff := p.ui.tuneZoff + 0.01
    [.send (.gcode (.zAdjust true)),
     .controls ({ p.ui with tuneZoff := zoff }.setPill .zOffset [.fixed 3 zoff])]

/-- `MainPanel::_home_tap`. The cancel button exists in the printing layout only;
the dictionary entry changes nothing modelled. -/
def homeTap (p : Panel L) : HomeButton → List Effect
  | .pauseStop =>
    if p.dash.paused then [.act "Resuming..." .resume]
    else if p.dash.printing then [.act "Pausing..." .pause]
    else [.populateFiles, .screen .files]
  | .cancel =>
    if p.dash.cockpit.ring.isSome then [.confirm "Cancel this print?" .cancelPrint] else []
  | .move => [.screen .move]
  | .filament => [.screen .filament]
  | .files => [.populateFiles, .screen .files]
  | .fans => [.screen .fans]
  | .nozzle | .bed => [.screen .temps]
  | .tune => [.screen .tune]
  | .more => [.screen .more]
  | .hero => []

/-- The closures the callers of `confirm` store. The calibrations and the update
check the print state again when they run. -/
def runAction (p : Panel L) : Action → List Effect
  | .emergencyStop => [.send .emergencyStop]
  | .cancelPrint => [.send (.gcode .cancelPrint)]
  | .bedMesh =>
    if p.dash.held then [.notice "A job started. Calibration cancelled."]
    else [.send (.gcode .bedMesh)]
  | .inputShaper =>
    if p.dash.held then [.notice "A job started. Calibration cancelled."]
    else [.send (.gcode .inputShaper)]
  | .install =>
    if p.dash.held then [.notice "A print started. Update cancelled."]
    else [.busy "Updating - do not power off", .spawnUpdate]
  | .restartKlipper => [.busy "Restarting Klipper...", .send (.gcode .restart)]
  | .restartFirmware => [.busy "Restarting firmware...", .send (.gcode .firmwareRestart)]
  | .reboot => [.busy "Rebooting...", .send .reboot]
  | .shutdown => [.busy "Shutting down...", .send .shutdown]
  | .printFile filename => [.printStart filename]
  | .acknowledge => []

/-- The ready callbacks of the keypad. -/
def runKeypad (p : Panel L) (v : Float) : KeypadUse → List Effect
  | .nozzle => [.send (.gcode (.heaterTarget .extruder (clampInt 0 300 (castInt (v + 0.5)))))]
  | .bed => [.send (.gcode (.heaterTarget .bed (clampInt 0 120 (castInt (v + 0.5)))))]
  | .speed =>
    let sp := clampInt 10 300 (castInt (v + 0.5))
    [.send (.gcode (.speedFactor sp)), .controls (p.ui.setPill .speed [.lit s!"{sp}%"])]
  | .flow =>
    let fl := clampInt 50 200 (castInt (v + 0.5))
    [.send (.gcode (.flowFactor fl)), .controls (p.ui.setPill .flow [.lit s!"{fl}%"])]
  | .pressureAdvance =>
    let a := if v < 0 then 0 else if v > 1.0 then 1.0 else v
    [.send (.gcode (.pressureAdvance a)), .controls (p.ui.setPill .pressureAdvance [.fixed 3 a])]
  | .zOffset =>
    [.send (.gcode (.zOffset v)),
     .controls ({ p.ui with tuneZoff := v }.setPill .zOffset [.fixed 3 v])]
  | .fan =>
    let pct := clampInt 0 100 (castInt (v + 0.5))
    [.send (.gcode (.partFan (pct * 255 / 100))),
     .controls (p.ui.setPill .fan [.lit s!"{pct}%"])]

/-- The sliders of the Fans, Calibrate and Filament screens. -/
inductive Slider where
  | fan (i : Fin 3)
  | tuneSpeed
  | loadLength
deriving DecidableEq, Repr

/-- `MainPanel::_fan_slider_cb`. -/
def fanSliderCb (p : Panel L) (slider : Slider) (v : Int) : List Effect :=
  match slider with
  | .loadLength => [.controls { p.ui with filLen := v, filLenText := s!"{v} mm" }]
  | .tuneSpeed => [.send (.gcode (.speedFactor v)), .controls { p.ui with speedText := s!"{v}%" }]
  | .fan 0 => [.send (.gcode (.partFan ((v * 255).tdiv 100))), .fanLabel 0 s!"{v}%"]
  | .fan 1 =>
    [.send (.gcode (.fanSpeed "model_helper_fan" (Float.ofInt v / 100.0))), .fanLabel 1 s!"{v}%"]
  | .fan 2 =>
    [.send (.gcode (.fanSpeed "box_fan" (Float.ofInt v / 100.0))), .fanLabel 2 s!"{v}%"]

/-- The first bytes of a text. Where the cut goes through a character, what is left
of it stands as the replacement character. -/
def firstBytes : Nat → List Char → List Char
  | _, [] => []
  | n, c :: rest =>
    if c.utf8Size ≤ n then c :: firstBytes (n - c.utf8Size) rest
    else if n = 0 then [] else ['\uFFFD']

/-- The file name shown in the question: the last path component, shortened to
38 bytes. -/
def baseName (path : String) : String :=
  let base := (path.toList.reverse.takeWhile (· ≠ '/')).reverse
  if (String.ofList base).utf8ByteSize > 38 then String.ofList (firstBytes 36 base) ++ ".."
  else String.ofList base

/-- `MainPanel::_file_row_cb`. -/
def fileRowCb (p : Panel L) (idx : Nat) : List Effect :=
  match p.ui.filesNames[idx]? with
  | some fn => [.confirm s!"Print {baseName fn}?" (.printFile fn)]
  | none => []

/-- `MainPanel::_callog_stop`: the exit stays frictionless. -/
def callogStop : List Effect :=
  [.send (.gcode .calStop),
   .notice ("Stopping. The step now running has to finish first, and the bed mesh takes about " ++
     "twenty minutes. Nothing will be saved. To halt right now, use E-STOP.")]

/-- `MainPanel::_estop_tap`. -/
def estopTap : List Effect := [.confirm "Emergency stop the printer?" .emergencyStop]

end Handlers

section Perform

variable {L : Type → Type} [Layer L] [LawfulLayer L]

/-- `check_update`: one check in flight at a time; the chip is hidden meanwhile. -/
def checkUpdate (p : Panel L) : Panel L :=
  if p.ui.updateChecking then p
  else
    { p with
      ui := { p.ui with updateChecking := true, updateStatus := "checking..." }
      dash := { p.dash with installHidden := true } }

/-- Make one call. -/
def perform (p : Panel L) : Effect → Panel L
  | .send command => send command p
  | .act text script =>
    send (.gcode script)
      { p with
        ov := busyShow text p.ov
        waits := { p.waits with
          actions := p.waits.actions ++ [p.waits.nextAction]
          nextAction := p.waits.nextAction + 1 } }
  | .busy text => { p with ov := busyShow text p.ov }
  | .confirm msg action => { p with ov := confirm msg action p.ov }
  | .notice msg => { p with ov := notice msg p.ov }
  | .keypad use => { p with ov := openKeypad use p.ov }
  | .screen screen => showPono screen p
  | .home => backToHome p
  | .wifi => { p with scr := p.scr.foreground .wifi }
  | .populateFiles =>
    send .filesList { p with waits := { p.waits with filesLists := p.waits.filesLists + 1 } }
  | .checkUpdate => checkUpdate p
  | .spawnUpdate =>
    send .updateRun { p with waits := { p.waits with updateRuns := p.waits.updateRuns + 1 } }
  | .printStart filename =>
    send (.printStart filename)
      { p with waits := { p.waits with printStarts := p.waits.printStarts + 1 } }
  | .fanLabel i text =>
    { p with dash := { p.dash with
        fans := { p.dash.fans with
          val := Function.update p.dash.fans.val (i.castLE (by decide)) text } } }
  | .controls ui => { p with ui := ui }

def performAll (p : Panel L) (effects : List Effect) : Panel L := effects.foldl perform p

end Perform

end GrumpyScreen
