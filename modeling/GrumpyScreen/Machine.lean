import GrumpyScreen.Lib.Run
import GrumpyScreen.Tap
import GrumpyScreen.Thumbnail

/-! The panel as a machine. Every callback runs under the display lock, so one
event is one callback: a tap, a status message, a reply, a timer or the end of
a worker thread. -/

namespace GrumpyScreen

open Lib

/-- What was tapped on the confirm dialog. -/
inductive ConfirmTarget where
  | confirm | cancel | scrim
deriving DecidableEq, Repr

inductive Key where
  | char (c : Char)
  | backspace
  | cancel
  | ok
deriving DecidableEq, Repr

inductive Event (J : Type) where
  -- the operator
  | homeTap (button : HomeButton)
  | subTap (button : SubButton)
  | fileRow (idx : Nat)
  | sliderPress (i : Fin 3)
  | slider (slider : Slider) (value : Int)
  | estopTap
  | callogStop
  | confirmTap (target : ConfirmTarget)
  | noticeTap
  | key (key : Key)
  | keypadScrim
  | wifiBack
  -- the websocket thread
  | delta (j : J)
  | seed (j : J)
  | actionDone (id : Nat)
  | printStartReply (j : J)
  | filesReply (j : J)
  | metadataReply (i : Nat) (s : State J) (j : J)
  | promptShow
  | promptEnd
  | sensorsBuilt (keys : List String)
  | linkLost
  | linkReady
  -- timers, the clock and worker threads
  | staleTick (between : List Tick)
  | estopKeepalive
  | watchdog (id : Nat)
  | tick (t : Tick)
  | updateChecked (avail : Bool) (latest status : String)
  | updateFinished (rc : Int) (refused : String)
  | loopPass (inactive : Bool)

/-- The digits before and after the point in the longest numeric prefix of a text. -/
def numericPrefix (text : String) : List Char × List Char :=
  let rest := text.toList.dropWhile Char.isDigit
  (text.toList.takeWhile Char.isDigit,
    if rest.head? = some '.' then rest.tail.takeWhile Char.isDigit else [])

/-- The number that decimal digits stand for. -/
def decimal (digits : List Char) : Nat :=
  digits.foldl (fun n c => 10 * n + (c.toNat - '0'.toNat)) 0

/-- The double nearest to what keypad text starts with: digits with one dot. One
that is infinite is out of range. -/
def nearestDouble (text : String) : Option Float :=
  let (whole, frac) := numericPrefix text
  if (whole ++ frac).isEmpty then none
  else
    let value := Float.ofScientific (decimal (whole ++ frac)) true frac.length
    if value.isInf then none else some value

/-- The C library reports an underflow: a number below the normal doubles that no
subnormal one holds exactly. -/
@[irreducible] def underflows (text : String) : Bool :=
  let (whole, frac) := numericPrefix text
  let mantissa := decimal (whole ++ frac)
  2 ^ 1022 * mantissa < 10 ^ frac.length && 2 ^ 1074 * mantissa % 10 ^ frac.length != 0

/-- `std::stod`: what is out of range either way throws. -/
def stod (text : String) : Option Float := if underflows text then none else nearestDouble text

variable {L : Type → Type} [Layer L] [LawfulLayer L]

/-- `MainPanel::_confirm_tap`: the dialog is down before the action runs and the
slot is cleared whatever was tapped. -/
def confirmTap (target : ConfirmTarget) (p : Panel L) : Panel L :=
  let hidden := { p with ov := hideConfirm p.ov }
  let ran :=
    match target, p.ov.pending with
    | .confirm, some action => performAll hidden (runAction hidden action)
    | _, _ => hidden
  { ran with ov.pending := none }

/-- `Numpad::handle_input`. -/
def keypadInput (p : Panel L) : Key → Panel L
  | .char c => { p with ov.keypad.text := p.ov.keypad.text.push c }
  | .backspace => { p with ov.keypad.text := String.ofList p.ov.keypad.text.toList.dropLast }
  | .cancel => { p with ov := dismissKeypad p.ov }
  | .ok =>
    let ran :=
      match stod p.ov.keypad.text, p.ov.keypad.readyCb with
      | some value, some use => performAll p (runKeypad p value use)
      | _, _ => p
    { ran with ov := dismissKeypad ran.ov }

/-- Releasing a slider: the widget has the value, then the callback runs. -/
def sliderInput (slider : Slider) (value : Int) (p : Panel L) : Panel L :=
  let moved :=
    match slider with
    | .fan i =>
      { p with dash := { p.dash with fans := { p.dash.fans with
          slider := Function.update p.dash.fans.slider i value
          held := Function.update p.dash.fans.held i false } } }
    | _ => p
  performAll moved (fanSliderCb moved slider value)

section Replies

variable {J : Type} [JsonLib J]

/-- The text of a print-start error. -/
def printStartError (j : J) : Except JsonExn String := do
  let message ← JsonLib.lookup j ["error", "message"]
  if JsonLib.isString message then JsonLib.getString message else pure "Could not start print"

/-- The reply of `printer.print.start`: an error opens the confirm card with an
empty action, a success leads back to the cockpit. -/
def printStartReply (j : J) (p : Panel L) : Panel L :=
  if JsonLib.contains j "error" then
    match printStartError j with
    | .ok msg => { p with ov := confirm msg .acknowledge p.ov }
    | .error _ => p
  else backToHome p

/-- The size of a file as its row shows it. -/
def sizeText (size : Float) : Text :=
  if size ≥ 1048576.0 then [.fixed 1 (size / 1048576.0), .lit " MB"]
  else if size ≥ 1024.0 then [.fixed 0 (size / 1024.0), .lit " KB"]
  else [.fixed 0 size, .lit " B"]

/-- `files_add_row`. -/
def filesAddRow (path : String) (detail : Text) (index : Option Nat) (ui : Controls) : Controls :=
  { ui with
    fileRows := ui.fileRows ++ [{ row := ui.rowsMade, path, detail, index }]
    rowsMade := ui.rowsMade + 1 }

/-- Add a file with its row and ask for its metadata; the callback captures the
row just made. -/
def addFile (gen : UInt32) (path : String) (size : Float) (p : Panel L) : Panel L :=
  let ui := filesAddRow path (sizeText size) (some (p.ui.filesNames.length - 1)) p.ui
  let captured : FileMeta := { gen, row := p.ui.rowsMade, path, built := p.ui.listsBuilt }
  send (.fileMetadata path)
    { p with ui := ui, waits := { p.waits with fileMetas := p.waits.fileMetas ++ [captured] } }

/-- The list is emptied, and what metadata is still to come for it is stale. -/
def clearFiles (ui : Controls) : Controls :=
  { ui with
    fileRows := [], filesNames := [], filesGen := ui.filesGen + 1, listsBuilt := ui.listsBuilt + 1 }

/-- One entry of the list; an empty path is skipped. -/
def listEntry (gen : UInt32) (f : J) : Exec JsonExn (Panel L) PUnit := do
  let path ← Exec.ofExcept (JsonLib.valueString f "path" "")
  if path = "" then pure ⟨⟩
  else do
    modify fun p => { p with ui.filesNames := p.ui.filesNames ++ [path] }
    let size ← Exec.ofExcept (JsonLib.valueDouble f "size" 0.0)
    modify (addFile gen path size)

/-- A list without files says so, in a row without a tap. -/
def showNoFiles (ui : Controls) : Controls :=
  if ui.filesNames.isEmpty then
    filesAddRow "No gcode files" [.lit "upload via Mainsail"] none ui
  else ui

/-- The reply of `server.files.list`: the first 40 entries. -/
def filesReply (j : J) : Exec JsonExn (Panel L) PUnit := do
  modify fun p => { p with ui := clearFiles p.ui }
  let p ← get
  let res ← Exec.ofExcept (JsonLib.lookup j ["result"])
  let entries := if JsonLib.isArray res then (JsonLib.elements res).take 40 else []
  entries.forM (listEntry p.ui.filesGen)
  modify fun p => { p with ui := showNoFiles p.ui }

/-- The estimated print time, to the minute. -/
def timeText (secs : Int) : String :=
  if 3600 ≤ secs then s!"{secs.tdiv 3600}h {(secs.tmod 3600).tdiv 60}m" else s!"{secs.tdiv 60}m"

/-- The second line of a row out of the file's metadata; empty without any. -/
def metadataText (j : J) : Except JsonExn String := do
  let et ← JsonLib.lookup j ["result", "estimated_time"]
  let m :=
    if isNumber et then timeText ((JsonLib.getDouble et).toOption.getD 0.0).toInt32.toInt else ""
  let ft ← JsonLib.lookup j ["result", "filament_type"]
  if JsonLib.isString ft then
    let t := (JsonLib.getString ft).toOption.getD ""
    pure (if m = "" then t else m ++ "  .  " ++ t)
  else pure m

/-- `files_apply_meta` on a live row; what is empty as a C string is left out. -/
def FileRow.applyMeta (thumbPath : Bytes) (zoom : Int) (detail : String) (row : FileRow) : FileRow :=
  let shown :=
    if thumbPath = [] then row
    else { row with thumb := some thumbPath, zoom := if 0 < zoom then zoom else row.zoom }
  if cStr detail = "" then shown else { shown with detail := [.lit (cStr detail)] }

/-- `files_apply_meta` through a captured pointer, which may be to a deleted row. -/
def filesApplyMeta (row : Nat) (thumbPath : Bytes) (zoom : Int) (detail : String) (ui : Controls) :
    Controls :=
  if ui.fileRows.any (·.row = row) then
    { ui with
      fileRows := ui.fileRows.map fun r =>
        if r.row = row then r.applyMeta thumbPath zoom detail else r }
  else { ui with strayWrites := ui.strayWrites ++ [row] }

/-- The reply of `server.files.metadata`: nothing of an earlier list is touched. -/
def metadataReply (captured : FileMeta) (s : State J) (j : J) : Exec JsonExn (Panel L) PUnit := do
  let p ← get
  if captured.gen ≠ p.ui.filesGen then pure ⟨⟩
  else
    let thumb ← Exec.ofExcept (getThumbnail (widthDistance 0.17) s (bytes captured.path) j)
    let ipath := if thumb.1 = [] then [] else bytes "A:" ++ thumb.1
    -- the width was an `int`, so this is no division by zero
    let zoom := (thumbZoom thumb.2).getD 0
    let detail ← Exec.ofExcept (metadataText j)
    modify fun p => { p with ui := filesApplyMeta captured.row ipath zoom detail p.ui }

end Replies

/-- The dialog comes up and takes the busy scrim down. -/
def promptShow (p : Panel L) : Panel L :=
  { p with
    scr := p.scr.foreground .prompt
    track := { p.track with promptShowing := true }
    ov := busyHide p.ov }

def promptEnd (p : Panel L) : Panel L :=
  { p with
    scr := p.scr.background .prompt
    track := { p.track with promptShowing := false } }

/-- The end of the update check: the chip is offered only while no job is loaded. -/
def updateChecked (avail : Bool) (latest status : String) (p : Panel L) : Panel L :=
  { p with
    ui := { p.ui with
      updateAvail := if avail then latest else "", updateStatus := status
      updateChecking := false }
    dash := { p.dash with installHidden := !(avail && !p.dash.printing && !p.dash.paused) } }

/-- The end of a failed (or rebooting) update run. -/
def updateFinished (rc : Int) (refused : String) (p : Panel L) : Panel L :=
  let refused := if rc = 0 then "" else refused
  let status :=
    if rc = 0 then "rebooting..."
    else if refused = "" then "update failed (see log)" else "not an official build"
  let p := { p with
    ov := busyHide p.ov
    ui := { p.ui with updateStatus := status }
    dash := { p.dash with installHidden := if rc = 0 then p.dash.installHidden else true } }
  if refused = "" then p else { p with ov := notice refused p.ov }

/-- `create_sensors`: fresh rows for the sensors the printer lists. -/
def createSensors (keys : List String) (p : Panel L) : Panel L :=
  { p with dash := { p.dash with sensors := keys.map fun key => (key, {}) } }

/-- The boot screen comes up over everything when the link drops. -/
def linkLost (p : Panel L) : Panel L :=
  let p := resetOverlayState p
  { p with scr := p.scr.raise .boot }

/-- The boot screen gives way to the cockpit. -/
def linkReady (p : Panel L) : Panel L := showHome { p with scr := p.scr.drop .boot }

/-- The render loop puts the display to sleep, or wakes it. -/
def loopPass (inactive : Bool) (p : Panel L) : Panel L :=
  if inactive && !p.asleep then { p with scr := p.scr.foreground .saver, asleep := true }
  else if !inactive && p.asleep then { p with scr := p.scr.background .saver, asleep := false }
  else p

/-- One callback. A reply nobody waits for reaches no callback. -/
def step {J : Type} [JsonLib J] (p : Panel L) : Event J → Panel L
  | .homeTap button => performAll p (homeTap p button)
  | .subTap button => performAll p (subTap p button)
  | .fileRow idx => performAll p (fileRowCb p idx)
  | .sliderPress i =>
    { p with dash := { p.dash with fans := { p.dash.fans with
        held := Function.update p.dash.fans.held i true } } }
  | .slider slider value => sliderInput slider value p
  | .estopTap => performAll p estopTap
  | .callogStop => performAll p callogStop
  | .confirmTap target => confirmTap target p
  | .noticeTap => { p with ov := noticeTap p.ov }
  | .key key => keypadInput p key
  | .keypadScrim => { p with ov := dismissKeypad p.ov }
  | .wifiBack => { p with scr := p.scr.background .wifi }
  | .delta j => Exec.final (consume j) p
  | .seed j => Exec.final (onDash (init j)) p
  | .actionDone id =>
    if id ∈ p.waits.actions then
      hideBusyOverlay { p with waits := { p.waits with actions := p.waits.actions.erase id } }
    else p
  | .printStartReply j =>
    if p.waits.printStarts = 0 then p
    else
      printStartReply j { p with
        waits := { p.waits with printStarts := p.waits.printStarts - 1 } }
  | .filesReply j =>
    if p.waits.filesLists = 0 then p
    else
      Exec.final (filesReply j) { p with
        waits := { p.waits with filesLists := p.waits.filesLists - 1 } }
  | .metadataReply i s j =>
    match p.waits.fileMetas[i]? with
    | some captured =>
      Exec.final (metadataReply captured s j) { p with
        waits := { p.waits with fileMetas := p.waits.fileMetas.eraseIdx i } }
    | none => p
  | .promptShow => promptShow p
  | .promptEnd => promptEnd p
  | .sensorsBuilt keys => createSensors keys p
  | .linkLost => linkLost p
  | .linkReady => linkReady p
  | .staleTick between => checkStale between p
  | .estopKeepalive => { p with ov := estopKeepalive p.ov }
  | .watchdog id => { p with ov := fireWatchdog id p.ov }
  | .tick t => tick p t
  | .updateChecked avail latest status =>
    if p.ui.updateChecking then updateChecked avail latest status p else p
  | .updateFinished rc refused =>
    if p.waits.updateRuns = 0 then p
    else
      updateFinished rc refused { p with
        waits := { p.waits with updateRuns := p.waits.updateRuns - 1 } }
  | .loopPass inactive => loopPass inactive p

/-- The panel after the events of a run, from its construction. -/
def after {J : Type} [JsonLib J] (events : List (Event J)) : Panel L :=
  run step Panel.initial events

end GrumpyScreen
