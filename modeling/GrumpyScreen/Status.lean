import GrumpyScreen.Lib.Exec
import GrumpyScreen.Lib.Ieee
import GrumpyScreen.Lib.Json
import GrumpyScreen.Panel

/-! The three writers of status: the subscribe snapshot (`init`), the deltas
(`consume`) and the staleness timer (`check_stale`). -/

namespace GrumpyScreen

open Lib

/-- A computation on the dashboard that may throw a document error. -/
abbrev Read (α : Type) := Exec JsonExn Dash α

section Reads

variable {J : Type} [JsonLib J]

/-- The node a pointer under `base` leads to. -/
def pointer (j : J) (base path : List String) : Read J :=
  Exec.ofExcept (JsonLib.lookup j (base ++ path))

/-- Decode a node unless it is null, and store the value. -/
def whenPresent (node : J) (decode : J → Except JsonExn α) (store : α → Dash → Dash) :
    Read PUnit :=
  if JsonLib.isNull node then pure ⟨⟩
  else do
    let value ← Exec.ofExcept (decode node)
    modify (store value)

def cached (j : J) (base path : List String) (decode : J → Except JsonExn α)
    (store : α → Dash → Dash) : Read PUnit := do
  let node ← pointer j base path
  whenPresent node decode store

def updateSensor (key : String) (update : Sensor → Sensor) (d : Dash) : Dash :=
  { d with sensors := d.sensors.map fun el =>
      if el.1 = key then (el.1, update el.2) else el }

/-- A negative target is ignored by the sensor row. -/
def updateTarget (key : String) (target : Int) : Dash → Dash :=
  updateSensor key fun sensor => if target ≥ 0 then { sensor with target := target } else sensor

def updateValue (key : String) (value : Int) : Dash → Dash :=
  updateSensor key fun sensor => { sensor with value := value }

/-- The path to a field of an object; a name that makes no pointer throws. -/
def fieldPath (name field : String) : Except JsonExn (List String) := do
  let path ← pointerPath name
  pure (path ++ [field])

/-- A field of an object whose name was formatted into the pointer. -/
def named (j : J) (base : List String) (name field : String) (decode : J → Except JsonExn α)
    (store : α → Dash → Dash) : Read PUnit := do
  let path ← Exec.ofExcept (fieldPath name field)
  cached j base path decode store

/-- The loop over the legacy sensor rows. -/
def readSensors (j : J) (base : List String) : Read PUnit := do
  let d ← get
  d.sensors.forM fun el => do
    named j base el.1 "target" JsonLib.getInt (updateTarget el.1)
    named j base el.1 "temperature" JsonLib.getInt (updateValue el.1)

/-- One cached value of the cockpit or the Move readout. -/
def cacheField (j : J) (base path : List String) (decode : J → Except JsonExn α)
    (put : α → Cache → Cache) : Read PUnit :=
  cached j base path decode fun v d => { d with cache := put v d.cache }

/-- The nine cached fields both writers read, in the source's order. -/
def readCache (j : J) (base : List String) : Read PUnit := do
  cacheField j base ["virtual_sdcard", "progress"] JsonLib.getDouble
    fun v c => { c with progress := v }
  cacheField j base ["print_stats", "print_duration"] JsonLib.getDouble
    fun v c => { c with duration := v }
  cacheField j base ["extruder", "temperature"] JsonLib.getDouble
    fun v c => { c with nozzle := castInt v }
  cacheField j base ["extruder", "target"] JsonLib.getDouble
    fun v c => { c with nozzleSet := castInt v }
  cacheField j base ["heater_bed", "temperature"] JsonLib.getDouble
    fun v c => { c with bed := castInt v }
  cacheField j base ["heater_bed", "target"] JsonLib.getDouble
    fun v c => { c with bedSet := castInt v }
  cacheField j base ["print_stats", "info", "current_layer"] JsonLib.getInt
    fun v c => { c with layer := v }
  cacheField j base ["print_stats", "info", "total_layer"] JsonLib.getInt
    fun v c => { c with layerTotal := v }
  cacheField j base ["print_stats", "filename"] JsonLib.getString
    fun v c => { c with job := v }

/-- One element of the position array. -/
def storeAxis (node : J) (put : Float → Cache → Cache) : Read PUnit := do
  let v ← Exec.ofExcept (JsonLib.getDouble node)
  modify fun d => { d with cache := put v d.cache }

/-- The position, stored element by element. -/
def readPosition (node : J) : Read PUnit :=
  if JsonLib.isArray node then
    match JsonLib.elements node with
    | x :: y :: z :: _ => do
      storeAxis x fun v c => { c with pos := (v, c.pos.2) }
      storeAxis y fun v c => { c with pos := (c.pos.1, v, c.pos.2.2) }
      storeAxis z fun v c => { c with pos := (c.pos.1, c.pos.2.1, v) }
    | _ => pure ⟨⟩
  else pure ⟨⟩

/-- The heatmap, once every cell of the matrix has been pushed. -/
def finishMesh (rows cols : Nat) (d : Dash) : Dash :=
  let z := d.mesh.z
  let lo := z.foldl (fun lo v => if v < lo then v else lo) 1e9
  let hi := z.foldl (fun hi v => if hi < v then v else hi) (-1e9)
  if z.length = rows * cols then
    { d with mesh := { d.mesh with
        heatmap := if rows < 1 ∨ cols < 1 then d.mesh.heatmap else some ⟨z, rows, cols, lo, hi⟩
        range := [.lit "Range: ", .fixed 2 (Ieee.double lo), .lit " .. ",
          .fixed 2 (Ieee.double hi), .lit " mm"] } }
  else d

def pushCell (cell : J) : Read PUnit := do
  let z ← Exec.ofExcept (JsonLib.getDouble cell)
  modify fun d => { d with mesh.z := d.mesh.z ++ [Ieee.single z] }

def renderMatrix (rows : List J) (cols : Nat) : Read PUnit := do
  modify fun d => { d with mesh.z := [] }
  rows.forM fun row => (JsonLib.elements row).forM pushCell
  modify (finishMesh rows.length cols)

def renderProbedMatrix (bm : J) : Read PUnit :=
  match JsonLib.find bm "probed_matrix" with
  | some pm =>
    if JsonLib.isArray pm then
      match JsonLib.elements pm with
      | first :: _ =>
        if JsonLib.isArray first then
          renderMatrix (JsonLib.elements pm) (JsonLib.elements first).length
        else pure ⟨⟩
      | [] => pure ⟨⟩
    else pure ⟨⟩
  | none => pure ⟨⟩

def renderProfile (bm : J) : Read PUnit :=
  match JsonLib.find bm "profile_name" with
  | some pn =>
    if JsonLib.isString pn then do
      let name ← Exec.ofExcept (JsonLib.getString pn)
      modify fun d => { d with mesh.profile := s!"Profile: {name}" }
    else pure ⟨⟩
  | none => pure ⟨⟩

/-- Draw the heatmap from a bed_mesh status object; a partial delta is a no-op. -/
def renderBedMesh (bm : J) : Read PUnit := do
  renderProbedMatrix bm
  renderProfile bm

def readMesh (j : J) (base : List String) : Read PUnit := do
  let bm ← pointer j base ["bed_mesh"]
  if JsonLib.isNull bm then pure ⟨⟩ else renderBedMesh bm

/-- The five fans, in the order of the Fans screen. -/
def fanObject : Fin 5 → String
  | 0 => "fan"
  | 1 => "fan_generic model_helper_fan"
  | 2 => "fan_generic box_fan"
  | 3 => "temperature_fan mainboard"
  | 4 => "heater_fan extruder"

def readFans (j : J) (base : List String) : Read PUnit :=
  [0, 1, 2, 3, 4].forM fun i : Fin 5 =>
    cached j base [fanObject i, "speed"] JsonLib.getDouble fun v => paintFan i (percent v)

/-- Leaving an active operation drops the stale step text. -/
def storeIdle (state : String) (d : Dash) : Dash :=
  let nb := state = "Printing"
  { d with calMsg := if d.busy && !nb then "" else d.calMsg, busy := nb }

def storePrintState (state : String) (d : Dash) : Dash :=
  { d with printing := state = "printing", paused := state = "paused" }

end Reads

section Writers

variable {J : Type} [JsonLib J]

def resultStatus : List String := ["result", "status"]

def params0 : List String := ["params", "0"]

/-- `notify_status_update`: the changed objects and the time of the event. -/
def statusNotify (status time : J) : J :=
  JsonLib.object [("params", JsonLib.array [status, time])]

/-- The notification that a job has started. -/
def jobStarted : Json :=
  statusNotify (.obj [("print_stats", .obj [("state", .str "printing")])]) (.int 0)

/-- The reply of `printer.objects.subscribe`: every subscribed object. -/
def subscribeReply (status : J) : J :=
  JsonLib.object [("result", JsonLib.object [("status", status)])]

/-- `MainPanel::init`: seed the dashboard from the subscribe reply. -/
def init (j : J) : Read PUnit := do
  readSensors j resultStatus
  readMesh j resultStatus
  readCache j resultStatus
  cacheField j resultStatus ["toolhead", "homed_axes"] JsonLib.getString
    fun v c => { c with homed := v }
  let position ← pointer j resultStatus ["toolhead", "position"]
  readPosition position
  cached j resultStatus ["print_stats", "state"] JsonLib.getString storePrintState
  modify rebuildHome
  modify fun d => { d with posText := posText d.cache }

/-- A notify landed: clear the stale flag before anything can throw. -/
def clearStale (d : Dash) : Dash :=
  if d.staleShown then { homeSetStale (-1) d with staleShown := false } else d

/-- The print state flipped: rebuild in the matching layout and take the install
chip off while a job is loaded. -/
def flipLayout (printing paused : Bool) (d : Dash) : Dash :=
  let d := rebuildHome { d with printing := printing, paused := paused }
  if d.held then { d with installHidden := true } else d

/-- The print state did not flip: update the labels in place. -/
def updateInPlace (j : J) (printing : Bool) : Read PUnit := do
  modify repaintTemps
  readFans j params0
  readMesh j params0
  if printing then modify paintRing else pure ⟨⟩

/-- The legacy rows and buttons; yields the `print_stats/state` node. -/
def readLegacy (j : J) : Read J := do
  readSensors j params0
  let pstat ← Exec.ofExcept (JsonLib.value j (params0 ++ ["print_stats", "state"]))
  whenPresent pstat JsonLib.getString fun s d => { d with legacyMotion := s ≠ "printing" }
  pure pstat

/-- The Move readout is reformatted whenever either of its fields lands. -/
def readToolhead (j : J) : Read PUnit := do
  let homed ← pointer j params0 ["toolhead", "homed_axes"]
  whenPresent homed JsonLib.getString fun v d => { d with cache.homed := v }
  let position ← pointer j params0 ["toolhead", "position"]
  readPosition position
  if !JsonLib.isNull homed || JsonLib.isArray position then
    modify fun d => { d with posText := posText d.cache }
  else pure ⟨⟩

/-- The reported print state, or the panel's own when the delta carries none. -/
def readPrintState (pstat : J) : Read (Bool × Bool) :=
  if JsonLib.isNull pstat then do
    let d ← get
    pure (d.printing, d.paused)
  else do
    let s ← Exec.ofExcept (JsonLib.getString pstat)
    pure (decide (s = "printing"), decide (s = "paused"))

/-- Flip the layout or update the labels in place. -/
def flipOrUpdate (j : J) (state : Bool × Bool) (d : Dash) : Read PUnit :=
  if state.1 ≠ d.printing ∨ state.2 ≠ d.paused then modify (flipLayout state.1 state.2)
  else updateInPlace j state.1

/-- Bring the cockpit to the reported print state; yields `printing`. -/
def applyPrintState (j pstat : J) : Read Bool := do
  let state ← readPrintState pstat
  let d ← get
  flipOrUpdate j state d
  pure state.1

/-- The reads of `consume` up to the display message, yielding `printing`. -/
def consumeHead (j : J) : Read Bool := do
  modify clearStale
  let pstat ← readLegacy j
  readCache j params0
  cached j params0 ["idle_timeout", "state"] JsonLib.getString storeIdle
  readToolhead j
  let printing ← applyPrintState j pstat
  cached j params0 ["display_status", "message"] JsonLib.getString
    fun v d => { d with calMsg := v }
  pure printing

end Writers

section Stages

variable {L : Type → Type} [Layer L] [LawfulLayer L]

/-- `s.rfind(p, 0) == 0`. -/
def hasPrefix (p s : String) : Bool := p.toList.isPrefixOf s.toList

/-- A machine calibration announces its steps and no prompt is up. -/
def calActive (printing : Bool) (p : Panel L) : Bool :=
  p.dash.busy && !printing && hasPrefix "Calibrating" p.dash.calMsg && !p.track.promptShowing

/-- The calibration overlay, redrawn only when its cached flag or text changes. -/
def calOverlayStage (printing : Bool) (p : Panel L) : Panel L :=
  if calActive printing p then
    if !p.track.calOverlay || p.dash.calMsg ≠ p.track.calOverlayText then
      { p with
        ov := busyShow p.dash.calMsg p.ov
        track := { p.track with calOverlay := true, calOverlayText := p.dash.calMsg } }
    else p
  else if p.track.calOverlay then
    { p with
      ov := busyHide p.ov
      track := { p.track with calOverlay := false, calOverlayText := "" } }
  else p

/-- A Make-Pono or Full-Cal run is on. -/
def calRun (d : Dash) (printing : Bool) : Bool :=
  (d.busy || printing) && (hasPrefix "Make Pono" d.calMsg || hasPrefix "Full Cal" d.calMsg)

/-- The narration logbook. -/
def logbookStage (printing : Bool) (p : Panel L) : Panel L :=
  if calRun p.dash printing then
    if !p.track.callogShown || p.dash.calMsg ≠ p.track.callogText then
      let step := parseCalMsg p.dash.calMsg
      { p with
        ov := calLogShow step.view p.ov
        track := { p.track with
          callogStep := step, callogShown := true, callogText := p.dash.calMsg,
          callogFault := false } }
    else p
  else if p.track.callogShown then
    { p with
      ov := calLogHide p.ov
      track := { p.track with callogShown := false, callogText := "", callogFault := false } }
  else p

/-- Run a computation of the dashboard inside the panel. -/
def onDash (m : Read α) : Exec JsonExn (Panel L) α :=
  Exec.zoom Panel.dash (fun d p => { p with dash := d }) m

/-- `MainPanel::consume`: apply one status delta. -/
def consume [JsonLib J] (j : J) : Exec JsonExn (Panel L) PUnit := do
  let printing ← onDash (consumeHead j)
  modify (calOverlayStage printing)
  modify (logbookStage printing)

/-- What the clock and the websocket thread do outside the lock. -/
inductive Tick where
  | elapse (ms : Nat)
  | stamp
deriving DecidableEq, Repr

def tick (p : Panel L) : Tick → Panel L
  | .elapse ms => { p with ov.clock := p.ov.clock + ms }
  | .stamp => { p with lastStatus := some p.ov.clock }

def staleAfterMs : Int := 10000

/-- The first half of `check_stale`: the readout-stale flag. -/
def checkReadout (p : Panel L) : Panel L :=
  let live := p.dash.printing || p.dash.paused || p.dash.busy
  let age := if live then p.msSinceStatusUpdate else -1
  if live && age ≥ staleAfterMs then
    { p with dash := { homeSetStale (age / 1000) p.dash with staleShown := true } }
  else if p.dash.staleShown then
    { p with dash := { homeSetStale (-1) p.dash with staleShown := false } }
  else p

/-- The second half: the lost-contact alarm of the logbook. -/
def checkContact (p : Panel L) : Panel L :=
  if p.track.callogShown then
    let cage := p.msSinceStatusUpdate
    if cage ≥ staleAfterMs then
      { p with
        ov := calLogShow (p.track.callogStep.alarm cage) p.ov
        track := { p.track with callogFault := true } }
    else if p.track.callogFault then
      { p with
        ov := calLogShow p.track.callogStep.view p.ov
        track := { p.track with callogFault := false } }
    else p
  else p

/-- `MainPanel::check_stale`. The two halves read the clock on their own, and
the stamp is stored without the panel's lock, so both may move in between. -/
def checkStale (between : List Tick) (p : Panel L) : Panel L :=
  checkContact (between.foldl tick (checkReadout p))

end Stages

end GrumpyScreen
