import GrumpyScreen.Machine
import GrumpyScreen.State

/-! The init panel: the requests that follow a connect, the rows they build on
the main panel, and the boot screen that waits for the last of them. -/

namespace GrumpyScreen

open Lib

section Rows

/-- `value(key, default)`: a value of another type than the default throws. -/
def Settings.valueBool (key : String) (default : Bool) (e : Settings) : Except JsonExn Bool :=
  match e.lookup (bytes key) with
  | none => .ok default
  | some (.bool b) => .ok b
  | some _ => .error .typeError

def Settings.valueText (key : String) (default : Bytes) (e : Settings) : Except JsonExn Bytes :=
  match e.lookup (bytes key) with
  | none => .ok default
  | some (.text t) => .ok t
  | some _ => .error .typeError

/-- `dump` throws on a string that is not UTF-8. -/
def dumpable (t : Bytes) : Bool := (ByteArray.mk t.toArray).validateUTF8

def Settings.dumps (e : Settings) : Bool :=
  e.all fun member => dumpable member.1 &&
    match member.2 with
    | .text t => dumpable t
    | _ => true

def Settings.dump (e : Settings) : Except JsonExn PUnit :=
  if e.dumps then .ok ⟨⟩ else .error .typeError

/-- The colour of a sensor's series. -/
inductive SeriesColor where
  | warning | error | intel | accent
  | palette (index : Int)
deriving DecidableEq, Repr

def Settings.color (e : Settings) : SeriesColor :=
  match e.lookup (bytes "color") with
  | some (.text t) =>
    if t = bytes "red" then .error
    else if t = bytes "purple" then .intel
    else if t = bytes "blue" then .accent
    else .warning
  | some (.int i) => .palette i
  | _ => .warning

structure SensorRow where
  controllable : Bool
  color : SeriesColor
  displayName : Bytes
deriving DecidableEq, Repr

/-- One row of `create_sensors`. -/
def sensorRow (key : String) (e : Settings) : Except JsonExn SensorRow := do
  let controllable ← e.valueBool "controllable" false
  let displayName ← e.valueText "display_name" (bytes key)
  pure ⟨controllable, e.color, displayName⟩

inductive FanCallback where
  | partFan | outputPin | generic
deriving DecidableEq, Repr

structure FanRow where
  displayName : Bytes
  callback : FanCallback
deriving DecidableEq, Repr

def fanCallback (key : String) : FanCallback :=
  if key = "fan" then .partFan
  else if hasPrefix "output_pin " key then .outputPin
  else .generic

/-- One row of `create_fans`; the log lines dump all fans and this one. -/
def fanRow (fans : List (String × Settings)) (key : String) (e : Settings) :
    Except JsonExn FanRow := do
  fans.forM fun fan => fan.2.dump
  e.dump
  let displayName ← e.valueText "display_name" (bytes key)
  pure ⟨displayName, fanCallback key⟩

structure LedRow where
  displayName : Bytes
  pwm : Bool
  outputPin : Bool
deriving DecidableEq, Repr

/-- `KUtils::get_obj_name`: what follows the last blank. -/
def getObjName (id : Bytes) : Bytes := (id.reverse.takeWhile (· ≠ 32)).reverse

def getLedPwm (led : Settings) : Bool :=
  match led.lookup (bytes "pwm") with
  | some (.bool pwm) => pwm
  | _ => true

def getLedDisplayName (led : Settings) (fallback : Bytes) : Bytes :=
  match led.lookup (bytes "display_name") with
  | some (.text name) => name
  | _ => fallback

def ledRow (key : Bytes) (led : Settings) : LedRow :=
  ⟨getLedDisplayName led (getObjName key), getLedPwm led,
    (bytes "output_pin ").isPrefixOf key⟩

/-- The id a led is inserted under; the log lines dump all leds and this one. -/
def ledKey (leds : List Settings) (led : Settings) : Except JsonExn (Option Bytes) :=
  match led.id with
  | none => do
    led.dump
    pure none
  | some key => do
    leds.forM Settings.dump
    led.dump
    pure (some key)

/-- The id of a led as text; the ids that are listed are the bytes of one. -/
def ledName (key : Bytes) : String := (String.fromUTF8? ⟨key.toArray⟩).getD ""

/-- `get_main_button_image`, where the button toggles a led: its name has to make a pointer,
and what the replica holds there is read with a check of its type. -/
def mainButtonImage (singleLed : Option Bytes) : Except JsonExn PUnit :=
  match singleLed with
  | none => pure ⟨⟩
  | some key => do
    let _ ← pointerPath (ledName key)
    pure ⟨⟩

end Rows

section Consumers

variable {J : Type} [JsonLib J]

/-- A field of a notification, where it has one. -/
def fieldRead (j : J) (path : List String) (decode : J → Except JsonExn α) :
    Except JsonExn PUnit := do
  let node ← JsonLib.lookup j (params0 ++ path)
  if JsonLib.isNull node then pure ⟨⟩
  else do
    let _ ← decode node
    pure ⟨⟩

/-- A field of an object whose name was formatted into the pointer. -/
def namedRead (j : J) (name field : String) (decode : J → Except JsonExn α) :
    Except JsonExn PUnit := do
  let path ← fieldPath name field
  fieldRead j path decode

/-- The brightness in `color_data`, which is [[r, b, g, w]]. -/
def whiteOf (colorData : J) : Except JsonExn PUnit :=
  if (JsonLib.elements colorData).length > 0 then do
    let color ← itemAt colorData 0
    if (JsonLib.elements color).length = 4 then do
      let white ← itemAt color 3
      let _ ← JsonLib.getDouble white
      pure ⟨⟩
    else pure ⟨⟩
  else pure ⟨⟩

/-- `HomingPanel::consume`, as far as it can throw. -/
def HomingPanel.consume (j : J) : Except JsonExn PUnit := do
  fieldRead j ["toolhead", "homed_axes"] JsonLib.getString
  fieldRead j ["print_stats", "state"] JsonLib.getString

/-- `FanPanel::consume`, as far as it can throw. -/
def FanPanel.consume (fans : List String) (j : J) : Except JsonExn PUnit :=
  fans.forM fun fan => do
    namedRead j fan "value" JsonLib.getDouble
    namedRead j fan "speed" JsonLib.getDouble

/-- `LedPanel::consume`, as far as it can throw. -/
def LedPanel.consume (leds : List String) (j : J) : Except JsonExn PUnit :=
  leds.forM fun led => do
    namedRead j led "value" JsonLib.getDouble
    namedRead j led "color_data" whiteOf

/-- `ExtruderPanel::consume`, as far as it can throw. -/
def ExtruderPanel.consume (j : J) : Except JsonExn PUnit := do
  fieldRead j ["extruder", "target"] JsonLib.getInt
  fieldRead j ["extruder", "temperature"] JsonLib.getInt
  fieldRead j ["print_stats", "state"] JsonLib.getString

end Consumers

/-- A request of the handshake, with the epoch its callback captured. -/
inductive BootRequest where
  | objectsList (epoch : UInt32)
  | roots
  | printerInfo
  | serverInfo
  -- no object set is sent as null
  | subscribe (objects : Option (List String)) (epoch : UInt32)
deriving DecidableEq, Repr

/-- The epoch the callback of a request captured. -/
def BootRequest.epoch : BootRequest → Option UInt32
  | .objectsList epoch => some epoch
  | .subscribe _ epoch => some epoch
  | _ => none

/-- A request that waits for its reply, and the connect it descends from: the
number of connects and of disconnects before it. -/
structure Pending where
  request : BootRequest
  conn : Nat
  drops : Nat
deriving DecidableEq, Repr

/-- The rows built for the printer's objects. -/
structure Rows where
  sensors : List (String × SensorRow) := []
  fans : List (String × FanRow) := []
  leds : List (Bytes × LedRow) := []
  singleLed : Option Bytes := none

/-- The panels that take a notification in between the replica and the main panel, in the
order they registered in. -/
def Rows.consume {J : Type} [JsonLib J] (rows : Rows) (j : J) : Except JsonExn PUnit := do
  HomingPanel.consume j
  FanPanel.consume (rows.fans.map Prod.fst) j
  LedPanel.consume (rows.leds.map fun led => ledName led.1) j
  ExtruderPanel.consume j

structure Boot (L : Type → Type) [Layer L] (J : Type) where
  panel : Panel L
  state : State J
  rows : Rows := {}
  connEpoch : UInt32 := 0
  pct : Int := 4
  stage : String := "Waiting for Klipper to start..."
  pending : List Pending := []
  -- the history: connects, disconnects, the live connect, who set the progress
  conns : Nat := 0
  drops : Nat := 0
  current : Option Nat := none
  setBy : Option Nat := none

namespace Boot

variable {L : Type → Type} [Layer L] {J : Type} [JsonDoc J]

/-- The boot screen covers the cockpit. -/
abbrev Waiting (b : Boot L J) : Prop := b.panel.scr.Shown .boot

def bootSetProgress (pct : Int) (stage : String) (who : Option Nat) (b : Boot L J) : Boot L J :=
  { b with pct := max 0 (min 100 pct), stage := stage, setBy := who }

/-- `set_stage`, from a callback of `origin`'s connection. -/
def setStage (origin : Pending) (pct : Int) (stage : String) : Boot L J → Boot L J :=
  bootSetProgress pct stage (some origin.conn)

/-- Send a request on behalf of `origin`. -/
def ask (origin : Pending) (request : BootRequest) (b : Boot L J) : Boot L J :=
  { b with pending := b.pending ++ [{ origin with request := request }] }

/-- A callback of the handshake. -/
abbrev Callback (L : Type → Type) [Layer L] (J α : Type) := Exec JsonExn (Boot L J) α

def onState (m : Exec JsonExn (State J) PUnit) : Callback L J PUnit :=
  Exec.zoom Boot.state (fun s b => { b with state := s }) m

def onPanel (m : Exec JsonExn (Panel L) PUnit) : Callback L J PUnit :=
  Exec.zoom Boot.panel (fun p b => { b with panel := p }) m

/-- `MainPanel::create_sensors`. -/
def createSensorRows (sensors : List (String × Settings)) : Callback L J PUnit := do
  modify fun b => { b with rows.sensors := [], panel := createSensors [] b.panel }
  sensors.forM fun sensor => do
    let row ← Exec.ofExcept (sensorRow sensor.1 sensor.2)
    modify fun b => { b with
      rows.sensors := b.rows.sensors ++ [(sensor.1, row)]
      panel := createSensors (b.panel.dash.sensors.map Prod.fst ++ [sensor.1]) b.panel }

/-- `FanPanel::create_fans`. -/
def createFans (fans : List (String × Settings)) : Callback L J PUnit := do
  modify fun b => { b with rows.fans := [] }
  fans.forM fun fan => do
    let row ← Exec.ofExcept (fanRow fans fan.1 fan.2)
    modify fun b => { b with rows.fans := b.rows.fans ++ [(fan.1, row)] }

/-- A row for a led, unless its id has one. -/
def insertLed (led : Settings) (key : Option Bytes) (leds : List (Bytes × LedRow)) :
    List (Bytes × LedRow) :=
  match key with
  | none => leds
  | some key => if key ∈ leds.map Prod.fst then leds else leds ++ [(key, ledRow key led)]

/-- A single led without brightness is toggled by its button. -/
def singleLed (leds : List (Bytes × LedRow)) : Option Bytes :=
  match leds with
  | [(key, row)] => if row.pwm then none else some key
  | _ => none

/-- `LedPanel::init`, and the image of the button it leaves. -/
def createLeds (leds : List Settings) : Callback L J PUnit := do
  modify fun b => { b with rows.leds := [], rows.singleLed := none }
  leds.forM fun led => do
    let key ← Exec.ofExcept (ledKey leds led)
    modify fun b => { b with rows.leds := insertLed led key b.rows.leds }
  modify fun b => { b with rows.singleLed := singleLed b.rows.leds }
  let b ← get
  Exec.ofExcept (mainButtonImage b.rows.singleLed)

/-- The name an entry of the objects list is subscribed under. -/
def subName (obj : J) : Option String :=
  if JsonLib.isString obj then
    (JsonLib.getString obj).toOption.filter fun name => !hasPrefix "gcode_macro " name
  else none

/-- All objects except the macros; an entry that is no string is skipped. -/
def subObjects (objs : J) : List String := ((JsonLib.elements objs).filterMap subName).dedup

/-- The object set of the subscription; nothing was put in it for an empty one. -/
def subObjs (objs : J) : Option (List String) :=
  if (subObjects objs).isEmpty then none else some (subObjects objs)

/-- The rows of the main panel, for what the printer lists. -/
def createRows (c : Config) : Callback L J PUnit := do
  let b ← get
  let sensors ← Exec.ofExcept (b.state.getDisplaySensors c)
  createSensorRows sensors
  let fans ← Exec.ofExcept (b.state.getDisplayFans c)
  createFans fans
  let leds ← Exec.ofExcept (b.state.getDisplayLeds c)
  createLeds leds

/-- Subscribe to what the printer lists, or say that it lists nothing yet. -/
def subscribeObjects (origin : Pending) (epoch : UInt32) (d : J) : Callback L J PUnit := do
  let objs ← Exec.ofExcept (JsonLib.lookup d ["result", "objects"])
  if JsonLib.isNull objs then modify (setStage origin 55 "Waiting for printer...")
  else do
    modify (setStage origin 78 "Subscribing to printer...")
    modify (ask origin (.subscribe (subObjs objs) epoch))

/-- The callback of `printer.objects.list`. -/
def objectsListed (c : Config) (origin : Pending) (epoch : UInt32) (d : J) : Callback L J PUnit := do
  onState (State.setData "printer_objs" d ["result"])
  modify (setStage origin 55 "Loading printer state...")
  modify (ask origin .roots)
  modify (ask origin .printerInfo)
  modify (ask origin .serverInfo)
  createRows c
  subscribeObjects origin epoch d

variable [LawfulLayer L]

/-- The callback of `printer.objects.subscribe`. -/
def subscribed (origin : Pending) (epoch : UInt32) (data : J) : Callback L J PUnit := do
  onState (State.setData "printer_state" data resultStatus)
  onPanel (onDash (init data))
  let b ← get
  if epoch ≠ b.connEpoch then pure ⟨⟩
  else modify fun b => { setStage origin 100 "Ready" b with panel := linkReady b.panel }

/-- The callback a reply runs. -/
def callback (c : Config) (origin : Pending) (j : J) : Callback L J PUnit :=
  match origin.request with
  | .objectsList epoch => objectsListed c origin epoch j
  | .roots => onState (State.setData "roots" j ["result"])
  | .printerInfo => onState (State.setData "printer_info" j ["result"])
  | .serverInfo => onState (State.setData "server_info" j ["result"])
  | .subscribe _ epoch => subscribed origin epoch j

/-- `InitPanel::connected`. -/
def connected (b : Boot L J) : Boot L J :=
  let origin : Pending := ⟨.objectsList b.connEpoch, b.conns, b.drops⟩
  let begun := { b with state := State.reset, conns := b.conns + 1, current := some b.conns }
  ask origin origin.request (setStage origin 22 "Connecting to Moonraker..." begun)

/-- `InitPanel::disconnected`. -/
def disconnected (b : Boot L J) : Boot L J :=
  let dropped := { b with
    connEpoch := b.connEpoch + 1
    drops := b.drops + 1
    current := none
    panel := linkLost b.panel }
  bootSetProgress 4 "Waiting for Klipper to start..." none dropped

/-- A reply, to any of the requests that wait. -/
def answered (c : Config) (i : Nat) (j : J) (b : Boot L J) : Boot L J :=
  match b.pending[i]? with
  | none => b
  | some origin => Exec.final (callback c origin j) { b with pending := b.pending.eraseIdx i }

/-- `notify_status_update`: the replica first, the panels of the rows, then the main panel. -/
def notified (j : J) : Callback L J PUnit := do
  onState (State.consume j)
  let b ← get
  Exec.ofExcept (b.rows.consume j)
  onPanel (GrumpyScreen.consume j)

end Boot

/-- What reaches the init panel, and what happens on the panel meanwhile. -/
inductive BootEvent (J : Type) where
  | connected
  | disconnected
  | reply (i : Nat) (j : J)
  | notify (j : J)
  | panel (e : Event J)

def BootEvent.isDrop : BootEvent J → Bool
  | .disconnected => true
  | _ => false

/-- The events of the panel that the websocket thread drives through the init
panel and the notifications. -/
def Event.isLink : Event J → Bool
  | .delta _ | .seed _ | .sensorsBuilt _ | .linkLost | .linkReady => true
  | _ => false

namespace Boot

variable {L : Type → Type} [Layer L] [LawfulLayer L] {J : Type} [JsonDoc J]

def step (c : Config) (b : Boot L J) : BootEvent J → Boot L J
  | .connected => connected b
  | .disconnected => disconnected b
  | .reply i j => answered c i j b
  | .notify j => Exec.final (notified j) b
  | .panel e => if e.isLink then b else { b with panel := GrumpyScreen.step b.panel e }

def initial : Boot L J := { panel := .initial, state := State.reset }

/-- The screen after the events, from its construction. -/
def after (c : Config) (events : List (BootEvent J)) : Boot L J := run (step c) initial events

end Boot

end GrumpyScreen
