import GrumpyScreen.Config
import GrumpyScreen.Lib.Doc
import GrumpyScreen.Status
import Mathlib.Data.List.Dedup
import Mathlib.Data.List.Sort

/-! The replica of the printer's documents, what it lists of the printer's
objects, and which of them the configuration asks to see. -/

namespace GrumpyScreen

open Lib

/-- `at` with an index: defined on arrays only. -/
def itemAt {J : Type} [JsonLib J] (j : J) (i : Nat) : Except JsonExn J :=
  if JsonLib.isArray j then
    match (JsonLib.elements j)[i]? with
    | some item => .ok item
    | none => .error .outOfRange
  else .error .typeError

/-- `State::data`, by key; a key never stored is null. -/
structure State (J : Type) where
  data : String → J

namespace State

variable {J : Type} [JsonDoc J]

def reset : State J := ⟨fun _ => JsonDoc.null⟩

/-- Merge the node at `path`, copied out of the message, into what a key holds. -/
def setData (key : String) (j : J) (path : List String) : Exec JsonExn (State J) PUnit := do
  let patch ← Exec.ofExcept (JsonLib.lookup j path)
  if JsonLib.isNull patch then pure ⟨⟩
  else modify fun s =>
    { s with data := Function.update s.data key (JsonDoc.mergePatch (s.data key) patch) }

/-- `State::consume`: a notification that carries parameters. -/
def consume (j : J) : Exec JsonExn (State J) PUnit :=
  match JsonLib.find j "params" with
  | some params =>
    if (JsonLib.elements params).isEmpty then pure ⟨⟩ else setData "printer_state" j params0
  | none => pure ⟨⟩

/-- The printer's objects of one kind. Every entry of the list is read as a
string, also the ones of another kind. -/
def listed (kind : String → Bool) (s : State J) : Except JsonExn (List String) := do
  let objects ← JsonLib.lookup (s.data "printer_objs") ["objects"]
  if JsonLib.isNull objects then pure []
  else
    let names ← (JsonLib.elements objects).mapM JsonLib.getString
    pure (names.filter kind)

def isExtruder (name : String) : Bool :=
  hasPrefix "extruder" name && !hasPrefix "extruder_stepper" name

def isHeater (name : String) : Bool := name = "heater_bed" || hasPrefix "heater_generic " name

def isSensor (name : String) : Bool :=
  hasPrefix "temperature_sensor " name || hasPrefix "temperature_fan " name

def isFan (name : String) : Bool :=
  name = "fan" || hasPrefix "heater_fan " name || hasPrefix "fan_generic " name ||
    hasPrefix "controller_fan " name

def isLed (name : String) : Bool := hasPrefix "led " name

def isOutputPin (name : String) : Bool := hasPrefix "output_pin " name

def getExtruders : State J → Except JsonExn (List String) := listed isExtruder

def getHeaters : State J → Except JsonExn (List String) := listed isHeater

def getSensors : State J → Except JsonExn (List String) := listed isSensor

def getFans : State J → Except JsonExn (List String) := listed isFan

def getLeds : State J → Except JsonExn (List String) := listed isLed

def getOutputPins : State J → Except JsonExn (List String) := listed isOutputPin

end State

section Display

/-- The id an entry is matched by. -/
def Settings.id (e : Settings) : Option Bytes :=
  match e.lookup (bytes "id") with
  | some (.text id) => some id
  | _ => none

/-- The entry configured for an object: the last one with its name. -/
def entryFor (entries : List Settings) (name : String) : Option Settings :=
  entries.reverse.find? fun e => e.id = some (bytes name)

/-- The configured ones among the names, each once, in the order of a map. -/
def display (entries : List Settings) (names : List String) : List (String × Settings) :=
  (names.dedup.insertionSort (· ≤ ·)).filterMap fun name =>
    (entryFor entries name).map fun e => (name, e)

variable {J : Type} [JsonDoc J] (c : Config)

/-- The configured LEDs among the names, in the order of the file. -/
def displayLeds (userLeds : List Settings) (names : List String) : List Settings :=
  let userLedIds := userLeds.filterMap Settings.id
  let systemLedIds := names.filter fun name => bytes name ∈ userLedIds
  userLeds.filter fun e => e.id.any fun id => id ∈ systemLedIds.map bytes

namespace State

def getDisplaySensors (s : State J) : Except JsonExn (List (String × Settings)) := do
  let extruders ← s.getExtruders
  let heaters ← s.getHeaters
  let sensors ← s.getSensors
  pure (display (c.getObjects (bytes "monitored_sensor")) (extruders ++ heaters ++ sensors))

def getDisplayFans (s : State J) : Except JsonExn (List (String × Settings)) := do
  let fans ← s.getFans
  let outputPins ← s.getOutputPins
  pure (display (c.getObjects (bytes "fan")) (fans ++ outputPins))

def getDisplayLeds (s : State J) : Except JsonExn (List Settings) := do
  let leds ← s.getLeds
  let outputPins ← s.getOutputPins
  pure (displayLeds (c.getObjects (bytes "led")) (leds ++ outputPins))

end State

end Display

section Listed

variable {J : Type} [JsonDoc J] {s : State J} {objects : J} {names : List String}

/-- What the printer lists: nothing yet, or elements that are all strings. -/
def State.Lists (s : State J) (names : List String) : Prop :=
  ∃ objects, JsonLib.lookup (s.data "printer_objs") ["objects"] = .ok objects ∧
    JsonLib.isNull objects = false ∧ (JsonLib.elements objects).mapM JsonLib.getString = .ok names

theorem State.listed_of_lists (lists : s.Lists names) (kind : String → Bool) :
    s.listed kind = .ok (names.filter kind) := by
  obtain ⟨objects, found, present, read⟩ := lists
  simp [State.listed, found, present, read, bind, Except.bind, pure, Except.pure]

theorem State.listed_of_mistyped {thrown : JsonExn} (found :
      JsonLib.lookup (s.data "printer_objs") ["objects"] = .ok objects)
    (present : JsonLib.isNull objects = false)
    (read : (JsonLib.elements objects).mapM JsonLib.getString = .error thrown)
    (kind : String → Bool) : s.listed kind = .error thrown := by
  simp [State.listed, found, present, read, bind, Except.bind]

end Listed

end GrumpyScreen
