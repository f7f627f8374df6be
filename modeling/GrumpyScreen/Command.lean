/-! The commands the panel sends: gcode scripts with their lines as the source
writes them, the other RPC methods and the on-device update run. -/

namespace GrumpyScreen

/-- A piece of formatted text; a double keeps the format it is printed with. -/
inductive Piece where
  | lit (s : String)
  | num (x : Float)
  | fixed (digits : Nat) (x : Float)
deriving DecidableEq

abbrev Text := List Piece

/-- The first word of a gcode line. -/
inductive Word where
  | g1 | g4 | g28 | g90 | g91
  | m83 | m84 | m106 | m220 | m221 | m400
  | loadFilament | unloadFilament
  | setHeaterTemperature | turnOffHeaters
  | ponoCalStandard | ponoCalFull | ponoCalStop
  | setDisplayText | bedMeshCalibrateWithWipe | saveConfigPrompt
  | updateDelayedGcode | runShellCommand | shaperCalibrate
  | resume | pause | cancelPrint | restart | firmwareRestart
  | setLed | setFanSpeed | setPressureAdvance | setGcodeOffset
deriving DecidableEq, Repr

def Word.text : Word → String
  | .g1 => "G1" | .g4 => "G4" | .g28 => "G28" | .g90 => "G90" | .g91 => "G91"
  | .m83 => "M83" | .m84 => "M84" | .m106 => "M106" | .m220 => "M220" | .m221 => "M221"
  | .m400 => "M400"
  | .loadFilament => "LOAD_FILAMENT" | .unloadFilament => "UNLOAD_FILAMENT"
  | .setHeaterTemperature => "SET_HEATER_TEMPERATURE" | .turnOffHeaters => "TURN_OFF_HEATERS"
  | .ponoCalStandard => "PONO_CAL_STANDARD" | .ponoCalFull => "PONO_CAL_FULL"
  | .ponoCalStop => "PONO_CAL_STOP"
  | .setDisplayText => "SET_DISPLAY_TEXT"
  | .bedMeshCalibrateWithWipe => "BED_MESH_CALIBRATE_WITH_WIPE"
  | .saveConfigPrompt => "_SAVE_CONFIG_PROMPT"
  | .updateDelayedGcode => "UPDATE_DELAYED_GCODE" | .runShellCommand => "RUN_SHELL_COMMAND"
  | .shaperCalibrate => "SHAPER_CALIBRATE"
  | .resume => "RESUME" | .pause => "PAUSE" | .cancelPrint => "CANCEL_PRINT"
  | .restart => "RESTART" | .firmwareRestart => "FIRMWARE_RESTART"
  | .setLed => "SET_LED" | .setFanSpeed => "SET_FAN_SPEED"
  | .setPressureAdvance => "SET_PRESSURE_ADVANCE" | .setGcodeOffset => "SET_GCODE_OFFSET"

/-- The words that move an axis or the extruder when Klipper runs them. The
offset lines carry MOVE=0 and take effect with the next move. -/
def Word.moves : Word → Bool
  | .g1 | .g28 | .loadFilament | .unloadFilament
  | .ponoCalStandard | .ponoCalFull | .bedMeshCalibrateWithWipe | .shaperCalibrate
  | .resume | .pause | .cancelPrint => true
  | _ => false

structure Line where
  word : Word
  args : Text := []

inductive Axis where
  | x | y | z
deriving DecidableEq, Repr

inductive Heater where
  | extruder | bed
deriving DecidableEq, Repr

/-- The gcode scripts of the panel, by the control that sends them. -/
inductive Script where
  | jog (axis : Axis) (minus : Bool) (step : Float)
  | homeXY
  | homeAll
  | motorsOff
  | loadFilament (temp length : Int)
  | unloadFilament (temp : Int)
  | extrude
  | retract
  | heaterTarget (heater : Heater) (target : Int)
  | heatersOff
  | calStandard
  | calFull
  | calStop
  | bedMesh
  | inputShaper
  | resume
  | pause
  | cancelPrint
  | restart
  | firmwareRestart
  | speedFactor (percent : Int)
  | flowFactor (percent : Int)
  | partFan (duty : Int)
  | pressureAdvance (advance : Float)
  | zOffset (offset : Float)
  | zAdjust (up : Bool)
  | fanSpeed (name : String) (speed : Float)
  | led (name level : String)

def Axis.letter : Axis → String
  | .x => "X" | .y => "Y" | .z => "Z"

def Heater.name : Heater → String
  | .extruder => "extruder" | .bed => "heater_bed"

/-- The lines of a script, in order. -/
def Script.lines : Script → List Line
  | .jog axis minus step =>
    [⟨.g91, []⟩,
     ⟨.g1, [.lit (" " ++ axis.letter ++ if minus then "-" else ""), .num step,
            .lit (if axis = .z then " F600" else " F6000")]⟩,
     ⟨.g90, []⟩]
  | .homeXY => [⟨.g28, [.lit " X Y"]⟩]
  | .homeAll => [⟨.g28, []⟩]
  | .motorsOff => [⟨.m84, []⟩]
  | .loadFilament temp length =>
    [⟨.loadFilament, [.lit s!" EXTRUDER_TEMP={temp} LENGTH={length}"]⟩]
  | .unloadFilament temp => [⟨.unloadFilament, [.lit s!" EXTRUDER_TEMP={temp}"]⟩]
  | .extrude => [⟨.m83, []⟩, ⟨.g1, [.lit " E25 F300"]⟩]
  | .retract => [⟨.m83, []⟩, ⟨.g1, [.lit " E-25 F1800"]⟩]
  | .heaterTarget heater target =>
    [⟨.setHeaterTemperature, [.lit s!" HEATER={heater.name} TARGET={target}"]⟩]
  | .heatersOff => [⟨.turnOffHeaters, []⟩]
  | .calStandard => [⟨.ponoCalStandard, []⟩]
  | .calFull => [⟨.ponoCalFull, []⟩]
  | .calStop => [⟨.ponoCalStop, []⟩]
  | .bedMesh =>
    [⟨.setDisplayText, [.lit " MSG=\"Calibrating Bed Mesh\""]⟩,
     ⟨.g28, []⟩,
     ⟨.g90, []⟩,
     ⟨.g1, [.lit " X128 Y128 F6000"]⟩,
     ⟨.bedMeshCalibrateWithWipe, [.lit " BED_TEMP=60"]⟩,
     ⟨.saveConfigPrompt, []⟩]
  | .inputShaper =>
    [⟨.setDisplayText, [.lit " MSG=\"Calibrating Input Shaper - screen pauses briefly\""]⟩,
     ⟨.g4, [.lit " P1500"]⟩,
     ⟨.updateDelayedGcode, [.lit " ID=_SHAPER_CAL_GUI_RESTORE DURATION=180"]⟩,
     ⟨.runShellCommand, [.lit " CMD=CAMERA_STOP"]⟩,
     ⟨.runShellCommand, [.lit " CMD=GUI_STOP"]⟩,
     ⟨.g28, []⟩,
     ⟨.m400, []⟩,
     ⟨.shaperCalibrate, [.lit " AXIS=X"]⟩,
     ⟨.g4, [.lit " P1000"]⟩,
     ⟨.shaperCalibrate, [.lit " AXIS=Y"]⟩,
     ⟨.g4, [.lit " P1000"]⟩,
     ⟨.updateDelayedGcode, [.lit " ID=_SHAPER_CAL_GUI_RESTORE DURATION=0"]⟩,
     ⟨.runShellCommand, [.lit " CMD=CAMERA_START"]⟩,
     ⟨.runShellCommand, [.lit " CMD=GUI_START"]⟩,
     ⟨.saveConfigPrompt, []⟩]
  | .resume => [⟨.resume, []⟩]
  | .pause => [⟨.pause, []⟩]
  | .cancelPrint => [⟨.cancelPrint, []⟩]
  | .restart => [⟨.restart, []⟩]
  | .firmwareRestart => [⟨.firmwareRestart, []⟩]
  | .speedFactor percent => [⟨.m220, [.lit s!" S{percent}"]⟩]
  | .flowFactor percent => [⟨.m221, [.lit s!" S{percent}"]⟩]
  | .partFan duty => [⟨.m106, [.lit s!" S{duty}"]⟩]
  | .pressureAdvance advance => [⟨.setPressureAdvance, [.lit " ADVANCE=", .fixed 3 advance]⟩]
  | .zOffset offset => [⟨.setGcodeOffset, [.lit " Z=", .fixed 3 offset, .lit " MOVE=0"]⟩]
  | .zAdjust up =>
    [⟨.setGcodeOffset, [.lit (if up then " Z_ADJUST=0.01 MOVE=0" else " Z_ADJUST=-0.01 MOVE=0")]⟩]
  | .fanSpeed name speed => [⟨.setFanSpeed, [.lit s!" FAN={name} SPEED=", .fixed 2 speed]⟩]
  | .led name level => [⟨.setLed, [.lit s!" LED={name} WHITE={level}"]⟩]

/-- Some line of the script moves an axis or the extruder. -/
def Script.moves (script : Script) : Bool := script.lines.any fun line => line.word.moves

/-- The jog and homing scripts of the Move sub-screen. -/
def Script.isMoveScreen : Script → Bool
  | .jog _ _ _ | .homeXY | .homeAll => true
  | _ => false

/-- What leaves the panel: RPC requests and the spawned update run. -/
inductive Command where
  | gcode (script : Script)
  | emergencyStop
  | reboot
  | shutdown
  | printStart (filename : String)
  | filesList
  | fileMetadata (filename : String)
  | updateRun

/-- The RPC method of a command; the update run is a local process. -/
def Command.method : Command → Option String
  | .gcode _ => some "printer.gcode.script"
  | .emergencyStop => some "printer.emergency_stop"
  | .reboot => some "machine.reboot"
  | .shutdown => some "machine.shutdown"
  | .printStart _ => some "printer.print.start"
  | .filesList => some "server.files.list"
  | .fileMetadata _ => some "server.files.metadata"
  | .updateRun => none

/-- The command moves an axis or the extruder. -/
def Command.moves : Command → Bool
  | .gcode script => script.moves
  | .printStart _ => true
  | _ => false

end GrumpyScreen
