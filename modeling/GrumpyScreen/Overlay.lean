import GrumpyScreen.CalLog
import GrumpyScreen.Command
import GrumpyScreen.TopLayer

/-! The overlays of the top layer: the shared busy overlay with its watchdog,
the narration logbook, the confirm card, the notice, the keypad, and the timer
that keeps the E-STOP button above them. -/

namespace GrumpyScreen

open Lib

/-- The action a confirmation runs, by the call of `confirm` that opened it.
`acknowledge` is the empty closure of the purely informational cards. -/
inductive Action where
  | emergencyStop
  | cancelPrint
  | bedMesh
  | inputShaper
  | install
  | restartKlipper
  | restartFirmware
  | reboot
  | shutdown
  | printFile (filename : String)
  | acknowledge
deriving DecidableEq, Repr

/-- What the keypad's ready callback does with the typed number. -/
inductive KeypadUse where
  | nozzle
  | bed
  | speed
  | flow
  | pressureAdvance
  | zOffset
  | fan
deriving DecidableEq, Repr

/-- A live one-shot timer of `busy_show`, due at a tick of the clock. -/
structure Watchdog where
  id : Nat
  due : Nat
deriving DecidableEq, Repr

/-- The busy overlay's label, `g_busy_watchdog` and the timers still live. -/
structure Busy where
  text : String := ""
  watchdog : Option Nat := none
  timers : List Watchdog := []
  fresh : Nat := 0

/-- The keypad's text field and ready callback. -/
structure Keypad where
  text : String := ""
  readyCb : Option KeypadUse := none

structure Overlays (L : Type → Type) [Layer L] where
  layer : TopLayer L
  clock : Nat := 0
  busy : Busy := {}
  logbook : CalLogView := calLogView "" "" 0 0 false
  confirmMsg : String := "Are you sure?"
  pending : Option Action := none
  noticeMsg : String := ""
  keypad : Keypad := {}

variable {L : Type → Type} [Layer L] [LawfulLayer L]

def busyCancelWatchdog (b : Busy) : Busy :=
  match b.watchdog with
  | some id => { b with timers := b.timers.filter (·.id ≠ id), watchdog := none }
  | none => b

/-- `lv_timer_create` with a repeat count of one, 180 seconds out. -/
def Busy.arm (clock : Nat) (b : Busy) : Busy :=
  { b with
    timers := b.timers ++ [⟨b.fresh, clock + 180000⟩]
    watchdog := some b.fresh
    fresh := b.fresh + 1 }

def busyShow (text : String) (o : Overlays L) : Overlays L :=
  { o with
    layer := o.layer.raise .busy
    busy := (busyCancelWatchdog { o.busy with text := cStr text }).arm o.clock }

def busyHide (o : Overlays L) : Overlays L :=
  { o with layer := o.layer.conceal .busy, busy := busyCancelWatchdog o.busy }

def busyWatchdogCb (o : Overlays L) : Overlays L :=
  busyHide { o with busy := { o.busy with watchdog := none } }

/-- A live timer that is due runs its callback and is freed afterwards. -/
def fireWatchdog (id : Nat) (o : Overlays L) : Overlays L :=
  if o.busy.timers.any (fun t => t.id = id ∧ t.due ≤ o.clock) then
    let fired := busyWatchdogCb o
    { fired with busy := { fired.busy with timers := fired.busy.timers.filter (·.id ≠ id) } }
  else o

def calLogShow (view : CalLogView) (o : Overlays L) : Overlays L :=
  { o with layer := o.layer.raise .callog, logbook := view }

def calLogHide (o : Overlays L) : Overlays L :=
  { o with layer := o.layer.conceal .callog }

/-- One card and one pending action for every caller: the last call wins. -/
def confirm (msg : String) (action : Action) (o : Overlays L) : Overlays L :=
  { o with
    pending := some action
    confirmMsg := cStr msg
    layer := (o.layer.raise .confirmScrim).raise .confirmCard }

/-- The part of `_confirm_tap` before the action runs. -/
def hideConfirm (o : Overlays L) : Overlays L :=
  { o with layer := (o.layer.drop .confirmCard).drop .confirmScrim }

def notice (msg : String) (o : Overlays L) : Overlays L :=
  { o with
    noticeMsg := cStr msg
    layer := (o.layer.raise .noticeScrim).raise .noticeCard }

def noticeTap (o : Overlays L) : Overlays L :=
  { o with layer := (o.layer.drop .noticeCard).drop .noticeScrim }

/-- `set_callback` and `foreground_reset`. The source clears both flags before
it moves either child, which leaves the same layer. -/
def openKeypad (use : KeypadUse) (o : Overlays L) : Overlays L :=
  { o with
    keypad := { text := "", readyCb := some use }
    layer := (o.layer.raise .numScrim).raise .numCard }

def dismissKeypad (o : Overlays L) : Overlays L :=
  { o with
    keypad := { o.keypad with text := "" }
    layer := (o.layer.drop .numCard).drop .numScrim }

/-- Keep the E-STOP on top of any full-screen overlay, except while the confirm
dialog is up: that dialog must sit above the E-STOP to be answered. -/
def estopKeepalive (o : Overlays L) : Overlays L :=
  if o.layer.Shown .confirmCard then o
  else if (Layer.children o.layer.raw).getLast? = some .estop then o
  else { o with layer := o.layer.foreground .estop }

/-- The top layer as the constructors leave it. -/
def Overlays.initial : Overlays L := { layer := .initial }

section Cancel

@[simp] theorem busyCancelWatchdog_text (b : Busy) : (busyCancelWatchdog b).text = b.text := by
  unfold busyCancelWatchdog
  split <;> rfl

@[simp] theorem busyCancelWatchdog_watchdog (b : Busy) :
    (busyCancelWatchdog b).watchdog = none := by
  cases armed : b.watchdog with
  | none => simp [busyCancelWatchdog, armed]
  | some id => simp [busyCancelWatchdog, armed]

@[simp] theorem busyCancelWatchdog_fresh (b : Busy) : (busyCancelWatchdog b).fresh = b.fresh := by
  unfold busyCancelWatchdog
  split <;> rfl

end Cancel

section Layers

variable (o : Overlays L)

@[simp] theorem busyShow_layer (text : String) :
    (busyShow text o).layer = o.layer.raise .busy := rfl

@[simp] theorem busyShow_text (text : String) : (busyShow text o).busy.text = cStr text := by
  simp [busyShow, Busy.arm]

@[simp] theorem busyShow_pending (text : String) : (busyShow text o).pending = o.pending := rfl

@[simp] theorem busyHide_layer : (busyHide o).layer = o.layer.conceal .busy := rfl

@[simp] theorem busyHide_pending : (busyHide o).pending = o.pending := rfl

@[simp] theorem calLogShow_layer (view : CalLogView) :
    (calLogShow view o).layer = o.layer.raise .callog := rfl

@[simp] theorem calLogShow_pending (view : CalLogView) :
    (calLogShow view o).pending = o.pending := rfl

@[simp] theorem calLogHide_layer : (calLogHide o).layer = o.layer.conceal .callog := rfl

@[simp] theorem calLogHide_pending : (calLogHide o).pending = o.pending := rfl

@[simp] theorem fireWatchdog_pending (id : Nat) : (fireWatchdog id o).pending = o.pending := by
  unfold fireWatchdog
  split <;> rfl

/-- A watchdog that fires takes the busy overlay down and touches nothing else
of the layer. -/
theorem fireWatchdog_layer (id : Nat) :
    (fireWatchdog id o).layer = o.layer ∨ (fireWatchdog id o).layer = o.layer.conceal .busy := by
  unfold fireWatchdog
  split
  · exact Or.inr rfl
  · exact Or.inl rfl

@[simp] theorem estopKeepalive_pending : (estopKeepalive o).pending = o.pending := by
  unfold estopKeepalive
  split
  · rfl
  · split <;> rfl

end Layers

end GrumpyScreen
