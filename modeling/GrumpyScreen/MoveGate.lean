import GrumpyScreen.Frame

/-! The two copies of the job guard: the one every tap and confirmation checks
before it dispatches, and the one the Move buttons show. -/

namespace GrumpyScreen

open Lib Lib.Exec

/-- A jog or homing script of the Move sub-screen. -/
def Command.isMoveScreen : Command → Bool
  | .gcode script => script.isMoveScreen
  | _ => false

/-- Motors-off and the calibration macros. -/
def Word.needsIdle : Word → Bool
  | .m84 | .ponoCalStandard | .ponoCalFull | .bedMeshCalibrateWithWipe | .shaperCalibrate => true
  | _ => false

/-- A command no job may be loaded for: a script with such a line, or the
update run. -/
def Command.needsIdle : Command → Bool
  | .gcode script => script.lines.any fun line => line.word.needsIdle
  | .updateRun => true
  | _ => false

/-- The job on the machine bars the command. -/
def Dash.bars (d : Dash) (command : Command) : Bool :=
  (command.isMoveScreen && (d.printing && !d.paused)) || (command.needsIdle && d.held)

/-- Every command of the calls is one the job allows. -/
def Cleared (d : Dash) (effects : List Effect) : Prop :=
  ∀ command ∈ commandsOf effects, d.bars command = false

section Cleared

variable {L : Type → Type} [Layer L] (p : Panel L)

/-- A command that is neither of the two kinds. -/
def Command.isFree (command : Command) : Bool := !command.isMoveScreen && !command.needsIdle

theorem bars_of_free (d : Dash) {command : Command} (free : command.isFree = true) :
    d.bars command = false := by
  simp only [Command.isFree, Bool.and_eq_true, Bool.not_eq_true'] at free
  simp [Dash.bars, free]

theorem cleared_of_free (d : Dash) {effects : List Effect}
    (free : (commandsOf effects).all Command.isFree = true) : Cleared d effects :=
  fun command member => bars_of_free d (List.all_eq_true.mp free command member)

theorem bars_of_idle {d : Dash} (idle : d.held = false) (command : Command) :
    d.bars command = false := by
  have state : d.printing = false ∧ d.paused = false := by
    simpa [Dash.held] using idle
  simp [Dash.bars, idle, state.1]

theorem cleared_of_idle {d : Dash} (idle : d.held = false) (effects : List Effect) :
    Cleared d effects := fun command _ => bars_of_idle idle command

theorem cleared_of_still {d : Dash} (still : (d.printing && !d.paused) = false)
    {effects : List Effect}
    (free : (commandsOf effects).all (fun command => !command.needsIdle) = true) :
    Cleared d effects := by
  intro command member
  have other : (!command.needsIdle) = true := List.all_eq_true.mp free command member
  simp [Dash.bars, still, Bool.not_eq_true' _ ▸ other]

theorem moveEffects_cleared (step : Float) (button : MoveButton)
    (open_ : p.dash.moveGuard button = false) : Cleared p.dash (moveEffects step button) := by
  cases button with
  | motorsOff => exact cleared_of_idle open_ _
  | _ => exact cleared_of_still open_ rfl

private theorem guardedAct_cleared (d : Dash) (refusal : List Effect) (effects : List Effect)
    (refused : Cleared d refusal) : Cleared d (if d.held then refusal else effects) := by
  cases idle : d.held with
  | true => exact refused
  | false => exact cleared_of_idle idle effects

theorem subTap_cleared (button : SubButton) : Cleared p.dash (subTap p button) := by
  cases button with
  | move button =>
    simp only [subTap]
    split
    · exact cleared_of_free _ rfl
    · next passed =>
      refine moveEffects_cleared p p.ui.moveStep button ?_
      -- the tap's guard and the widget's are the same function of the state
      cases button <;> simpa [Dash.moveGuard, MoveButton.isMotion] using passed
  | standard => exact guardedAct_cleared _ _ _ (cleared_of_free _ rfl)
  | omega => exact guardedAct_cleared _ _ _ (cleared_of_free _ rfl)
  | cal i =>
    simp only [subTap]
    split
    · exact cleared_of_free _ rfl
    · split
      · exact cleared_of_free _ rfl
      · split <;> exact cleared_of_free _ rfl
  | extrude =>
    simp only [subTap]
    split <;> exact cleared_of_free _ rfl
  | retract =>
    simp only [subTap]
    split <;> exact cleared_of_free _ rfl
  | system wire =>
    simp only [subTap, populateSystem]
    split <;> exact cleared_of_free _ rfl
  | integrity =>
    simp only [subTap]
    split <;> exact cleared_of_free _ rfl
  | install =>
    simp only [subTap]
    split
    · exact cleared_of_free _ rfl
    · exact guardedAct_cleared _ _ _ (cleared_of_free _ rfl)
  | _ => exact cleared_of_free _ rfl

theorem homeTap_cleared (button : HomeButton) : Cleared p.dash (homeTap p button) := by
  cases button with
  | pauseStop =>
    simp only [homeTap]
    split
    · exact cleared_of_free _ rfl
    · split <;> exact cleared_of_free _ rfl
  | cancel =>
    simp only [homeTap]
    split <;> exact cleared_of_free _ rfl
  | _ => exact cleared_of_free _ rfl

/-- The closures of the calibrations and the update check the job again. -/
theorem runAction_cleared (action : Action) : Cleared p.dash (runAction p action) := by
  cases action with
  | bedMesh => exact guardedAct_cleared _ _ _ (cleared_of_free _ rfl)
  | inputShaper => exact guardedAct_cleared _ _ _ (cleared_of_free _ rfl)
  | install => exact guardedAct_cleared _ _ _ (cleared_of_free _ rfl)
  | _ => exact cleared_of_free _ rfl

theorem runKeypad_cleared (v : Float) (use : KeypadUse) : Cleared p.dash (runKeypad p v use) := by
  cases use <;> exact cleared_of_free _ rfl

theorem fanSliderCb_cleared (slider : Slider) (v : Int) :
    Cleared p.dash (fanSliderCb p slider v) := by
  unfold fanSliderCb
  split <;> exact cleared_of_free _ rfl

theorem effects_cleared {J : Type} (event : Event J) : Cleared p.dash (event.effects p) := by
  apply effects_of_handlers (Cleared p.dash) (cleared_of_free _ rfl)
  case home => exact homeTap_cleared p
  case sub => exact fun button _ => subTap_cleared p button
  case file =>
    intro idx
    unfold fileRowCb
    split <;> exact cleared_of_free _ rfl
  case slid => exact fanSliderCb_cleared p
  case estop => exact cleared_of_free _ rfl
  case stop => exact cleared_of_free _ rfl
  case ran => exact runAction_cleared p
  case keyed => exact runKeypad_cleared p

end Cleared

/-- Every Move button is disabled exactly when its guard holds. -/
def Dash.Gated (d : Dash) : Prop := ∀ button, d.moveDisabled button = d.moveGuard button

section Gated

theorem blind_gated : Blind Dash.Gated :=
  blind_kept fun core _ _ disabled => ∀ button : MoveButton, disabled button =
    if button.isMotion then core.printing && !core.paused else core.printing || core.paused

theorem rebuildHome_gated (d : Dash) : (rebuildHome d).Gated := fun _ => rfl

theorem flipLayout_gated (printing paused : Bool) (d : Dash) :
    (flipLayout printing paused d).Gated := by
  unfold flipLayout
  simp only
  split <;> exact rebuildHome_gated _

variable {J : Type} [JsonLib J]

theorem consumeHead_gated (j : J) : Preserves Dash.Gated (consumeHead j) := by
  refine consumeHead_preserves j blind_gated ?_ ?_ ?_ ?_
  · intro d gated
    unfold clearStale
    split <;> exact gated
  · exact fun _ _ _ gated => gated
  · exact fun d printing paused _ => flipLayout_gated printing paused d
  · exact fun _ _ _ gated => gated

theorem init_gated (j : J) : Preserves Dash.Gated (init j) :=
  init_preserves blind_gated.toStoreBlind blind_gated.mesh (fun _ _ _ => rebuildHome_gated _) j

variable {L : Type → Type} [Layer L]

theorem moveDisabled_iff {p : Panel L} (gated : p.dash.Gated) (button : MoveButton) :
    p.dash.moveDisabled button = true ↔ subTap p (.move button) = [] := by
  rw [gated button]
  cases button with
  | motorsOff =>
    cases running : p.dash.printing <;>
      simp [subTap, Dash.moveGuard, MoveButton.isMotion, moveEffects, running]
  | _ => simp [subTap, Dash.moveGuard, MoveButton.isMotion, moveEffects]

variable [LawfulLayer L]

theorem step_gated (p : Panel L) (event : Event J) (gated : p.dash.Gated) :
    (step p event).dash.Gated := by
  by_cases status : event.isStatus = true
  · cases event with
    | delta j => exact consume_dash_preserves j (consumeHead_gated j) p gated
    | seed j => exact (init_gated j).final gated
    | staleTick between =>
      obtain ⟨cockpit, stale, moved⟩ := staleTick_dash (J := J) p between
      rw [moved]
      exact gated
    | _ => simp [Event.isStatus] at status
  · obtain ⟨fans, hidden, busy, sensors, same, -⟩ :=
      step_dash p event (Bool.not_eq_true _ ▸ status)
    rw [same]
    exact gated

theorem after_gated (events : List (Event J)) : (after events : Panel L).dash.Gated :=
  run_invariant step_gated (fun button => by cases button <;> rfl) events

/-- Whatever the order of deltas, taps and confirmations: no jog or homing script
leaves while a job runs, nothing that needs an idle machine leaves while a job is
loaded, and every Move button is disabled exactly when its tap does nothing. -/
theorem job_bars_dispatch (events : List (Event J)) :
    let p : Panel L := after events
    (∀ event : Event J, ∀ command ∈ dispatched p event,
      (command.isMoveScreen = true → ¬ (p.dash.printing = true ∧ p.dash.paused = false)) ∧
      (command.needsIdle = true → p.dash.printing = false ∧ p.dash.paused = false)) ∧
    ∀ button, p.dash.moveDisabled button = true ↔ subTap p (.move button) = [] := by
  intro p
  refine ⟨?_, moveDisabled_iff (after_gated events)⟩
  intro event command member
  have free : p.dash.bars command = false := by
    obtain ⟨names, sent⟩ := dispatched_eq p event
    rw [sent, List.mem_append] at member
    rcases member with called | listed
    · exact effects_cleared p event command called
    · obtain ⟨name, -, rfl⟩ := List.mem_map.mp listed
      rfl
  simp only [Dash.bars, Dash.held, Bool.or_eq_false_iff, Bool.and_eq_false_iff] at free
  obtain ⟨screen, idle⟩ := free
  constructor
  · rintro isMove ⟨printing, paused⟩
    rcases screen with other | stopped | running
    · exact absurd isMove (by simp [other])
    · exact absurd printing (by simp [stopped])
    · exact absurd running (by simp [paused])
  · intro needs
    rcases idle with other | idle
    · exact absurd needs (by simp [other])
    · exact idle

/-- A calibration is asked for, a job starts before it is confirmed, and the Move screen is
tapped. -/
theorem job_bars_dispatch_taps :
    let events : List (Event Json) :=
      [.homeTap .move, .subTap (.move .homeAll), .subTap (.cal 0), .delta jobStarted,
        .confirmTap .confirm, .subTap (.move .homeAll)]
    let p : Panel ZStack := after events
    p.dash.printing = true ∧ p.sent.any Command.needsIdle = false ∧
    (∀ event : Event Json, ∀ command ∈ dispatched p event,
      (command.isMoveScreen = true → ¬ (p.dash.printing = true ∧ p.dash.paused = false)) ∧
      (command.needsIdle = true → p.dash.printing = false ∧ p.dash.paused = false)) ∧
    ∀ button, p.dash.moveDisabled button = true ↔ subTap p (.move button) = [] :=
  ⟨rfl, by decide +kernel, job_bars_dispatch _⟩

end Gated

end GrumpyScreen
