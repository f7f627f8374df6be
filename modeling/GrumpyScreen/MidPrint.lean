import GrumpyScreen.Frame

/-! Taps on the sub-screens while a job runs: which of them move the machine. -/

namespace GrumpyScreen

open Lib Lib.Exec

variable {L : Type → Type} [Layer L] {J : Type}

/-- A tap on a sub-screen, its sliders, the keypad or a notice, or the answer to
a dialog a sub-screen opened. The cockpit's cancel and the Files rows open the
other two. -/
def Event.onSubScreen (p : Panel L) : Event J → Bool
  | .subTap _ | .sliderPress _ | .slider _ _ | .key _ | .keypadScrim | .noticeTap => true
  | .confirmTap _ =>
    match p.ov.pending with
    | some .cancelPrint | some (.printFile _) => false
    | _ => true
  | _ => false

/-- Load and unload at any time, extrude and retract with a hot nozzle. -/
def Event.drivesFilament (nozzle : Int) : Event J → Bool
  | .subTap .load | .subTap .unload => true
  | .subTap .extrude | .subTap .retract => minExtrudeTemp ≤ nozzle
  | _ => false

/-- The print runs and is not paused. -/
def Dash.running (d : Dash) : Bool := d.printing && !d.paused

section Handlers

variable {p : Panel L}

attribute [local simp] commandsOf Effect.commands Command.moves Script.moves Script.lines Word.moves

/-- With a job running the Move buttons and the calibrations refuse, and only the
filament buttons move anything. -/
theorem subTap_moves (running : p.dash.running = true) (button : SubButton) :
    (commandsOf (subTap p button)).any Command.moves =
      (Event.subTap button : Event J).drivesFilament p.dash.cache.nozzle := by
  have state : p.dash.printing = true ∧ p.dash.paused = false := by
    simpa [Dash.running] using running
  have held : p.dash.held = true := by simp [Dash.held, state.1]
  cases button with
  | move button => cases button <;> simp [subTap, state, MoveButton.isMotion, Event.drivesFilament]
  | extrude =>
    by_cases cold : p.dash.cache.nozzle < minExtrudeTemp
    · have short : ¬ minExtrudeTemp ≤ p.dash.cache.nozzle := by omega
      simp [subTap, cold, Event.drivesFilament, short]
    · have hot : minExtrudeTemp ≤ p.dash.cache.nozzle := by omega
      simp [subTap, cold, Event.drivesFilament, hot]
  | retract =>
    by_cases cold : p.dash.cache.nozzle < minExtrudeTemp
    · have short : ¬ minExtrudeTemp ≤ p.dash.cache.nozzle := by omega
      simp [subTap, cold, Event.drivesFilament, short]
    · have hot : minExtrudeTemp ≤ p.dash.cache.nozzle := by omega
      simp [subTap, cold, Event.drivesFilament, hot]
  | cal i =>
    simp only [subTap, held, and_true, Event.drivesFilament]
    split
    · simp
    · next other =>
      rw [not_or] at other
      simp [other.1, other.2]
  | system wire =>
    simp only [subTap, populateSystem, Event.drivesFilament]
    split <;> simp
  | integrity =>
    simp only [subTap, Event.drivesFilament]
    split <;> simp
  | install => simp [subTap, held, Event.drivesFilament]
  | _ => simp [subTap, held, Event.drivesFilament]

/-- The closures a sub-screen's dialog runs move nothing while a job is loaded. -/
theorem runAction_moves (held : p.dash.held = true) (action : Action)
    (cancel : action ≠ .cancelPrint) (file : ∀ filename, action ≠ .printFile filename) :
    (commandsOf (runAction p action)).any Command.moves = false := by
  cases action with
  | cancelPrint => exact absurd rfl cancel
  | printFile filename => exact absurd rfl (file filename)
  | _ => simp [runAction, held]

theorem runKeypad_moves (v : Float) (use : KeypadUse) :
    (commandsOf (runKeypad p v use)).any Command.moves = false := by
  cases use <;> simp [runKeypad]

theorem fanSliderCb_moves (slider : Slider) (v : Int) :
    (commandsOf (fanSliderCb p slider v)).any Command.moves = false := by
  unfold fanSliderCb
  split <;> simp

theorem effects_moves (running : p.dash.running = true) (tap : Event J)
    (screen : tap.onSubScreen p = true) :
    (commandsOf (tap.effects p)).any Command.moves = tap.drivesFilament p.dash.cache.nozzle := by
  cases tap with
  | subTap button => exact subTap_moves running button
  | slider control value => exact fanSliderCb_moves control value
  | key key =>
    cases key with
    | ok =>
      simp only [Event.effects]
      split
      · exact runKeypad_moves _ _
      · rfl
    | _ => rfl
  | confirmTap target =>
    cases target with
    | confirm =>
      have held : p.dash.held = true := by
        simp only [Dash.running, Bool.and_eq_true] at running
        simp [Dash.held, running.1]
      simp only [Event.effects]
      split
      · next action opened =>
        simp only [Event.onSubScreen, opened] at screen
        apply runAction_moves held action
        · rintro rfl
          simp at screen
        · rintro filename rfl
          simp at screen
      · rfl
    | _ => rfl
  | sliderPress i => rfl
  | keypadScrim => rfl
  | noticeTap => rfl
  | _ => simp [Event.onSubScreen] at screen

end Handlers

section Run

variable [LawfulLayer L] [JsonLib J]

/-- A tap leaves the print state and the cached nozzle temperature alone. -/
theorem step_running (p : Panel L) (tap : Event J) (screen : tap.onSubScreen p = true) :
    (step p tap).dash.running = p.dash.running ∧
      (step p tap).dash.cache.nozzle = p.dash.cache.nozzle := by
  have operator : tap.isStatus = false := by
    cases tap with
    | delta j => simp [Event.onSubScreen] at screen
    | seed j => simp [Event.onSubScreen] at screen
    | staleTick between => simp [Event.onSubScreen] at screen
    | _ => rfl
  obtain ⟨fans, hidden, busy, sensors, same, -⟩ := step_dash p tap operator
  rw [same]
  exact ⟨rfl, rfl⟩

theorem tap_moves (p : Panel L) (tap : Event J) (running : p.dash.running = true)
    (screen : tap.onSubScreen p = true) :
    ∃ commands, (step p tap).sent = p.sent ++ commands ∧
      commands.any Command.moves = tap.drivesFilament p.dash.cache.nozzle := by
  obtain ⟨names, sent⟩ := step_sent p tap
  refine ⟨_, sent, ?_⟩
  have metadata : (names.map Command.fileMetadata).any Command.moves = false := by
    simp [Command.moves]
  rw [List.any_append, effects_moves running tap screen, metadata, Bool.or_false]

/-- What a run of taps dispatches, by induction on the taps: the job keeps running
and the nozzle reading stands, so every tap is judged by the state it started in. -/
theorem taps_move (taps : List (Event J)) (p : Panel L) (running : p.dash.running = true)
    (screens : Along step (fun p tap => tap.onSubScreen p = true) p taps) :
    ∃ commands, (run step p taps).sent = p.sent ++ commands ∧
      commands.any Command.moves =
        taps.any fun tap => tap.drivesFilament p.dash.cache.nozzle := by
  induction taps generalizing p with
  | nil => exact ⟨[], by simp, rfl⟩
  | cons tap rest ih =>
    obtain ⟨screen, later⟩ := screens
    obtain ⟨state, nozzle⟩ := step_running p tap screen
    obtain ⟨first, sentFirst, movesFirst⟩ := tap_moves p tap running screen
    obtain ⟨second, sentSecond, movesSecond⟩ := ih (step p tap) (state.trans running) later
    refine ⟨first ++ second, ?_, ?_⟩
    · rw [run_cons, sentSecond, sentFirst, List.append_assoc]
    · rw [List.any_append, movesFirst, movesSecond, nozzle, List.any_cons]

/-- While a job runs, the taps of the sub-screens dispatch no moving command if
and only if none of them is a filament button that drives the extruder. -/
theorem no_motion_iff_no_filament (p : Panel L) (running : p.dash.running = true)
    (taps : List (Event J))
    (screens : Along step (fun p tap => tap.onSubScreen p = true) p taps) :
    (∀ command ∈ (run step p taps).sent.drop p.sent.length, command.moves = false) ↔
      ∀ tap ∈ taps, tap.drivesFilament p.dash.cache.nozzle = false := by
  obtain ⟨commands, sent, moves⟩ := taps_move taps p running screens
  rw [sent, List.drop_left]
  constructor
  · intro still tap member
    have none : commands.any Command.moves = false :=
      List.any_eq_false.mpr fun command sentOne => by simp [still command sentOne]
    rw [moves, List.any_eq_false] at none
    exact Bool.not_eq_true _ ▸ none tap member
  · intro dry command sentOne
    have none : (taps.any fun tap => tap.drivesFilament p.dash.cache.nozzle) = false :=
      List.any_eq_false.mpr fun tap member => by simp [dry tap member]
    rw [← moves, List.any_eq_false] at none
    exact Bool.not_eq_true _ ▸ none command sentOne

end Run

def midPrint : Panel ZStack := after [.delta jobStarted]

/-- Opening Filament and tapping Load while the job runs dispatches a script that
moves the extruder. -/
theorem load_moves_mid_print :
    midPrint.dash.printing = true ∧ midPrint.dash.paused = false ∧
    ¬ ∀ command ∈ (run step midPrint [(.subTap .load : Event Json)]).sent.drop
      midPrint.sent.length, command.moves = false := by
  have moved : ((run step midPrint [(.subTap .load : Event Json)]).sent.drop
      midPrint.sent.length).any Command.moves = true := by decide +kernel
  refine ⟨rfl, rfl, ?_⟩
  intro still
  obtain ⟨command, sent, moves⟩ := List.any_eq_true.mp moved
  rw [still command sent] at moves
  exact Bool.noConfusion moves

/-- A jog, the bed mesh tile, its refusal acknowledged and a fan preset. -/
theorem no_motion_iff_no_filament_taps :
    (∀ command ∈ (run step midPrint [(.subTap (.move .xplus) : Event Json), .subTap (.cal 0),
        .confirmTap .confirm, .subTap (.fanP 2)]).sent.drop midPrint.sent.length,
      command.moves = false) ↔
    ∀ tap ∈ [(.subTap (.move .xplus) : Event Json), .subTap (.cal 0),
        .confirmTap .confirm, .subTap (.fanP 2)],
      tap.drivesFilament midPrint.dash.cache.nozzle = false :=
  no_motion_iff_no_filament midPrint rfl _ ⟨rfl, rfl, rfl, rfl, trivial⟩

end GrumpyScreen
