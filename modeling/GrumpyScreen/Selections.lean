import GrumpyScreen.Frame

/-! The selections behind Load and the jog buttons. Each is kept twice, as what a
command is made from and as what the screen shows. -/

namespace GrumpyScreen

open Lib Lib.Exec

/-- The labels of the step buttons. -/
def stepLabel : Fin 4 → String
  | 0 => "0.1" | 1 => "1" | 2 => "10" | 3 => "100"

/-- The readout beside the load-length slider. -/
def lengthText (length : Int) : String := s!"{length} mm"

/-- What is selected, each time beside what is shown of it. -/
structure Selection where
  step : Float
  stepLit : Fin 4
  mat : Fin 3
  matLit : Fin 3
  length : Int
  lengthShown : String

def Controls.selection (ui : Controls) : Selection :=
  ⟨ui.moveStep, ui.moveStepLit, ui.filMat, ui.filMatLit, ui.filLen, ui.filLenText⟩

namespace Selection

/-- What an event selects. -/
def after (s : Selection) : Event J → Selection
  | .subTap (.step i) => { s with step := stepValue i, stepLit := i }
  | .subTap (.material i) => { s with mat := i, matLit := i }
  | .slider .loadLength v => { s with length := v, lengthShown := lengthText v }
  | _ => s

/-- The step and the material sent are the ones shown. -/
structure Lit (s : Selection) : Prop where
  step : s.step = stepValue s.stepLit
  material : s.mat = s.matLit

theorem after_lit {s : Selection} (lit : s.Lit) (event : Event J) : (s.after event).Lit := by
  cases event with
  | subTap button =>
    cases button with
    | step i => exact ⟨rfl, lit.material⟩
    | material i => exact ⟨lit.step, rfl⟩
    | _ => exact lit
  | slider slider v => cases slider <;> exact ⟨lit.step, lit.material⟩
  | _ => exact lit

end Selection

/-- A command says what the screen shows: LENGTH the readout, EXTRUDER_TEMP the
highlighted material, a jog the highlighted step. -/
def Command.Shown (s : Selection) : Command → Prop
  | .gcode (.loadFilament temp length) =>
    s.lengthShown = lengthText length ∧ temp = filTemp s.matLit
  | .gcode (.jog _ _ step) => stod (stepLabel s.stepLit) = some step
  | _ => True

/-- What a call selects. -/
def Effect.selects (s : Selection) : Effect → Selection
  | .controls ui => ui.selection
  | _ => s

/-- A command without a selection in it. -/
def Command.unselective : Command → Bool
  | .gcode (.loadFilament _ _) | .gcode (.jog _ _ _) => false
  | _ => true

/-- Calls that neither send a selection nor change one. -/
structure Unselective (s : Selection) (effects : List Effect) : Prop where
  sends : (commandsOf effects).all Command.unselective = true
  keeps : effects.foldl Effect.selects s = s

theorem Command.shown_of_unselective (s : Selection) {command : Command}
    (unselective : command.unselective = true) : command.Shown s := by
  unfold Command.unselective at unselective
  unfold Command.Shown
  split <;> simp_all

theorem Unselective.shown {s : Selection} {effects : List Effect}
    (unselective : Unselective s effects) : ∀ command ∈ commandsOf effects, command.Shown s :=
  fun command member =>
    command.shown_of_unselective s (List.all_eq_true.mp unselective.sends command member)

/-- The label of a step button reads as the distance the button stands for. -/
theorem stod_stepLabel (i : Fin 4) : stod (stepLabel i) = some (stepValue i) := by
  match i with
  | 0 => decide +kernel
  | 1 => decide +kernel
  | 2 => decide +kernel
  | 3 => decide +kernel

section Handlers

variable {L : Type → Type} [Layer L] (p : Panel L)

/-- The buttons that select, or send what is selected. -/
def SubButton.selective : SubButton → Bool
  | .load | .move _ | .step _ | .material _ => true
  | _ => false

theorem subTap_unselective {button : SubButton} (other : button.selective = false) :
    Unselective p.ui.selection (subTap p button) := by
  cases button with
  | load => cases other
  | move b => cases other
  | step i => cases other
  | material i => cases other
  | extrude =>
    simp only [subTap]
    split <;> exact ⟨rfl, rfl⟩
  | retract =>
    simp only [subTap]
    split <;> exact ⟨rfl, rfl⟩
  | standard =>
    simp only [subTap]
    split <;> exact ⟨rfl, rfl⟩
  | omega =>
    simp only [subTap]
    split <;> exact ⟨rfl, rfl⟩
  | cal i =>
    simp only [subTap]
    split
    · exact ⟨rfl, rfl⟩
    · split
      · exact ⟨rfl, rfl⟩
      · split <;> exact ⟨rfl, rfl⟩
  | system wire =>
    simp only [subTap, populateSystem]
    split <;> exact ⟨rfl, rfl⟩
  | integrity =>
    simp only [subTap]
    split <;> exact ⟨rfl, rfl⟩
  | install =>
    simp only [subTap]
    split
    · exact ⟨rfl, rfl⟩
    · split <;> exact ⟨rfl, rfl⟩
  | _ => exact ⟨rfl, rfl⟩

theorem homeTap_unselective (button : HomeButton) :
    Unselective p.ui.selection (homeTap p button) := by
  cases button with
  | pauseStop =>
    simp only [homeTap]
    split
    · exact ⟨rfl, rfl⟩
    · split <;> exact ⟨rfl, rfl⟩
  | cancel =>
    simp only [homeTap]
    split <;> exact ⟨rfl, rfl⟩
  | _ => exact ⟨rfl, rfl⟩

theorem fileRowCb_unselective (idx : Nat) : Unselective p.ui.selection (fileRowCb p idx) := by
  unfold fileRowCb
  split <;> exact ⟨rfl, rfl⟩

theorem runAction_unselective (action : Action) :
    Unselective p.ui.selection (runAction p action) := by
  cases action with
  | bedMesh =>
    simp only [runAction]
    split <;> exact ⟨rfl, rfl⟩
  | inputShaper =>
    simp only [runAction]
    split <;> exact ⟨rfl, rfl⟩
  | install =>
    simp only [runAction]
    split <;> exact ⟨rfl, rfl⟩
  | _ => exact ⟨rfl, rfl⟩

theorem runKeypad_unselective (v : Float) (use : KeypadUse) :
    Unselective p.ui.selection (runKeypad p v use) := by
  cases use <;> exact ⟨rfl, rfl⟩

theorem fanSliderCb_sends (slider : Slider) (v : Int) :
    (commandsOf (fanSliderCb p slider v)).all Command.unselective = true := by
  match slider with
  | .loadLength | .tuneSpeed | .fan 0 | .fan 1 | .fan 2 => rfl

theorem move_shown (lit : p.ui.selection.Lit) (button : MoveButton) :
    ∀ command ∈ commandsOf (subTap p (.move button)), command.Shown p.ui.selection := by
  have reads : stod (stepLabel p.ui.moveStepLit) = some p.ui.moveStep := by
    have step : p.ui.moveStep = stepValue p.ui.moveStepLit := lit.step
    rw [step, stod_stepLabel]
  intro command member
  simp only [subTap] at member
  split at member
  · cases member
  · cases button with
    | homeXy | homeAll | motorsOff =>
      rw [List.mem_singleton.mp member]
      trivial
    | _ =>
      rw [List.mem_singleton.mp member]
      exact reads

theorem subTap_shown (lit : p.ui.selection.Lit) {button : SubButton} (other : button ≠ .load) :
    ∀ command ∈ commandsOf (subTap p button), command.Shown p.ui.selection := by
  cases selective : button.selective with
  | false => exact (subTap_unselective p selective).shown
  | true =>
    cases button with
    | load => exact absurd rfl other
    | move b => exact move_shown p lit b
    | step i =>
      intro command member
      cases member
    | material i =>
      intro command member
      rw [List.mem_singleton.mp member]
      trivial
    | _ => cases selective

theorem effects_shown (lit : p.ui.selection.Lit) (event : Event J)
    (other : event ≠ .subTap .load) :
    ∀ command ∈ commandsOf (event.effects p), command.Shown p.ui.selection := by
  apply effects_of_handlers fun effects =>
    ∀ command ∈ commandsOf effects, command.Shown p.ui.selection
  case silent =>
    intro command member
    cases member
  case home => exact fun button => (homeTap_unselective p button).shown
  case sub =>
    intro button tapped
    exact subTap_shown p lit fun same => other (tapped.trans (congrArg Event.subTap same))
  case file => exact fun idx => (fileRowCb_unselective p idx).shown
  case slid =>
    intro slider v command member
    exact command.shown_of_unselective _
      (List.all_eq_true.mp (fanSliderCb_sends p slider v) command member)
  case estop =>
    intro command member
    cases member
  case stop =>
    intro command member
    rw [List.mem_singleton.mp member]
    trivial
  case ran => exact fun action => (runAction_unselective p action).shown
  case keyed => exact fun v use => (runKeypad_unselective p v use).shown

end Handlers

section Refinement

variable {L : Type → Type} [Layer L] [LawfulLayer L] (p : Panel L)

theorem perform_selection (effect : Effect) :
    (perform p effect).ui.selection = effect.selects p.ui.selection := by
  cases effect with
  | checkUpdate =>
    obtain ⟨_, _, _, -, left⟩ := perform_checkUpdate p
    rw [left]
    rfl
  | _ => rfl

theorem performAll_selection (effects : List Effect) :
    (performAll p effects).ui.selection = effects.foldl Effect.selects p.ui.selection := by
  induction effects generalizing p with
  | nil => rfl
  | cons effect rest ih =>
    rw [List.foldl_cons, ← perform_selection]
    exact ih (perform p effect)

theorem Unselective.selection {effects : List Effect}
    (unselective : Unselective p.ui.selection effects) :
    (performAll p effects).ui.selection = p.ui.selection :=
  (performAll_selection p effects).trans unselective.keeps

theorem subTap_selection (button : SubButton) :
    (performAll p (subTap p button)).ui.selection =
      p.ui.selection.after (.subTap button : Event J) := by
  cases selective : button.selective with
  | false =>
    apply (subTap_unselective p selective).selection.trans
    cases button <;> first | rfl | cases selective
  | true =>
    cases button with
    | move b =>
      rw [performAll_selection]
      simp only [subTap]
      split
      · rfl
      · cases b <;> rfl
    | load | step i | material i => rfl
    | _ => cases selective

theorem sliderInput_selection (slider : Slider) (v : Int) :
    (sliderInput slider v p).ui.selection =
      p.ui.selection.after (.slider slider v : Event J) := by
  unfold sliderInput
  rw [performAll_selection]
  match slider with
  | .loadLength | .tuneSpeed | .fan 0 | .fan 1 | .fan 2 => rfl

theorem confirmTap_selection (target : ConfirmTarget) :
    (confirmTap target p).ui.selection = p.ui.selection := by
  obtain ⟨effects, ran, same⟩ := confirmTap_eq target p
  rw [same]
  rcases ran with rfl | ⟨-, action, -, rfl⟩
  · rfl
  · exact (performAll_selection _ _).trans (runAction_unselective p action).keeps

theorem keypadInput_selection (key : Key) : (keypadInput p key).ui.selection = p.ui.selection := by
  cases key with
  | ok =>
    simp only [keypadInput]
    split
    · exact (runKeypad_unselective p _ _).selection
    · rfl
  | _ => rfl

theorem printStartReply_selection [JsonLib J] (j : J) :
    (printStartReply j p).ui.selection = p.ui.selection := by
  unfold printStartReply
  split
  · split <;> rfl
  · rfl

theorem filesApplyMeta_selection (row : Nat) (thumb : Bytes) (zoom : Int) (detail : String)
    (ui : Controls) : (filesApplyMeta row thumb zoom detail ui).selection = ui.selection := by
  unfold filesApplyMeta
  split <;> rfl

theorem showNoFiles_selection (ui : Controls) : (showNoFiles ui).selection = ui.selection := by
  unfold showNoFiles
  split <;> rfl

/-- The panel selects what the events select. -/
theorem step_selection [JsonLib J] (event : Event J) :
    (step p event).ui.selection = p.ui.selection.after event := by
  cases event with
  | homeTap button => exact (homeTap_unselective p button).selection
  | subTap button => exact subTap_selection p button
  | fileRow idx => exact (fileRowCb_unselective p idx).selection
  | slider slider v => exact sliderInput_selection p slider v
  | confirmTap target => exact confirmTap_selection p target
  | key key => exact keypadInput_selection p key
  | delta j => exact consume_view (fun p => p.ui.selection) (fun _ _ _ _ => rfl) j p
  | staleTick between =>
    exact checkStale_view (fun p => p.ui.selection) (fun _ _ _ _ _ => rfl) between p
  | printStartReply j =>
    simp only [step]
    split
    · rfl
    · exact printStartReply_selection _ j
  | filesReply j =>
    simp only [step]
    split
    · rfl
    · have kept : Preserves (fun q : Panel L => q.ui.selection = p.ui.selection) (filesReply j) :=
        filesReply_writes j (fun _ same => same) (fun _ _ same => same) (fun _ _ _ _ same => same)
          fun q same => (showNoFiles_selection q.ui).trans same
      exact kept.final rfl
  | metadataReply i s j =>
    simp only [step]
    split
    · next captured _ =>
      have kept : Preserves (fun q : Panel L => q.ui.selection = p.ui.selection)
          (metadataReply captured s j) :=
        metadataReply_writes captured s j fun q row thumb zoom detail same =>
          (filesApplyMeta_selection row thumb zoom detail q.ui).trans same
      exact kept.final rfl
    · rfl
  | loopPass inactive =>
    exact loopPass_view (fun p => p.ui.selection) (fun _ _ _ => rfl) inactive p
  | actionDone _ | updateChecked _ _ _ | updateFinished _ _ | tick _ =>
    exact side_view (fun q => q.ui.selection) (fun _ _ _ _ _ _ _ _ _ _ _ => rfl) p _ rfl
  | _ => rfl

theorem run_selection [JsonLib J] (events : List (Event J)) :
    (run step p events).ui.selection = run Selection.after p.ui.selection events := by
  induction events generalizing p with
  | nil => rfl
  | cons event rest ih =>
    rw [run_cons, run_cons, ← step_selection]
    exact ih (step p event)

end Refinement

section Runs

variable {L : Type → Type} [Layer L] [LawfulLayer L] {J : Type}

theorem run_lit {s : Selection} (lit : s.Lit) (events : List (Event J)) :
    (run Selection.after s events).Lit := by
  have kept : ∀ (s : Selection) (event : Event J), s.Lit → (s.after event).Lit :=
    fun _ event lit => Selection.after_lit lit event
  exact run_invariant kept lit events

/-- Until the slider moves, the length and its readout are those of the start. -/
theorem run_length (s : Selection) (events : List (Event J)) :
    (∃ v, .slider .loadLength v ∈ events) ∧
        (run Selection.after s events).lengthShown =
          lengthText (run Selection.after s events).length ∨
      (∀ v, .slider .loadLength v ∉ events) ∧
        (run Selection.after s events).length = s.length ∧
        (run Selection.after s events).lengthShown = s.lengthShown := by
  induction events using List.reverseRecOn with
  | nil => exact Or.inr ⟨fun _ member => (List.not_mem_nil member).elim, rfl, rfl⟩
  | append_singleton events event ih =>
    rw [run_snoc]
    by_cases slid : ∃ v, event = .slider .loadLength v
    · obtain ⟨v, rfl⟩ := slid
      exact Or.inl ⟨⟨v, List.mem_append_right _ (List.mem_singleton_self _)⟩, rfl⟩
    · have kept : ∀ t : Selection, (t.after event).length = t.length ∧
          (t.after event).lengthShown = t.lengthShown := by
        intro t
        cases event with
        | subTap button => cases button <;> exact ⟨rfl, rfl⟩
        | slider slider v =>
          cases slider with
          | loadLength => exact absurd ⟨v, rfl⟩ slid
          | _ => exact ⟨rfl, rfl⟩
        | _ => exact ⟨rfl, rfl⟩
      rw [(kept _).1, (kept _).2]
      rcases ih with ⟨⟨v, member⟩, shown⟩ | ⟨never, length, shown⟩
      · exact Or.inl ⟨⟨v, List.mem_append_left _ member⟩, shown⟩
      · refine Or.inr ⟨fun v member => ?_, length, shown⟩
        rcases List.mem_append.mp member with earlier | last
        · exact never v earlier
        · exact slid ⟨v, (List.mem_singleton.mp last).symm⟩

variable [JsonLib J]

theorem after_selection (events : List (Event J)) :
    (after events : Panel L).ui.selection =
      run Selection.after ({} : Controls).selection events :=
  run_selection Panel.initial events

theorem dispatched_shown (p : Panel L) (lit : p.ui.selection.Lit) (event : Event J)
    (other : event ≠ .subTap .load) :
    ∀ command ∈ dispatched p event, command.Shown p.ui.selection := by
  intro command member
  obtain ⟨names, same⟩ := dispatched_eq p event
  rw [same] at member
  rcases List.mem_append.mp member with own | asked
  · exact effects_shown p lit event other command own
  · obtain ⟨name, -, rfl⟩ := List.mem_map.mp asked
    trivial

theorem dispatched_load (p : Panel L) :
    dispatched p (.subTap .load : Event J) =
      [.gcode (.loadFilament (filTemp p.ui.filMat) p.ui.filLen)] := by
  unfold dispatched
  exact (congrArg (List.drop _) (performAll_sent p (subTap p .load))).trans (List.drop_left ..)

theorem load_shown (p : Panel L) (lit : p.ui.selection.Lit) :
    (∀ command ∈ dispatched p (.subTap .load : Event J), command.Shown p.ui.selection) ↔
      p.ui.selection.lengthShown = lengthText p.ui.selection.length := by
  have material : filTemp p.ui.filMat = filTemp p.ui.filMatLit := congrArg filTemp lit.material
  rw [dispatched_load, List.forall_mem_singleton]
  exact and_iff_left material

/-- In a run every load and every jog says what the screen shows exactly if no
load comes before the first move of the length slider. -/
theorem sent_as_shown (L : Type → Type) [Layer L] [LawfulLayer L] (events : List (Event J)) :
    (∀ before event, before ++ [event] <+: events →
      ∀ command ∈ dispatched (after before : Panel L) event,
        command.Shown (after before : Panel L).ui.selection) ↔
    ∀ before rest, events = before ++ .subTap .load :: rest →
      ∃ v, .slider .loadLength v ∈ before := by
  have lit : ∀ before : List (Event J), (after before : Panel L).ui.selection.Lit := by
    intro before
    rw [after_selection]
    exact run_lit ⟨rfl, rfl⟩ before
  have start : ({} : Controls).selection.lengthShown ≠
      lengthText ({} : Controls).selection.length := by decide
  constructor
  · intro always before rest whole
    have shown := always before (.subTap .load) ⟨rest, by simp [whole]⟩
    rw [load_shown _ (lit before), after_selection] at shown
    rcases run_length ({} : Controls).selection before with ⟨slid, -⟩ | ⟨-, length, text⟩
    · exact slid
    · rw [length, text] at shown
      exact absurd shown start
  · intro slid before event isPrefix
    by_cases load : event = .subTap .load
    · subst load
      obtain ⟨rest, whole⟩ := isPrefix
      obtain ⟨v, member⟩ := slid before rest (by simp [← whole])
      rw [load_shown _ (lit before), after_selection]
      rcases run_length ({} : Controls).selection before with ⟨-, shown⟩ | ⟨never, -⟩
      · exact shown
      · exact absurd member (never v)
    · exact dispatched_shown _ (lit before) event load

end Runs

/-- The slider is moved to 150 mm, then Load is tapped. -/
theorem sent_as_shown_slid :
    let p : Panel ZStack := after [(.slider .loadLength 150 : Event Json)]
    ∀ command ∈ dispatched p (.subTap .load : Event Json), command.Shown p.ui.selection := by
  have slid : ∀ before rest : List (Event Json),
      [.slider .loadLength 150, .subTap .load] = before ++ .subTap .load :: rest →
        ∃ v, .slider .loadLength v ∈ before := by
    intro before rest whole
    cases before with
    | nil => cases whole
    | cons first others =>
      obtain ⟨same, -⟩ := List.cons.inj whole
      exact ⟨150, same ▸ List.mem_cons_self⟩
  exact (sent_as_shown ZStack _).mpr slid [.slider .loadLength 150] (.subTap .load)
    (List.prefix_refl _)

/-- Load is the first thing tapped: 100 mm are loaded under a readout of 200. -/
theorem load_first :
    ¬ ∀ events : List (Event Json), ∀ before event, before ++ [event] <+: events →
      ∀ command ∈ dispatched (after before : Panel ZStack) event,
        command.Shown (after before : Panel ZStack).ui.selection := by
  intro always
  have shown := always [.subTap .load] [] (.subTap .load) (List.prefix_refl _)
    (.gcode (.loadFilament 260 100)) (by simp [dispatched_load]; decide)
  exact absurd shown.1 (by decide)

end GrumpyScreen
