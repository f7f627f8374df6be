import GrumpyScreen.Frame

/-! The operator's events, which act through the calls of their handlers, and what
those calls leave of the controls. -/

namespace GrumpyScreen

open Lib

section Writes

variable {L : Type → Type} [Layer L] {J : Type}

/-- The Files list's own data among the controls. -/
def Controls.files (ui : Controls) :
    List String × UInt32 × List FileRow × Nat × Nat × List Nat :=
  (ui.filesNames, ui.filesGen, ui.fileRows, ui.rowsMade, ui.listsBuilt, ui.strayWrites)

/-- The available version the update check has recorded. -/
def Controls.spared (ui : Controls) :
    (List String × UInt32 × List FileRow × Nat × Nat × List Nat) × String :=
  (ui.files, ui.updateAvail)

/-- The controls a call writes back. -/
def Effect.writes : Effect → Option Controls
  | .controls ui => some ui
  | _ => none

/-- The calls write back no other Files list and no other version. -/
def Spares (p : Panel L) (effects : List Effect) : Prop :=
  ∀ effect ∈ effects, ∀ ui, effect.writes = some ui → ui.spared = p.ui.spared

theorem spares_of_none {p : Panel L} {effects : List Effect}
    (none : effects.filterMap Effect.writes = []) : Spares p effects := by
  intro effect member ui writes
  have written : ui ∈ effects.filterMap Effect.writes :=
    List.mem_filterMap.mpr ⟨effect, member, writes⟩
  rw [none] at written
  cases written

theorem spares_of_one {p : Panel L} {effects : List Effect} {once : Controls}
    (one : effects.filterMap Effect.writes = [once]) (same : once.spared = p.ui.spared) :
    Spares p effects := by
  intro effect member ui writes
  have written : ui ∈ effects.filterMap Effect.writes :=
    List.mem_filterMap.mpr ⟨effect, member, writes⟩
  rw [one, List.mem_singleton] at written
  exact written ▸ same

private theorem spares_ite {p : Panel L} {condition : Prop} [Decidable condition]
    {yes no : List Effect} (taken : Spares p yes) (skipped : Spares p no) :
    Spares p (if condition then yes else no) := by
  split
  · exact taken
  · exact skipped

theorem subTap_spares (p : Panel L) (button : SubButton) : Spares p (subTap p button) := by
  have none : ∀ {effects : List Effect}, effects.filterMap Effect.writes = [] →
      Spares p effects := spares_of_none
  cases button with
  | move button =>
    apply spares_ite (none rfl)
    cases button <;> exact none rfl
  | extrude => exact spares_ite (none rfl) (none rfl)
  | retract => exact spares_ite (none rfl) (none rfl)
  | standard => exact spares_ite (none rfl) (none rfl)
  | omega => exact spares_ite (none rfl) (none rfl)
  | cal i =>
    apply spares_ite (none rfl)
    apply spares_ite (none rfl)
    exact spares_ite (none rfl) (none rfl)
  | system wire =>
    simp only [subTap, populateSystem]
    split <;> exact spares_of_one rfl rfl
  | integrity => exact spares_ite (none rfl) (none rfl)
  | install =>
    apply spares_ite (none rfl)
    exact spares_ite (none rfl) (none rfl)
  | _ => first | exact none rfl | exact spares_of_one rfl rfl

theorem homeTap_spares (p : Panel L) (button : HomeButton) : Spares p (homeTap p button) := by
  cases button with
  | pauseStop =>
    apply spares_ite (spares_of_none rfl)
    exact spares_ite (spares_of_none rfl) (spares_of_none rfl)
  | cancel => exact spares_ite (spares_of_none rfl) (spares_of_none rfl)
  | _ => exact spares_of_none rfl

theorem runAction_spares (p : Panel L) (action : Action) : Spares p (runAction p action) := by
  cases action with
  | bedMesh => exact spares_ite (spares_of_none rfl) (spares_of_none rfl)
  | inputShaper => exact spares_ite (spares_of_none rfl) (spares_of_none rfl)
  | install => exact spares_ite (spares_of_none rfl) (spares_of_none rfl)
  | _ => exact spares_of_none rfl

theorem fanSliderCb_spares (p : Panel L) (slider : Slider) (value : Int) :
    Spares p (fanSliderCb p slider value) := by
  unfold fanSliderCb
  split <;> first | exact spares_of_none rfl | exact spares_of_one rfl rfl

theorem runKeypad_spares (p : Panel L) (value : Float) (use : KeypadUse) :
    Spares p (runKeypad p value use) := by
  cases use <;> first | exact spares_of_none rfl | exact spares_of_one rfl rfl

theorem fileRowCb_spares (p : Panel L) (idx : Nat) : Spares p (fileRowCb p idx) := by
  unfold fileRowCb
  split <;> exact spares_of_none rfl

theorem effects_spares (p : Panel L) (event : Event J) : Spares p (event.effects p) := by
  apply effects_of_handlers (Spares p) (spares_of_none rfl)
  case home => exact homeTap_spares p
  case sub => exact fun button _ => subTap_spares p button
  case file => exact fileRowCb_spares p
  case slid => exact fanSliderCb_spares p
  case estop => exact spares_of_none rfl
  case stop => exact spares_of_none rfl
  case ran => exact runAction_spares p
  case keyed => exact runKeypad_spares p

end Writes

section Taps

variable {L : Type → Type} [Layer L] [LawfulLayer L] {J : Type}

/-- The events of the operator that make calls. -/
def Event.isHandled : Event J → Bool
  | .homeTap _ | .subTap _ | .fileRow _ | .slider _ _ | .estopTap | .callogStop
  | .confirmTap _ | .key _ => true
  | _ => false

/-- An event of the operator keeps what each call of its handler keeps, the dialog and
the keypad that it closes, what was typed and the slider that was let go. -/
theorem handled_writes [JsonLib J] (Inv : Panel L → Prop) {p : Panel L} {event : Event J}
    (tap : event.isHandled = true)
    (calls : ∀ q, ∀ effect ∈ event.effects p, Inv q → Inv (perform q effect))
    (answered : ∀ q, Inv q → Inv { q with ov := hideConfirm q.ov })
    (settled : ∀ q, Inv q → Inv { q with ov.pending := none })
    (typed : ∀ q text, Inv q → Inv { q with ov.keypad.text := text })
    (dismissed : ∀ q, Inv q → Inv { q with ov := dismissKeypad q.ov })
    (fans : ∀ q fans, Inv q → Inv { q with dash := { q.dash with fans := fans } })
    (holds : Inv p) : Inv (step p event) := by
  have handled : ∀ q, Inv q → ∀ effects, (∀ effect ∈ effects, effect ∈ event.effects p) →
      Inv (performAll q effects) := fun q start effects own =>
    performAll_invariant q Inv (fun q inv effect member => calls q effect (own effect member) inv) start
  cases event with
  | homeTap button => exact handled p holds _ fun _ member => member
  | subTap button => exact handled p holds _ fun _ member => member
  | fileRow idx => exact handled p holds _ fun _ member => member
  | estopTap => exact handled p holds _ fun _ member => member
  | callogStop => exact handled p holds _ fun _ member => member
  | slider slider value =>
    cases slider with
    | fan i => exact handled _ (fans p _ holds) _ fun _ member => member
    | tuneSpeed => exact handled p holds _ fun _ member => member
    | loadLength => exact handled p holds _ fun _ member => member
  | confirmTap target =>
    obtain ⟨effects, ran, same⟩ := confirmTap_eq target p
    have own : ∀ effect ∈ effects, effect ∈ (Event.confirmTap target : Event J).effects p := by
      rcases ran with rfl | ⟨rfl, action, pending, rfl⟩
      · intro effect member
        cases member
      · intro effect member
        simpa [Event.effects, pending] using member
    have taken : step p (.confirmTap target : Event J) = _ := same
    rw [taken]
    exact settled _ (handled _ (answered p holds) effects own)
  | key key =>
    cases key with
    | ok =>
      simp only [step, keypadInput]
      apply dismissed
      split
      · next value use typed ready =>
        apply handled p holds
        intro effect member
        simpa [Event.effects, typed, ready] using member
      · exact holds
    | char c => exact typed p _ holds
    | backspace => exact typed p _ holds
    | cancel => exact dismissed p holds
  | _ => cases tap

/-- What each call of its handler keeps, whatever the overlays and the fans do, an
event of the operator keeps. -/
theorem handled_preserves [JsonLib J] (Inv : Panel L → Prop) {p : Panel L} {event : Event J}
    (tap : event.isHandled = true)
    (calls : ∀ q, ∀ effect ∈ event.effects p, Inv q → Inv (perform q effect))
    (overlays : ∀ q ov, Inv q → Inv { q with ov := ov })
    (fans : ∀ q fans, Inv q → Inv { q with dash := { q.dash with fans := fans } })
    (holds : Inv p) : Inv (step p event) :=
  handled_writes Inv tap calls (fun q => overlays q _) (fun q => overlays q _)
    (fun q _ => overlays q _) (fun q => overlays q _) fans holds

theorem perform_files (p : Panel L) (effect : Effect)
    (same : ∀ ui, effect.writes = some ui → ui.files = p.ui.files) :
    (perform p effect).ui.files = p.ui.files ∧
      (perform p effect).waits.fileMetas = p.waits.fileMetas := by
  cases effect with
  | controls ui => exact ⟨same ui rfl, rfl⟩
  | checkUpdate =>
    obtain ⟨_, _, _, -, left⟩ := perform_checkUpdate p
    rw [left]
    exact ⟨rfl, rfl⟩
  | _ => exact ⟨rfl, rfl⟩

end Taps

end GrumpyScreen
