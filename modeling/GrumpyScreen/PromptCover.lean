import GrumpyScreen.CalOverlay
import GrumpyScreen.Screens

/-! A prompt that is up: what lies over its card, and which callbacks put it
there. -/

namespace GrumpyScreen

open Lib Lib.Exec

/-- The call raises a screen or the busy overlay. -/
def Effect.covers : Effect → Bool
  | .screen _ | .home | .wifi => true
  | effect => effect.showsBusy

section Cover

variable {L : Type → Type} [Layer L]

/-- The card is the top-most visible child and no busy overlay covers it. -/
def Answerable (p : Panel L) : Prop :=
  Layer.TopVisible p.scr.raw .prompt ∧ ¬ p.ov.layer.Shown .busy

/-- A prompt that is up can be answered. -/
def PromptReachable (p : Panel L) : Prop := p.track.promptShowing = true → Answerable p

/-- The busy overlay is up, or something visible is drawn over the card. -/
def Covered (p : Panel L) : Prop :=
  p.ov.layer.Shown .busy ∨ ∃ o, p.scr.Above .prompt o ∧ p.scr.Shown o

/-- The children that are never hidden, once built. -/
structure Fixtures (p : Panel L) : Prop where
  prompt : p.scr.Shown .prompt
  wifi : p.scr.Shown .wifi
  saver : p.scr.Shown .saver

theorem Fixtures.keep {p q : Panel L} (standing : Fixtures p)
    (kept : ∀ o : ScrObj, o.isPage = false → o ≠ .boot → (q.scr.Shown o ↔ p.scr.Shown o)) :
    Fixtures q where
  prompt := (kept .prompt rfl (by decide)).mpr standing.prompt
  wifi := (kept .wifi rfl (by decide)).mpr standing.wifi
  saver := (kept .saver rfl (by decide)).mpr standing.saver

theorem promptReachable_iff {p : Panel L} (standing : Fixtures p) :
    PromptReachable p ↔ (p.track.promptShowing = true → ¬ Covered p) := by
  have answered : Answerable p ↔ ¬ Covered p := by
    constructor
    · rintro ⟨⟨-, -, top⟩, idle⟩ (busy | ⟨o, above, shown⟩)
      · exact idle busy
      · have hidden := top o shown.1 above
        rw [shown.2] at hidden
        cases hidden
    · intro uncovered
      refine ⟨⟨standing.prompt.1, standing.prompt.2, fun other child above => ?_⟩,
        fun busy => uncovered (Or.inl busy)⟩
      cases flag : Layer.hidden p.scr.raw other with
      | true => rfl
      | false => exact absurd (Or.inr ⟨other, above, child, flag⟩) uncovered
  exact imp_congr_right fun _ => answered

theorem covered_of_same {p q : Panel L} (scr : q.scr = p.scr)
    (busy : q.ov.layer.Shown .busy → p.ov.layer.Shown .busy) (covered : Covered q) : Covered p := by
  rcases covered with up | ⟨o, above, shown⟩
  · exact Or.inl (busy up)
  · rw [scr] at above shown
    exact Or.inr ⟨o, above, shown⟩

theorem covered_of_down {p q : Panel L} (scr : q.scr = p.scr) (down : ¬ q.ov.layer.Shown .busy)
    (covered : Covered q) : Covered p := covered_of_same scr (fun up => absurd up down) covered

variable [LawfulLayer L]

theorem showPono_covered {p : Panel L} (standing : Fixtures p) (screen : Screen) :
    Covered (showPono screen p) := by
  have raised : (showPono screen p).scr = ((subsHidden p.scr).conceal .home).raise (.sub screen) :=
    rfl
  have other : ScrObj.prompt ≠ .sub screen := fun same => nomatch same
  refine Or.inr ⟨.sub screen, ?_, ?_⟩
  · rw [raised, Stack.above_raise other]
    have card : ((subsHidden p.scr).conceal .home).Shown .prompt := by
      rw [Stack.shown_conceal, subsHidden_shown rfl]
      exact ⟨(fun same => nomatch same), standing.prompt⟩
    exact Or.inr ⟨rfl, card.1⟩
  · rw [raised, Stack.shown_raise]
    exact Or.inl rfl

theorem showHome_covered {p : Panel L} (standing : Fixtures p) : Covered (showHome p) := by
  refine Or.inr ⟨.home, ?_, ?_⟩
  · have raised : (showHome p).scr = p.scr.raise .home := rfl
    rw [raised, Stack.above_raise (by decide)]
    exact Or.inr ⟨rfl, standing.prompt.1⟩
  · have raised : (showHome p).scr = p.scr.raise .home := rfl
    rw [raised, Stack.shown_raise]
    exact Or.inl rfl

theorem backToHome_covered {p : Panel L} (standing : Fixtures p) : Covered (backToHome p) := by
  have hidden : Fixtures { p with scr := subsHidden p.scr } :=
    standing.keep fun o fixed _ => subsHidden_shown fixed p.scr
  exact showHome_covered hidden

theorem wifi_covered {p : Panel L} (standing : Fixtures p) : Covered (perform p .wifi) := by
  have raised : (perform p .wifi).scr = p.scr.foreground .wifi := rfl
  refine Or.inr ⟨.wifi, ?_, ?_⟩
  · rw [raised, Stack.above_foreground (by decide)]
    exact Or.inr ⟨rfl, standing.prompt.1⟩
  · rw [raised, Stack.shown_foreground]
    exact standing.wifi

theorem perform_fixtures {p : Panel L} (standing : Fixtures p) (effect : Effect) :
    Fixtures (perform p effect) :=
  standing.keep fun _ fixed _ => perform_shown fixed p effect

theorem perform_covered {p : Panel L} (standing : Fixtures p) (effect : Effect) :
    Covered (perform p effect) ↔ Covered p ∨ effect.covers = true := by
  cases covers : effect.covers with
  | true =>
    refine iff_of_true ?_ (Or.inr rfl)
    cases effect with
    | screen screen => exact showPono_covered standing screen
    | home => exact backToHome_covered standing
    | wifi => exact wifi_covered standing
    | act text script => exact Or.inl (Stack.shown_raise.mpr (Or.inl rfl))
    | busy text => exact Or.inl (Stack.shown_raise.mpr (Or.inl rfl))
    | _ => cases covers
  | false =>
    have silent : effect.showsBusy = false := by
      cases effect <;> first | rfl | exact covers
    have busy := (perform_kept p effect silent).shown
    have scr : (perform p effect).scr = p.scr := by
      rw [perform_scr]
      cases effect with
      | screen screen => cases covers
      | home => cases covers
      | wifi => cases covers
      | _ => rfl
    rw [or_iff_left Bool.false_ne_true]
    constructor
    · exact covered_of_same scr busy.mp
    · exact covered_of_same scr.symm busy.mpr

theorem performAll_covered {p : Panel L} (standing : Fixtures p) (effects : List Effect) :
    Covered (performAll p effects) ↔ Covered p ∨ effects.any Effect.covers = true := by
  induction effects generalizing p with
  | nil => simp [performAll]
  | cons effect rest ih =>
    have later : Covered (performAll (perform p effect) rest) ↔ _ := ih (perform_fixtures standing effect)
    rw [perform_covered standing effect] at later
    simpa [performAll, or_assoc] using later

end Cover

section Step

variable {L : Type → Type} [Layer L] [LawfulLayer L] {J : Type} [JsonLib J]

/-- The event puts something over a prompt that is up: a call that raises a screen
or the busy overlay, an accepted print start, the return of the link, a display
that goes to sleep. -/
def coversPrompt (p : Panel L) (event : Event J) : Bool :=
  p.track.promptShowing &&
    match event with
    | .printStartReply j => p.waits.printStarts ≠ 0 && !JsonLib.contains j "error"
    | .linkReady => true
    | .loopPass inactive => inactive && !p.asleep
    | event => (event.effects p).any Effect.covers

/-- What an event does to the flag. -/
def showingAfter (showing : Bool) : Event J → Bool
  | .promptShow => true
  | .promptEnd | .linkLost => false
  | _ => showing

theorem step_showing (p : Panel L) (event : Event J) :
    (step p event).track.promptShowing = showingAfter p.track.promptShowing event := by
  cases event with
  | homeTap button => exact congrArg Tracking.promptShowing (performAll_track p _)
  | subTap button => exact congrArg Tracking.promptShowing (performAll_track p _)
  | fileRow idx => exact congrArg Tracking.promptShowing (performAll_track p _)
  | estopTap => exact congrArg Tracking.promptShowing (performAll_track p _)
  | callogStop => exact congrArg Tracking.promptShowing (performAll_track p _)
  | slider control value =>
    exact congrArg Tracking.promptShowing (sliderInput_kept p control value).2
  | confirmTap target =>
    obtain ⟨effects, -, ran⟩ := confirmTap_eq target p
    have same : (confirmTap target p).track = p.track := by
      rw [ran]
      exact performAll_track { p with ov := hideConfirm p.ov } effects
    exact congrArg Tracking.promptShowing same
  | key key => exact congrArg Tracking.promptShowing (keypadInput_kept p key).2
  | delta j =>
    simp only [step]
    unfold final
    rcases consume_cases p j with ⟨d, printing, -, -, ran⟩ | ⟨d, thrown, -, ran⟩
    · rw [ran]
      obtain ⟨-, -, logged⟩ :=
        logbookStage_track d.printing (calOverlayStage d.printing { p with dash := d })
      refine logged.trans ?_
      unfold calOverlayStage
      split
      · split <;> rfl
      · split <;> rfl
    · rw [ran]
      rfl
  | printStartReply j =>
    simp only [step]
    split
    · rfl
    · exact congrArg Tracking.promptShowing (printStartReply_kept _ j).2
  | filesReply j =>
    exact filesReply_view (fun q : Panel L => q.track.promptShowing) (fun _ _ _ _ => rfl) j p
  | staleTick between =>
    have same := (checkStale_kept p between).2
    exact congrArg (·.2.2) same
  | metadataReply i s j =>
    exact metadataReply_view (fun q : Panel L => q.track.promptShowing) (fun _ _ _ => rfl) i s j p
  | loopPass inactive =>
    exact loopPass_view (fun q : Panel L => q.track.promptShowing) (fun _ _ _ => rfl) inactive p
  | actionDone _ | updateChecked _ _ _ | updateFinished _ _ | tick _ =>
    exact side_view (fun q => q.track.promptShowing) (fun _ _ _ _ _ _ _ _ _ _ _ => rfl) p _ rfl
  | _ => rfl

theorem step_fixtures {p : Panel L} (standing : Fixtures p) (event : Event J) :
    Fixtures (step p event) := by
  by_cases lost : event = .linkLost
  · subst lost
    refine standing.keep fun o fixed other => ?_
    have raised : (step p (.linkLost : Event J)).scr = (p.scr.background .prompt).raise .boot := rfl
    rw [raised, Stack.shown_raise, Stack.shown_background]
    simp [other]
  by_cases ready : event = .linkReady
  · subst ready
    refine standing.keep fun o fixed other => ?_
    have raised : (step p (.linkReady : Event J)).scr = (p.scr.drop .boot).raise .home := rfl
    have page : o ≠ .home := fun same => by simp [same, ScrObj.isPage] at fixed
    rw [raised, Stack.shown_raise, Stack.shown_drop]
    simp [other, page]
  · exact standing.keep fun o fixed _ => step_shown fixed p event ⟨lost, ready⟩

theorem initial_fixtures : Fixtures (Panel.initial : Panel L) where
  prompt := by simp [Stack.Shown, Panel.initial, initialScreens, Screen.all]
  wifi := by simp [Stack.Shown, Panel.initial, initialScreens, Screen.all]
  saver := by simp [Stack.Shown, Panel.initial, initialScreens, Screen.all]

variable {p : Panel L}

theorem consume_uncovers (showing : p.track.promptShowing = true) (j : J)
    (covered : Covered (step p (.delta j))) : Covered p := by
  refine covered_of_same (consume_scr j p) (fun busy => ?_) covered
  unfold final at busy
  rcases consume_cases p j with ⟨d, printing, -, -, ran⟩ | ⟨d, thrown, -, ran⟩
  · rw [ran] at busy
    have overlaid := (logbookStage_kept d.printing _).shown.mp busy
    have inactive : calActive d.printing { p with dash := d } = false := by simp [calActive, showing]
    unfold calOverlayStage at overlaid
    rw [if_neg (by simp [inactive])] at overlaid
    split at overlaid
    · exact absurd overlaid (busyHide_down p.ov).hidden
    · exact overlaid
  · rw [ran] at busy
    exact busy

theorem handled_covered (standing : Fixtures p) (effects : List Effect)
    {r q : Panel L} (before : r.scr = p.scr) (down : r.ov.layer.Shown .busy ↔ p.ov.layer.Shown .busy)
    (after : q.scr = (performAll r effects).scr)
    (kept : q.ov.layer.Shown .busy ↔ (performAll r effects).ov.layer.Shown .busy) :
    Covered q ↔ Covered p ∨ effects.any Effect.covers = true := by
  have start : Fixtures r := standing.keep fun o _ _ => by rw [before]
  have same : Covered r ↔ Covered p := by
    constructor
    · exact covered_of_same before down.mp
    · exact covered_of_same before.symm down.mpr
  rw [← same, ← performAll_covered start effects]
  constructor
  · exact covered_of_same after kept.mp
  · exact covered_of_same after.symm kept.mpr

theorem promptShow_uncovers (p : Panel L) : ¬ Covered (promptShow p) := by
  have raised : (promptShow p).scr = p.scr.foreground .prompt := rfl
  rintro (busy | ⟨o, above, -⟩)
  · exact (busyHide_down p.ov).hidden busy
  · rw [raised] at above
    exact Stack.not_above_foreground_self above

theorem keypadInput_ok (p : Panel L) :
    step p (.key .ok : Event J) =
      { performAll p ((Event.key .ok : Event J).effects p) with
        ov := dismissKeypad (performAll p ((Event.key .ok : Event J).effects p)).ov } := by
  cases typed : stod p.ov.keypad.text with
  | none => simp [step, keypadInput, Event.effects, typed, performAll]
  | some value =>
    cases use : p.ov.keypad.readyCb with
    | none => simp [step, keypadInput, Event.effects, typed, use, performAll]
    | some use' => simp [step, keypadInput, Event.effects, typed, use]

theorem sliderInput_ran (control : Slider) (value : Int) (p : Panel L) :
    ∃ moved : Panel L, moved.scr = p.scr ∧ moved.ov = p.ov ∧
      sliderInput control value p = performAll moved (fanSliderCb p control value) := by
  cases control with
  | fan i =>
    -- the slider holds its value before the callback runs
    let moved : Panel L := { p with dash := { p.dash with fans := { p.dash.fans with
      slider := Function.update p.dash.fans.slider i value
      held := Function.update p.dash.fans.held i false } } }
    have called : fanSliderCb moved (.fan i) value = fanSliderCb p (.fan i) value := by
      unfold fanSliderCb
      split <;> rfl
    exact ⟨moved, rfl, rfl, congrArg (performAll moved) called⟩
  | tuneSpeed => exact ⟨p, rfl, rfl, rfl⟩
  | loadLength => exact ⟨p, rfl, rfl, rfl⟩

theorem printStartReply_refused (p : Panel L) {j : J} (refused : JsonLib.contains j "error" = true) :
    (printStartReply j p).scr = p.scr := by
  unfold printStartReply
  rw [if_pos refused]
  split <;> rfl

theorem updateFinished_scr (rc : Int) (refused : String) (p : Panel L) :
    (updateFinished rc refused p).scr = p.scr := by
  simp only [updateFinished]
  generalize (if rc = 0 then "" else refused) = named
  split <;> rfl

/-- What an event covers a prompt with, if the prompt stays up. -/
theorem step_covered (standing : Fixtures p) (showing : p.track.promptShowing = true)
    (uncovered : ¬ Covered p) (event : Event J) (stays : showingAfter true event = true) :
    Covered (step p event) ↔ coversPrompt p event = true := by
  have taps : ∀ effects : List Effect, Covered (performAll p effects) ↔
      (p.track.promptShowing && effects.any Effect.covers) = true := by
    intro effects
    rw [performAll_covered standing, showing, Bool.true_and, or_iff_right uncovered]
  have idle : ∀ {q : Panel L}, (Covered q → Covered p) →
      (Covered q ↔ (p.track.promptShowing && ([] : List Effect).any Effect.covers) = true) := by
    intro q back
    rw [List.any_nil, Bool.and_false]
    exact iff_of_false (fun covered => uncovered (back covered)) Bool.false_ne_true
  have handled : ∀ (effects : List Effect) (r q : Panel L), r.scr = p.scr →
      (r.ov.layer.Shown .busy ↔ p.ov.layer.Shown .busy) → q.scr = (performAll r effects).scr →
      (q.ov.layer.Shown .busy ↔ (performAll r effects).ov.layer.Shown .busy) →
      (Covered q ↔ (p.track.promptShowing && effects.any Effect.covers) = true) := by
    intro effects r q before down after kept
    rw [handled_covered standing effects before down after kept, showing, Bool.true_and,
      or_iff_right uncovered]
  cases event with
  | homeTap button => exact taps _
  | subTap button => exact taps _
  | fileRow idx => exact taps _
  | estopTap => exact taps _
  | callogStop => exact taps _
  | slider control value =>
    obtain ⟨moved, scr, ov, ran⟩ := sliderInput_ran control value p
    exact handled _ moved _ scr (by rw [ov]) (congrArg Panel.scr ran)
      (iff_of_eq (congrArg (fun q : Panel L => q.ov.layer.Shown .busy) ran))
  | confirmTap target =>
    have hidden := (hideConfirm_kept p.ov).shown
    cases target with
    | confirm =>
      have called : (Event.confirmTap .confirm : Event J).effects p =
          p.ov.pending.elim [] (runAction p) := by
        cases pending : p.ov.pending with
        | none => simp [Event.effects, pending]
        | some action => simp [Event.effects, pending]
      have covers : Covered (confirmTap .confirm p) ↔
          (p.track.promptShowing && (p.ov.pending.elim [] (runAction p)).any Effect.covers) = true := by
        rw [confirmTap_confirm]
        exact handled _ { p with ov := hideConfirm p.ov } _ rfl hidden rfl Iff.rfl
      rw [← called] at covers
      exact covers
    | _ => exact idle (covered_of_same rfl hidden.mp)
  | key key =>
    cases key with
    | ok =>
      rw [keypadInput_ok]
      exact handled _ p _ rfl Iff.rfl rfl (dismissKeypad_kept _).shown
    | cancel => exact idle (covered_of_same rfl (dismissKeypad_kept p.ov).shown.mp)
    | _ => exact idle (covered_of_same rfl id)
  | delta j => exact idle (consume_uncovers showing j)
  | noticeTap => exact idle (covered_of_same rfl (noticeTap_kept p.ov).shown.mp)
  | keypadScrim => exact idle (covered_of_same rfl (dismissKeypad_kept p.ov).shown.mp)
  | actionDone id =>
    refine idle ?_
    simp only [step]
    split
    · exact covered_of_down rfl (busyHide_down p.ov).hidden
    · exact fun covered => covered
  | printStartReply j =>
    simp only [step, coversPrompt, showing, Bool.true_and]
    by_cases waiting : p.waits.printStarts = 0
    · rw [if_pos waiting]
      exact iff_of_false uncovered (by simp [waiting])
    · rw [if_neg waiting]
      cases refused : JsonLib.contains j "error" with
      | true =>
        refine iff_of_false (fun covered => uncovered ?_) (by simp)
        let answered : Panel L := { p with
          waits := { p.waits with printStarts := p.waits.printStarts - 1 } }
        have scr : (printStartReply j answered).scr = p.scr := printStartReply_refused answered refused
        exact covered_of_same scr (printStartReply_kept answered j).1.shown.mp covered
      | false =>
        refine iff_of_true ?_ (by simp [waiting])
        rw [printStartReply, refused, if_neg Bool.false_ne_true]
        exact backToHome_covered (standing.keep fun _ _ _ => Iff.rfl)
  | filesReply j =>
    have scr := filesReply_view Panel.scr (fun _ _ _ _ => rfl) j p
    have ov := filesReply_view Panel.ov (fun _ _ _ _ => rfl) j p
    exact idle (covered_of_same scr (by rw [ov]; exact id))
  | linkLost => cases stays
  | promptEnd => cases stays
  | promptShow => exact idle fun covered => absurd covered (promptShow_uncovers p)
  | linkReady =>
    have dropped : Fixtures { p with scr := p.scr.drop .boot } :=
      standing.keep fun o _ other => by simp [other]
    exact iff_of_true (showHome_covered dropped) (by simp [coversPrompt, showing])
  | wifiBack =>
    refine idle fun covered => ?_
    rcases covered with busy | ⟨o, above, shown⟩
    · exact Or.inl busy
    · have lowered : (step p (.wifiBack : Event J)).scr = p.scr.background .wifi := rfl
      rw [lowered] at above shown
      rw [Stack.above_background (by decide)] at above
      rw [Stack.shown_background] at shown
      exact Or.inr ⟨o, above.1, shown⟩
  | staleTick between =>
    exact idle (covered_of_same (checkStale_scr between p) (checkStale_kept p between).1.shown.mp)
  | estopKeepalive => exact idle (covered_of_same rfl (estopKeepalive_kept p.ov).shown.mp)
  | watchdog id =>
    rcases fireWatchdog_busy p.ov id with same | down
    · exact idle (covered_of_same rfl (by rw [step, same]; exact fun up => up))
    · exact idle (covered_of_down rfl down.hidden)
  | tick t => cases t <;> exact idle fun covered => covered
  | updateChecked avail latest status =>
    refine idle ?_
    simp only [step]
    split <;> exact fun covered => covered
  | updateFinished rc refused =>
    refine idle ?_
    simp only [step]
    split
    · exact fun covered => covered
    · exact covered_of_down (updateFinished_scr rc refused _) (updateFinished_down _ rc refused).1.hidden
  | metadataReply i s j =>
    have scr := metadataReply_view Panel.scr (fun _ _ _ => rfl) i s j p
    have ov := metadataReply_view Panel.ov (fun _ _ _ => rfl) i s j p
    exact idle (covered_of_same scr (by rw [ov]; exact id))
  | loopPass inactive =>
    simp only [step, coversPrompt, showing, Bool.true_and, loopPass]
    cases sleeps : inactive && !p.asleep with
    | true =>
      refine iff_of_true (Or.inr ⟨.saver, ?_, ?_⟩) rfl
      · rw [if_pos rfl, Stack.above_foreground (by decide)]
        exact Or.inr ⟨rfl, standing.prompt.1⟩
      · rw [if_pos rfl, Stack.shown_foreground]
        exact standing.saver
    | false =>
      refine iff_of_false (fun covered => uncovered ?_) Bool.false_ne_true
      rw [if_neg Bool.false_ne_true] at covered
      split at covered
      · rcases covered with busy | ⟨o, above, shown⟩
        · exact Or.inl busy
        · rw [Stack.above_background (by decide)] at above
          rw [Stack.shown_background] at shown
          exact Or.inr ⟨o, above.1, shown⟩
      · exact covered
  | _ => exact idle fun covered => covered

theorem step_reachable (standing : Fixtures p) (reachable : PromptReachable p) (event : Event J) :
    PromptReachable (step p event) ↔ coversPrompt p event = false := by
  rw [promptReachable_iff (step_fixtures standing event), step_showing]
  cases showing : p.track.promptShowing with
  | false =>
    refine iff_of_true (fun shows => ?_) (by simp [coversPrompt, showing])
    cases event with
    | promptShow => exact promptShow_uncovers p
    | _ => cases shows
  | true =>
    have uncovered := (promptReachable_iff standing).mp reachable showing
    cases stays : showingAfter true event with
    | false =>
      refine iff_of_true (fun shows => nomatch shows) ?_
      cases event with
      | promptEnd => simp [coversPrompt, Event.effects]
      | linkLost => simp [coversPrompt, Event.effects]
      | _ => cases stays
    | true =>
      have covers := step_covered standing showing uncovered event stays
      rw [← Bool.not_eq_true, ← covers]
      exact forall_prop_of_true rfl

/-- In a run a prompt that is up can always be answered exactly if no event of it
covers the prompt. -/
theorem prompt_reachable_iff (events : List (Event J)) :
    (∀ before, before <+: events → PromptReachable (after before : Panel L)) ↔
      Along step (fun p event => coversPrompt p event = false) (Panel.initial : Panel L) events := by
  have based : ∀ (p : Panel L) (event : Event J), Fixtures p → Fixtures (step p event) :=
    fun _ event standing => step_fixtures standing event
  have idle : PromptReachable (Panel.initial : Panel L) := fun showing => nomatch showing
  exact invariant_iff_along based
    (fun _ event standing reachable => step_reachable standing reachable event)
    initial_fixtures idle events

end Step

section Witness

/-- A prompt in the middle of a calibration, still up at the calibration's next step. -/
private def asked : List (Event Json) :=
  [.delta calibrationStarted, .promptShow, .delta calibrationNext]

theorem prompt_reachable_iff_answered :
    (after asked : Panel ZStack).track.promptShowing = true ∧
      Answerable (after asked : Panel ZStack) := by
  have uncovered : Along step (fun p event => coversPrompt p event = false)
      (Panel.initial : Panel ZStack) asked := ⟨rfl, rfl, rfl, trivial⟩
  exact ⟨rfl, (prompt_reachable_iff asked).mpr uncovered asked (List.prefix_refl asked) rfl⟩

private def oneFile : Json := .obj [("result", .arr [.obj [("path", .str "cube.gcode")]])]

/-- A file is started, and the print's prompt comes before the reply. -/
private def lateStart : List (Event Json) :=
  [.homeTap .files, .filesReply oneFile, .fileRow 0, .confirmTap .confirm, .promptShow,
    .printStartReply (.obj [("result", .str "ok")])]

/-- The accepted start raises the cockpit over the prompt; so does a homing its
overlay. -/
theorem late_start_covers_prompt :
    (after lateStart : Panel ZStack).track.promptShowing = true ∧
      ¬ Answerable (after lateStart : Panel ZStack) ∧
      ¬ PromptReachable (after [(.promptShow : Event Json), .subTap (.move .homeAll)] : Panel ZStack) := by
  refine ⟨rfl, ?_, ?_⟩
  · rintro ⟨top, -⟩
    revert top
    decide +kernel
  · intro reachable
    have idle := (reachable rfl).2
    revert idle
    decide +kernel

end Witness

end GrumpyScreen
