import GrumpyScreen.CalOverlay

/-! Reaching the stop action: the order of the top layer while the confirm
dialog is open, and when it is not. -/

namespace GrumpyScreen

open Lib Lib.Exec

section Layer

variable {L : Type → Type} [Layer L]

/-- Confirm and Cancel can be tapped: the dialog's scrim is the last full screen
shown and nothing shown over the card overlaps it. -/
structure ConfirmReachable (t : TopLayer L) : Prop where
  scrim : t.Shown .confirmScrim
  card : t.Shown .confirmCard
  stacked : t.Above .confirmScrim .confirmCard
  last : ∀ o, TopObj.fullScreen o = true → t.Above .confirmScrim o → ¬ t.Shown o
  uncovered : ∀ o, (TopObj.rect o).overlaps (TopObj.rect .confirmCard) = true →
    t.Above .confirmCard o → ¬ t.Shown o

/-- The operator reaches the stop action. -/
def StopReachable (t : TopLayer L) : Prop :=
  Layer.TopVisible t.raw .estop ∨ ConfirmReachable t

/-- A full screen other than the dialog's own scrim lies over both the E-STOP
button and the open dialog. -/
def CoversBoth (t : TopLayer L) : Prop :=
  t.Shown .confirmCard ∧ ∃ o, TopObj.fullScreen o = true ∧ o ≠ .confirmScrim ∧ t.Shown o ∧
    t.Above .estop o ∧ t.Above .confirmCard o

/-- What lies over an open dialog: of the overlays shown, only the logbook. -/
structure DialogClear (t : TopLayer L) : Prop where
  scrim : t.Shown .confirmScrim
  stacked : t.Above .confirmScrim .confirmCard
  overScrim : ∀ o, t.Above .confirmScrim o → t.Shown o → o = .confirmCard ∨ o = .callog
  overCard : ∀ o, t.Above .confirmCard o → t.Shown o → o = .callog

/-- The order that keeps the stop action within reach. -/
structure StopOrder (t : TopLayer L) : Prop where
  estop : t.Shown .estop
  clear : t.Shown .confirmCard → DialogClear t

theorem StopOrder.reachable {t : TopLayer L} (order : StopOrder t) (card : t.Shown .confirmCard) :
    ConfirmReachable t := by
  have clear := order.clear card
  refine ⟨clear.scrim, card, clear.stacked, ?_, ?_⟩
  · intro o full above shown
    rcases clear.overScrim o above shown with rfl | rfl
    · exact absurd full (by decide)
    · exact absurd full (by decide)
  · intro o overlaps above shown
    have logbook := clear.overCard o above shown
    subst logbook
    exact absurd overlaps (by decide)

theorem StopOrder.not_covers {t : TopLayer L} (order : StopOrder t) : ¬ CoversBoth t := by
  rintro ⟨card, o, full, -, shown, -, above⟩
  have logbook := (order.clear card).overCard o above shown
  subst logbook
  exact absurd full (by decide)

variable [LawfulLayer L] {t : TopLayer L}

theorem StopOrder.raise (order : StopOrder t) (closed : ¬ t.Shown .confirmCard) {o : TopObj}
    (other : o ≠ .confirmCard) : StopOrder (t.raise o) where
  estop := Stack.shown_raise.mpr (Or.inr order.estop)
  clear card := by
    rcases Stack.shown_raise.mp card with same | still
    · exact absurd same.symm other
    · exact absurd still closed

theorem StopOrder.raise_callog (order : StopOrder t) : StopOrder (t.raise .callog) where
  estop := Stack.shown_raise.mpr (Or.inr order.estop)
  clear card := by
    have open_ : t.Shown .confirmCard := by simpa using card
    have clear := order.clear open_
    refine ⟨Stack.shown_raise.mpr (Or.inr clear.scrim), ?_, ?_, ?_⟩
    · apply (Stack.above_raise (by decide)).mpr
      exact Or.inl ⟨clear.stacked, by decide⟩
    · intro o above shown
      rcases (Stack.above_raise (by decide)).mp above with ⟨was, other⟩ | ⟨same, -⟩
      · have before : t.Shown o := by simpa [other] using shown
        exact clear.overScrim o was before
      · exact Or.inr same
    · intro o above shown
      rcases (Stack.above_raise (by decide)).mp above with ⟨was, other⟩ | ⟨same, -⟩
      · have before : t.Shown o := by simpa [other] using shown
        exact clear.overCard o was before
      · exact same

theorem StopOrder.conceal (order : StopOrder t) {o : TopObj} (estop : o ≠ .estop)
    (scrim : o ≠ .confirmScrim) : StopOrder (t.conceal o) where
  estop := Stack.shown_conceal.mpr ⟨estop.symm, order.estop⟩
  clear card := by
    obtain ⟨-, open_⟩ := Stack.shown_conceal.mp card
    have clear := order.clear open_
    refine ⟨Stack.shown_conceal.mpr ⟨scrim.symm, clear.scrim⟩, ?_, ?_, ?_⟩
    · exact Stack.above_conceal.mpr clear.stacked
    · intro upper above shown
      exact clear.overScrim upper (Stack.above_conceal.mp above) (Stack.shown_conceal.mp shown).2
    · intro upper above shown
      exact clear.overCard upper (Stack.above_conceal.mp above) (Stack.shown_conceal.mp shown).2

theorem StopOrder.drop (order : StopOrder t) {o : TopObj} {eager : Staged.eager o = true}
    (estop : o ≠ .estop) (scrim : o ≠ .confirmScrim ∨ ¬ t.Shown .confirmCard) :
    StopOrder (t.drop o eager) where
  estop := Stack.shown_drop.mpr ⟨estop.symm, order.estop⟩
  clear card := by
    obtain ⟨other, open_⟩ := Stack.shown_drop.mp card
    have clear := order.clear open_
    have kept : o ≠ .confirmScrim := scrim.resolve_right fun closed => closed open_
    refine ⟨Stack.shown_drop.mpr ⟨kept.symm, clear.scrim⟩, ?_, ?_, ?_⟩
    · exact (Stack.above_drop kept.symm).mpr ⟨clear.stacked, other⟩
    · intro upper above shown
      have was := ((Stack.above_drop kept.symm).mp above).1
      exact clear.overScrim upper was (Stack.shown_drop.mp shown).2
    · intro upper above shown
      have was := ((Stack.above_drop other).mp above).1
      exact clear.overCard upper was (Stack.shown_drop.mp shown).2

theorem StopOrder.openDialog (order : StopOrder t) :
    StopOrder ((t.raise .confirmScrim).raise .confirmCard) where
  estop := by simpa using order.estop
  clear _ := by
    have scrim : (t.raise .confirmScrim).Shown .confirmScrim := by simp
    refine ⟨by simp, ?_, ?_, ?_⟩
    · apply (Stack.above_raise (by decide)).mpr
      exact Or.inr ⟨rfl, scrim.1⟩
    · intro o above _
      rcases (Stack.above_raise (by decide)).mp above with ⟨was, -⟩ | ⟨same, -⟩
      · exact absurd was Stack.not_above_raise_self
      · exact Or.inl same
    · intro o above _
      exact absurd above Stack.not_above_raise_self

theorem StopOrder.closeDialog (order : StopOrder t) :
    StopOrder ((t.drop .confirmCard).drop .confirmScrim) ∧
      ¬ ((t.drop .confirmCard).drop .confirmScrim).Shown .confirmCard := by
  have closed : ¬ (t.drop .confirmCard).Shown .confirmCard := by simp
  have carded : StopOrder (t.drop .confirmCard) := order.drop (by decide) (Or.inl (by decide))
  exact ⟨carded.drop (by decide) (Or.inr closed), by simp⟩

theorem estopKeepalive_reachable (o : Overlays L) (order : StopOrder o.layer) :
    StopReachable (estopKeepalive o).layer := by
  unfold estopKeepalive
  by_cases card : o.layer.Shown .confirmCard
  · rw [if_pos card]
    exact Or.inr (order.reachable card)
  · rw [if_neg card]
    left
    by_cases last : (Layer.children o.layer.raw).getLast? = some .estop
    · rw [if_pos last]
      refine ⟨order.estop.1, order.estop.2, ?_⟩
      intro other _ above
      exact absurd above (Stack.not_above_last last)
    · rw [if_neg last]
      have shown : (o.layer.foreground .estop).Shown .estop := by simpa using order.estop
      refine ⟨shown.1, shown.2, ?_⟩
      intro other _ above
      have bare : ¬ (o.layer.foreground .estop).Above .estop other :=
        Stack.not_above_foreground_self
      exact absurd above bare

theorem estopKeepalive_order (o : Overlays L) (order : StopOrder o.layer) :
    StopOrder (estopKeepalive o).layer := by
  unfold estopKeepalive
  by_cases card : o.layer.Shown .confirmCard
  · rw [if_pos card]
    exact order
  · rw [if_neg card]
    split
    · exact order
    · refine ⟨by simpa using order.estop, ?_⟩
      intro open_
      have raised : (o.layer.foreground .estop).Shown .confirmCard := open_
      exact absurd (Stack.shown_foreground.mp raised) card

end Layer

section Handlers

variable {L : Type → Type} [Layer L]

/-- A handler that raises a full screen opens no dialog. -/
def Tidy (effects : List Effect) : Prop :=
  (∀ effect ∈ effects, effect.raises = false) ∨ ∀ effect ∈ effects, effect.opens = none

theorem tidy_of_low {effects : List Effect} (low : effects.any Effect.raises = false) :
    Tidy effects :=
  Or.inl fun effect member => Bool.not_eq_true _ ▸ List.any_eq_false.mp low effect member

theorem tidy_of_closed {effects : List Effect} (closed : effects.filterMap Effect.opens = []) :
    Tidy effects := by
  refine Or.inr fun effect member => ?_
  cases opened : effect.opens with
  | none => rfl
  | some action =>
    have opens : action ∈ effects.filterMap Effect.opens :=
      List.mem_filterMap.mpr ⟨effect, member, opened⟩
    rw [closed] at opens
    cases opens

theorem tidy_nil : Tidy [] := tidy_of_low rfl

private theorem tidy_ite {condition : Prop} [Decidable condition] {yes no : List Effect}
    (taken : Tidy yes) (skipped : Tidy no) : Tidy (if condition then yes else no) := by
  split
  · exact taken
  · exact skipped

theorem subTap_tidy (p : Panel L) (button : SubButton) : Tidy (subTap p button) := by
  cases button with
  | move button =>
    apply tidy_ite tidy_nil
    cases button <;> exact tidy_of_closed rfl
  | extrude => exact tidy_ite (tidy_of_low rfl) (tidy_of_closed rfl)
  | retract => exact tidy_ite (tidy_of_low rfl) (tidy_of_closed rfl)
  | standard => exact tidy_ite (tidy_of_low rfl) (tidy_of_closed rfl)
  | omega => exact tidy_ite (tidy_of_low rfl) (tidy_of_closed rfl)
  | cal i =>
    apply tidy_ite (tidy_of_low rfl)
    apply tidy_ite (tidy_of_low rfl)
    exact tidy_ite (tidy_of_low rfl) (tidy_of_low rfl)
  | system wire =>
    simp only [subTap, populateSystem]
    split <;> exact tidy_of_closed rfl
  | integrity => exact tidy_ite (tidy_of_closed rfl) tidy_nil
  | install =>
    apply tidy_ite tidy_nil
    exact tidy_ite tidy_nil (tidy_of_low rfl)
  | _ => first | exact tidy_of_closed rfl | exact tidy_of_low rfl

theorem homeTap_tidy (p : Panel L) (button : HomeButton) : Tidy (homeTap p button) := by
  cases button with
  | pauseStop =>
    apply tidy_ite (tidy_of_closed rfl)
    exact tidy_ite (tidy_of_closed rfl) (tidy_of_low rfl)
  | cancel => exact tidy_ite (tidy_of_low rfl) tidy_nil
  | _ => exact tidy_of_low rfl

theorem effects_tidy {J : Type} (p : Panel L) (event : Event J) : Tidy (event.effects p) := by
  apply effects_of_handlers Tidy tidy_nil
  case home => exact homeTap_tidy p
  case sub => exact fun button _ => subTap_tidy p button
  case file =>
    intro idx
    unfold fileRowCb
    split <;> exact tidy_of_low rfl
  case slid =>
    intro slider value
    unfold fanSliderCb
    split <;> exact tidy_of_low rfl
  case estop => exact tidy_of_low rfl
  case stop => exact tidy_of_closed rfl
  case ran => exact fun action => Or.inr (runAction_opens p action)
  case keyed =>
    intro value use
    cases use <;> exact tidy_of_low rfl

variable [LawfulLayer L]

theorem perform_order (p : Panel L) (effect : Effect) (order : StopOrder p.ov.layer)
    (quiet : p.ov.layer.Shown .confirmCard → effect.raises = false) :
    StopOrder (perform p effect).ov.layer := by
  rw [perform_layer]
  cases effect with
  | confirm msg action => exact order.openDialog
  | act text script =>
    have closed : ¬ p.ov.layer.Shown .confirmCard := fun card => Bool.noConfusion (quiet card)
    exact order.raise closed (by decide)
  | busy text =>
    have closed : ¬ p.ov.layer.Shown .confirmCard := fun card => Bool.noConfusion (quiet card)
    exact order.raise closed (by decide)
  | notice msg =>
    have closed : ¬ p.ov.layer.Shown .confirmCard := fun card => Bool.noConfusion (quiet card)
    exact (order.raise closed (by decide)).raise (by simpa using closed) (by decide)
  | keypad use =>
    have closed : ¬ p.ov.layer.Shown .confirmCard := fun card => Bool.noConfusion (quiet card)
    exact (order.raise closed (by decide)).raise (by simpa using closed) (by decide)
  | _ => exact order

theorem perform_closed (p : Panel L) (effect : Effect) (opens : effect.opens = none)
    (closed : ¬ p.ov.layer.Shown .confirmCard) :
    ¬ (perform p effect).ov.layer.Shown .confirmCard := by
  rw [perform_layer]
  cases effect with
  | confirm msg action => simp [Effect.opens] at opens
  | _ => simpa using closed

theorem performAll_order (p : Panel L) (effects : List Effect) (tidy : Tidy effects)
    (order : StopOrder p.ov.layer)
    (quiet : p.ov.layer.Shown .confirmCard → ∀ effect ∈ effects, effect.raises = false) :
    StopOrder (performAll p effects).ov.layer := by
  by_cases calm : ∀ effect ∈ effects, effect.raises = false
  · refine performAll_invariant p (fun p => StopOrder p.ov.layer) ?_ order
    intro q holds effect member
    exact perform_order q effect holds fun _ => calm effect member
  · -- a full screen comes up: no dialog was open and none is opened
    have opens := tidy.resolve_left calm
    have closed : ¬ p.ov.layer.Shown .confirmCard := fun card => calm (quiet card)
    have both : StopOrder (performAll p effects).ov.layer ∧
        ¬ (performAll p effects).ov.layer.Shown .confirmCard := by
      refine performAll_invariant p
        (fun p => StopOrder p.ov.layer ∧ ¬ p.ov.layer.Shown .confirmCard) ?_ ⟨order, closed⟩
      rintro q ⟨holds, shut⟩ effect member
      exact ⟨perform_order q effect holds fun card => absurd card shut,
        perform_closed q effect (opens effect member) shut⟩
    exact both.1

end Handlers

section Step

variable {L : Type → Type} [Layer L] [LawfulLayer L] {J : Type} [JsonLib J]

/-- `consume` returns on the delta, in a state that calls for a calibration
overlay with a text the panel does not show yet. -/
def calibrationAnnounced (p : Panel L) (j : J) : Bool :=
  let next := p.dash.core.next j
  (exec (consume j) p).1.toBool && (next.calibrating && !p.track.promptShowing) &&
    (!p.track.calOverlay || next.calMsg ≠ p.track.calOverlayText)

/-- The event raises a full screen over whatever is shown: a calibration step, the
refusal of an update run, or a tap that opens the keypad, a notice or the busy
overlay. The answer to the dialog is not one: it takes the dialog down first. -/
def coversDialog (p : Panel L) : Event J → Bool
  | .delta j => calibrationAnnounced p j
  | .updateFinished rc refused => p.waits.updateRuns ≠ 0 && rc ≠ 0 && refused ≠ ""
  | .confirmTap _ => false
  | event => (event.effects p).any Effect.raises

theorem calOverlayStage_order (p : Panel L) (order : StopOrder p.ov.layer)
    (quiet : p.ov.layer.Shown .confirmCard →
      (calActive p.dash.printing p &&
        (!p.track.calOverlay || p.dash.calMsg ≠ p.track.calOverlayText)) = false) :
    StopOrder (calOverlayStage p.dash.printing p).ov.layer := by
  unfold calOverlayStage
  by_cases active : calActive p.dash.printing p = true
  · rw [if_pos active]
    by_cases fresh : (!p.track.calOverlay || p.dash.calMsg ≠ p.track.calOverlayText) = true
    · have closed : ¬ p.ov.layer.Shown .confirmCard := by
        intro card
        have still := quiet card
        rw [active, fresh] at still
        exact Bool.noConfusion still
      rw [if_pos fresh]
      exact order.raise closed (by decide)
    · rw [if_neg fresh]
      exact order
  · rw [if_neg active]
    split
    · exact order.conceal (by decide) (by decide)
    · exact order

theorem logbookStage_order (printing : Bool) (p : Panel L) (order : StopOrder p.ov.layer) :
    StopOrder (logbookStage printing p).ov.layer := by
  unfold logbookStage
  split
  · split
    · exact order.raise_callog
    · exact order
  · split
    · exact order.conceal (by decide) (by decide)
    · exact order

theorem consume_order (p : Panel L) (j : J) (order : StopOrder p.ov.layer)
    (quiet : p.ov.layer.Shown .confirmCard → calibrationAnnounced p j = false) :
    StopOrder (final (consume j) p).ov.layer := by
  unfold final
  rcases consume_cases p j with ⟨d, printing, -, core, ran⟩ | ⟨d, thrown, -, ran⟩
  · rw [ran]
    apply logbookStage_order
    apply calOverlayStage_order
    · exact order
    · intro card
      have still := quiet card
      simp only [calibrationAnnounced, ran, ← core] at still
      exact still
  · rw [ran]
    exact order

theorem checkContact_order (p : Panel L) (order : StopOrder p.ov.layer) :
    StopOrder (checkContact p).ov.layer := by
  unfold checkContact
  split
  · simp only
    split
    · exact order.raise_callog
    · split
      · exact order.raise_callog
      · exact order
  · exact order

theorem checkStale_order (between : List Tick) (p : Panel L) (order : StopOrder p.ov.layer) :
    StopOrder (checkStale between p).ov.layer := by
  apply checkContact_order
  rw [ticks_view (fun q : Panel L => q.ov.layer) tick_layer, (checkReadout_ov p).1]
  exact order

theorem updateFinished_order (rc : Int) (refused : String) (p : Panel L)
    (order : StopOrder p.ov.layer)
    (quiet : p.ov.layer.Shown .confirmCard → (decide (rc ≠ 0) && refused ≠ "") = false) :
    StopOrder (updateFinished rc refused p).ov.layer := by
  have hidden : StopOrder (p.ov.layer.conceal .busy) := order.conceal (by decide) (by decide)
  simp only [updateFinished]
  by_cases named : (if rc = 0 then "" else refused) = ""
  · rw [if_pos named]
    exact hidden
  · rw [if_neg named]
    have closed : ¬ (p.ov.layer.conceal .busy).Shown .confirmCard := by
      intro card
      have still := quiet (Stack.shown_conceal.mp card).2
      by_cases ended : rc = 0
      · simp [ended] at named
      · simp [ended] at named still
        exact named still
    exact (hidden.raise closed (by decide)).raise (by simpa using closed) (by decide)

theorem confirmTap_order (target : ConfirmTarget) (p : Panel L) (order : StopOrder p.ov.layer) :
    StopOrder (confirmTap target p).ov.layer := by
  obtain ⟨effects, ran, same⟩ := confirmTap_eq target p
  obtain ⟨hidden, closed⟩ := order.closeDialog
  rw [same]
  refine performAll_order { p with ov := hideConfirm p.ov } effects ?_ hidden
    fun card => absurd card closed
  rcases ran with rfl | ⟨-, action, -, rfl⟩
  · exact tidy_nil
  · exact Or.inr (runAction_opens p action)

theorem noticeTap_order (o : Overlays L) (order : StopOrder o.layer) :
    StopOrder (noticeTap o).layer := by
  have card : StopOrder (o.layer.drop .noticeCard) := order.drop (by decide) (Or.inl (by decide))
  have scrim : StopOrder ((o.layer.drop .noticeCard).drop .noticeScrim) :=
    card.drop (by decide) (Or.inl (by decide))
  exact scrim

theorem dismissKeypad_order (o : Overlays L) (order : StopOrder o.layer) :
    StopOrder (dismissKeypad o).layer := by
  have card : StopOrder (o.layer.drop .numCard) := order.drop (by decide) (Or.inl (by decide))
  have scrim : StopOrder ((o.layer.drop .numCard).drop .numScrim) :=
    card.drop (by decide) (Or.inl (by decide))
  exact scrim

theorem sliderInput_order (slider : Slider) (value : Int) (p : Panel L)
    (order : StopOrder p.ov.layer) : StopOrder (sliderInput slider value p).ov.layer := by
  have calm : ∀ q : Panel L, ∀ effect ∈ fanSliderCb q slider value, effect.raises = false := by
    intro q
    unfold fanSliderCb
    split <;> simp [Effect.raises]
  unfold sliderInput
  apply performAll_order
  · exact Or.inl (calm _)
  · cases slider <;> exact order
  · exact fun _ => calm _

theorem keypadInput_order (key : Key) (p : Panel L) (order : StopOrder p.ov.layer) :
    StopOrder (keypadInput p key).ov.layer := by
  cases key with
  | char c => exact order
  | backspace => exact order
  | cancel => exact dismissKeypad_order p.ov order
  | ok =>
    apply dismissKeypad_order
    split
    · next value use _ _ =>
      have calm : ∀ effect ∈ runKeypad p value use, effect.raises = false := by
        cases use <;> simp [runKeypad, Effect.raises]
      exact performAll_order p _ (Or.inl calm) order fun _ => calm
    · exact order

theorem printStartReply_order (p : Panel L) (j : J) (order : StopOrder p.ov.layer) :
    StopOrder (printStartReply j p).ov.layer := by
  unfold printStartReply
  split
  · split
    · exact order.openDialog
    · exact order
  · exact order

/-- Every event keeps the order of the top layer, unless it raises a full screen
while the dialog is open. -/
theorem step_order (p : Panel L) (event : Event J) (order : StopOrder p.ov.layer)
    (quiet : p.ov.layer.Shown .confirmCard → coversDialog p event = false) :
    StopOrder (step p event).ov.layer := by
  have handled : ∀ effects, Tidy effects →
      (p.ov.layer.Shown .confirmCard → effects.any Effect.raises = false) →
      StopOrder (performAll p effects).ov.layer := by
    intro effects tidy calm
    apply performAll_order p effects tidy order
    intro card effect member
    exact Bool.not_eq_true _ ▸ List.any_eq_false.mp (calm card) effect member
  cases event with
  | homeTap button => exact handled _ (homeTap_tidy p button) quiet
  | subTap button => exact handled _ (subTap_tidy p button) quiet
  | fileRow idx => exact handled _ (effects_tidy p (.fileRow idx : Event J)) quiet
  | estopTap => exact handled _ (effects_tidy p (.estopTap : Event J)) quiet
  | callogStop => exact handled _ (effects_tidy p (.callogStop : Event J)) quiet
  | slider control value => exact sliderInput_order control value p order
  | confirmTap target => exact confirmTap_order target p order
  | key key => exact keypadInput_order key p order
  | noticeTap => exact noticeTap_order p.ov order
  | keypadScrim => exact dismissKeypad_order p.ov order
  | delta j => exact consume_order p j order quiet
  | actionDone id =>
    simp only [step]
    split
    · exact order.conceal (by decide) (by decide)
    · exact order
  | printStartReply j =>
    simp only [step]
    split
    · exact order
    · exact printStartReply_order _ j order
  | filesReply j =>
    have ov : (step p (.filesReply j)).ov = p.ov :=
      filesReply_view Panel.ov (fun _ _ _ _ => rfl) j p
    exact ov ▸ order
  | promptShow => exact order.conceal (by decide) (by decide)
  | linkLost =>
    exact (order.conceal (by decide) (by decide)).conceal (by decide) (by decide)
  | staleTick between => exact checkStale_order between p order
  | estopKeepalive => exact estopKeepalive_order p.ov order
  | watchdog id =>
    rcases fireWatchdog_layer p.ov id with same | same
    · exact same ▸ order
    · exact same ▸ order.conceal (by decide) (by decide)
  | tick t => exact tick_layer p t ▸ order
  | updateChecked avail latest status =>
    simp only [step]
    split
    · exact order
    · exact order
  | updateFinished rc refused =>
    simp only [step]
    split
    · exact order
    · next waiting =>
      apply updateFinished_order
      · exact order
      · intro card
        have still := quiet card
        simpa [coversDialog, waiting] using still
  | metadataReply i s j =>
    have ov : (step p (.metadataReply i s j)).ov = p.ov :=
      metadataReply_view Panel.ov (fun _ _ _ => rfl) i s j p
    exact ov ▸ order
  | loopPass inactive =>
    have ov : (step p (.loopPass inactive : Event J)).ov = p.ov :=
      loopPass_view Panel.ov (fun _ _ _ => rfl) inactive p
    exact ov ▸ order
  | _ => exact order

theorem initial_order : StopOrder (Panel.initial : Panel L).ov.layer where
  estop := (TopLayer.shown_initial .estop).mpr rfl
  clear card := absurd ((TopLayer.shown_initial .confirmCard).mp card) (by decide)

/-- In every run in which nothing raises a full screen while the dialog is open:
none ever lies over both the E-STOP button and an open dialog, and every tick of
the keepalive timer leaves the stop action within reach. -/
theorem stop_within_reach (events : List (Event J))
    (calm : Along step
      (fun p event => p.ov.layer.Shown .confirmCard → coversDialog p event = false)
      (Panel.initial : Panel L) events) :
    ¬ CoversBoth (after events : Panel L).ov.layer ∧
      StopReachable (step (after events : Panel L) (.estopKeepalive : Event J)).ov.layer := by
  have order : StopOrder (after events : Panel L).ov.layer :=
    calm.invariant (fun p event holds quiet => step_order p event holds quiet) initial_order
  exact ⟨order.not_covers, estopKeepalive_reachable _ order⟩

end Step

/-- The calibration starts, then E-STOP is tapped. -/
theorem stop_within_reach_calibrating :
    let events : List (Event Json) := [.delta calibrationStarted, .estopTap, .estopKeepalive]
    ¬ CoversBoth (after events : Panel ZStack).ov.layer ∧
      StopReachable (step (after events : Panel ZStack) (.estopKeepalive : Event Json)).ov.layer :=
  stop_within_reach _
    ⟨fun card => absurd card (by decide), fun _ => rfl, fun _ => rfl, trivial⟩

/-- E-STOP is tapped, then the calibration starts: its overlay lies over the
button and the dialog, and the keepalive leaves it there. -/
theorem calibration_covers_dialog :
    let p : Panel ZStack := after [.estopTap, .delta calibrationStarted]
    CoversBoth p.ov.layer ∧
      ¬ StopReachable (step p (.estopKeepalive : Event Json)).ov.layer := by
  intro p
  refine ⟨⟨by decide +kernel, .busy, by decide, by decide, by decide +kernel, by decide +kernel,
    by decide +kernel⟩, ?_⟩
  rintro (top | dialog)
  · have below : ¬ Layer.TopVisible (step p (.estopKeepalive : Event Json)).ov.layer.raw .estop := by
      decide +kernel
    exact below top
  · exact dialog.last .busy (by decide) (by decide +kernel) (by decide +kernel)

end GrumpyScreen
