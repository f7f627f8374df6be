import GrumpyScreen.Frame

/-! The calibration overlay: one shared widget, the flag and text `consume` keeps
about it, and what makes them agree. -/

namespace GrumpyScreen

open Lib Lib.Exec

/-- The call puts up the busy overlay. -/
def Effect.showsBusy : Effect → Bool
  | .act _ _ | .busy _ => true
  | _ => false

section Widget

variable {L : Type → Type} [Layer L]

/-- The busy overlay as it was: its text, its visibility, and no `busy_show`
since, which the serial number of its watchdog counts. -/
structure BusyKept (before after : Overlays L) : Prop where
  text : after.busy.text = before.busy.text
  serial : after.busy.fresh = before.busy.fresh
  shown : after.layer.Shown .busy ↔ before.layer.Shown .busy

/-- The busy overlay is down and no `busy_show` came in between. -/
structure BusyDown (before after : Overlays L) : Prop where
  serial : after.busy.fresh = before.busy.fresh
  hidden : ¬ after.layer.Shown .busy

theorem BusyKept.refl (o : Overlays L) : BusyKept o o := ⟨rfl, rfl, Iff.rfl⟩

theorem BusyKept.trans {first second third : Overlays L} (earlier : BusyKept first second)
    (later : BusyKept second third) : BusyKept first third :=
  ⟨later.text.trans earlier.text, later.serial.trans earlier.serial,
    later.shown.trans earlier.shown⟩

variable [LawfulLayer L] (o : Overlays L)

theorem busyHide_down : BusyDown o (busyHide o) := ⟨by simp [busyHide], by simp⟩

theorem calLogShow_kept (view : CalLogView) : BusyKept o (calLogShow view o) :=
  ⟨rfl, rfl, by simp⟩

theorem calLogHide_kept : BusyKept o (calLogHide o) := ⟨rfl, rfl, by simp⟩

theorem hideConfirm_kept : BusyKept o (hideConfirm o) := ⟨rfl, rfl, by simp [hideConfirm]⟩

theorem confirm_kept (msg : String) (action : Action) : BusyKept o (confirm msg action o) :=
  ⟨rfl, rfl, by simp [confirm]⟩

theorem notice_kept (msg : String) : BusyKept o (notice msg o) := ⟨rfl, rfl, by simp [notice]⟩

theorem noticeTap_kept : BusyKept o (noticeTap o) := ⟨rfl, rfl, by simp [noticeTap]⟩

theorem openKeypad_kept (use : KeypadUse) : BusyKept o (openKeypad use o) :=
  ⟨rfl, rfl, by simp [openKeypad]⟩

theorem dismissKeypad_kept : BusyKept o (dismissKeypad o) := ⟨rfl, rfl, by simp [dismissKeypad]⟩

theorem estopKeepalive_kept : BusyKept o (estopKeepalive o) := by
  unfold estopKeepalive
  split
  · exact BusyKept.refl o
  · split
    · exact BusyKept.refl o
    · exact ⟨rfl, rfl, by simp⟩

theorem busyShow_serial (text : String) : (busyShow text o).busy.fresh = o.busy.fresh + 1 := by
  simp [busyShow, Busy.arm]

theorem perform_kept (p : Panel L) (effect : Effect) (silent : effect.showsBusy = false) :
    BusyKept p.ov (perform p effect).ov := by
  cases effect with
  | act text script => simp [Effect.showsBusy] at silent
  | busy text => simp [Effect.showsBusy] at silent
  | confirm msg action => exact confirm_kept p.ov msg action
  | notice msg => exact notice_kept p.ov msg
  | keypad use => exact openKeypad_kept p.ov use
  | checkUpdate =>
    obtain ⟨_, _, _, -, left⟩ := perform_checkUpdate p
    rw [left]
    exact BusyKept.refl p.ov
  | _ => exact BusyKept.refl p.ov

theorem perform_serial (p : Panel L) (effect : Effect) :
    (perform p effect).ov.busy.fresh =
      p.ov.busy.fresh + if effect.showsBusy then 1 else 0 := by
  cases shows : effect.showsBusy with
  | false => exact (perform_kept p effect shows).serial
  | true =>
    cases effect with
    | act text script => exact busyShow_serial p.ov text
    | busy text => exact busyShow_serial p.ov text
    | _ => simp [Effect.showsBusy] at shows

theorem performAll_kept (p : Panel L) (effects : List Effect)
    (silent : effects.any Effect.showsBusy = false) : BusyKept p.ov (performAll p effects).ov := by
  refine performAll_invariant p (fun q => BusyKept p.ov q.ov) ?_ (BusyKept.refl p.ov)
  intro q kept effect member
  have quiet : effect.showsBusy = false :=
    Bool.not_eq_true _ ▸ List.any_eq_false.mp silent effect member
  exact kept.trans (perform_kept q effect quiet)

theorem performAll_serial (p : Panel L) (effects : List Effect) :
    (performAll p effects).ov.busy.fresh =
      p.ov.busy.fresh + effects.countP Effect.showsBusy := by
  induction effects generalizing p with
  | nil => rfl
  | cons effect rest ih =>
    have later : (performAll (perform p effect) rest).ov.busy.fresh = _ := ih (perform p effect)
    rw [perform_serial] at later
    show (performAll (perform p effect) rest).ov.busy.fresh = _
    rw [later, List.countP_cons]
    omega

theorem performAll_serial_ne (p : Panel L) (effects : List Effect)
    (shows : effects.any Effect.showsBusy = true) :
    (performAll p effects).ov.busy.fresh ≠ p.ov.busy.fresh := by
  obtain ⟨effect, member, shown⟩ := List.any_eq_true.mp shows
  have counted : 0 < effects.countP Effect.showsBusy := List.countP_pos_iff.mpr ⟨effect, member, shown⟩
  rw [performAll_serial]
  omega

theorem fireWatchdog_busy (id : Nat) :
    fireWatchdog id o = o ∨ BusyDown o (fireWatchdog id o) := by
  unfold fireWatchdog
  split
  · right
    exact ⟨by simp [busyWatchdogCb, busyHide], by simp [busyWatchdogCb]⟩
  · exact Or.inl rfl

end Widget

section Tracking

variable {L : Type → Type} [Layer L] {J : Type}

/-- The panel counts on the calibration overlay being up. -/
def overlayUp (p : Panel L) : Bool := p.track.calOverlay && !p.track.promptShowing

/-- The flag and the text agree with the widget, and an overlay that a delta put
up is one the panel still tracks. -/
structure Tracked (owned : Bool) (p : Panel L) : Prop where
  up : overlayUp p = true →
    p.ov.layer.Shown .busy ∧ p.ov.busy.text = cStr p.track.calOverlayText
  owner : owned = true → p.ov.layer.Shown .busy → p.track.calOverlay = true

theorem Tracked.keep {owned : Bool} {p q : Panel L} (tracked : Tracked owned p)
    (kept : BusyKept p.ov q.ov) (flag : q.track.calOverlay = p.track.calOverlay)
    (text : q.track.calOverlayText = p.track.calOverlayText)
    (prompt : q.track.promptShowing = p.track.promptShowing) : Tracked owned q where
  up standing := by
    have before : overlayUp p = true := by rw [← standing, overlayUp, overlayUp, flag, prompt]
    obtain ⟨shown, same⟩ := tracked.up before
    exact ⟨kept.shown.mpr shown, by rw [kept.text, same, text]⟩
  owner put shown := flag ▸ tracked.owner put (kept.shown.mp shown)

theorem Tracked.down {owned : Bool} {p q : Panel L} (down : BusyDown p.ov q.ov)
    (untracked : overlayUp q = false) : Tracked owned q where
  up standing := absurd standing (by simp [untracked])
  owner _ shown := absurd shown down.hidden

theorem Tracked.action {q : Panel L} (untracked : overlayUp q = false) : Tracked false q where
  up standing := absurd standing (by simp [untracked])
  owner put := Bool.noConfusion put

theorem tracked_kept {owned : Bool} {p q : Panel L} (tracked : Tracked owned p)
    (kept : BusyKept p.ov q.ov) (track : q.track = p.track) :
    Tracked (if q.ov.busy.fresh = p.ov.busy.fresh then owned else false) q := by
  rw [if_pos kept.serial]
  exact tracked.keep kept (by rw [track]) (by rw [track]) (by rw [track])

theorem tracked_down {owned : Bool} {p q : Panel L} (down : BusyDown p.ov q.ov)
    (untracked : overlayUp q = false) :
    Tracked (if q.ov.busy.fresh = p.ov.busy.fresh then owned else false) q := by
  rw [if_pos down.serial]
  exact Tracked.down down untracked

variable [LawfulLayer L] [JsonLib J]

/-- Whether the busy overlay that was put up last was put up by a delta. -/
def watchOwner (owned : Bool) (p : Panel L) (event : Event J) : Bool :=
  if (step p event).ov.busy.fresh = p.ov.busy.fresh then owned
  else match event with
    | .delta _ => true
    | _ => false

/-- The event takes the busy overlay down, or over, behind the back of the flag:
a watchdog that is due, the end of an update run, an action's own overlay, a
prompt that ends before any delta has seen it. -/
def disturbsOverlay (p : Panel L) : Event J → Bool
  | .watchdog id =>
    overlayUp p && p.ov.busy.timers.any fun t => t.id = id ∧ t.due ≤ p.ov.clock
  | .updateFinished _ _ => overlayUp p && p.waits.updateRuns ≠ 0
  | .promptEnd => p.track.calOverlay && p.track.promptShowing
  | event => overlayUp p && (event.effects p).any Effect.showsBusy

/-- The event does not disturb the overlay, and a calibration's message carries no
NUL, at which the label would end. -/
def spares (p : Panel L) (event : Event J) : Prop :=
  disturbsOverlay p event = false ∧
    match event with
    | .delta j => (p.dash.core.next j).calibrating = true →
        '\x00' ∉ (p.dash.core.next j).calMsg.toList
    | _ => True

theorem watchOwner_other (owned : Bool) (p : Panel L) (event : Event J)
    (other : ∀ j, event ≠ .delta j) :
    watchOwner owned p event =
      if (step p event).ov.busy.fresh = p.ov.busy.fresh then owned else false := by
  cases event with
  | delta j => exact absurd rfl (other j)
  | _ => rfl

theorem tracked_handled {owned : Bool} {p r q : Panel L} (tracked : Tracked owned p)
    (effects : List Effect) (quiet : (overlayUp p && effects.any Effect.showsBusy) = false)
    (before : BusyKept p.ov r.ov) (after : BusyKept (performAll r effects).ov q.ov)
    (track : q.track = p.track) :
    Tracked (if q.ov.busy.fresh = p.ov.busy.fresh then owned else false) q := by
  cases shows : effects.any Effect.showsBusy with
  | false =>
    have kept : BusyKept p.ov q.ov := (before.trans (performAll_kept r effects shows)).trans after
    rw [if_pos kept.serial]
    exact tracked.keep kept (by rw [track]) (by rw [track]) (by rw [track])
  | true =>
    have counted := performAll_serial_ne r effects shows
    rw [← after.serial, before.serial] at counted
    rw [if_neg counted]
    rw [shows, Bool.and_true] at quiet
    apply Tracked.action
    rw [← quiet, overlayUp, overlayUp, track]

theorem logbookStage_kept (printing : Bool) (p : Panel L) :
    BusyKept p.ov (logbookStage printing p).ov := by
  unfold logbookStage
  split
  · split
    · exact calLogShow_kept p.ov _
    · exact BusyKept.refl p.ov
  · split
    · exact calLogHide_kept p.ov
    · exact BusyKept.refl p.ov

theorem logbookStage_track (printing : Bool) (p : Panel L) :
    (logbookStage printing p).track.calOverlay = p.track.calOverlay ∧
      (logbookStage printing p).track.calOverlayText = p.track.calOverlayText ∧
      (logbookStage printing p).track.promptShowing = p.track.promptShowing := by
  unfold logbookStage
  split
  · split <;> exact ⟨rfl, rfl, rfl⟩
  · split <;> exact ⟨rfl, rfl, rfl⟩

/-- The overlay stage of a delta, whose own `busy_show` makes it the owner. An
active calibration ends with its message tracked, an inactive one untracked. -/
theorem calOverlayStage_tracked {owned : Bool} {p : Panel L} (tracked : Tracked owned p)
    (printing : Bool) :
    let q := calOverlayStage printing p
    Tracked (if q.ov.busy.fresh = p.ov.busy.fresh then owned else true) q ∧
      q.track.promptShowing = p.track.promptShowing ∧
      (calActive printing p = true →
        q.track.calOverlay = true ∧ q.track.calOverlayText = p.dash.calMsg) ∧
      (calActive printing p = false → q.track.calOverlay = false) := by
  intro q
  by_cases active : calActive printing p = true
  · by_cases fresh : (!p.track.calOverlay || p.dash.calMsg ≠ p.track.calOverlayText) = true
    · have shown : q = { p with
          ov := busyShow p.dash.calMsg p.ov
          track := { p.track with calOverlay := true, calOverlayText := p.dash.calMsg } } := by
        show calOverlayStage printing p = _
        rw [calOverlayStage, if_pos active, if_pos fresh]
      rw [shown]
      refine ⟨?_, rfl, fun _ => ⟨rfl, rfl⟩, fun idle => absurd (idle.symm.trans active) (by simp)⟩
      have counted : (busyShow p.dash.calMsg p.ov).busy.fresh ≠ p.ov.busy.fresh := by
        rw [busyShow_serial]
        omega
      rw [if_neg counted]
      exact ⟨fun _ => ⟨by simp, busyShow_text _ _⟩, fun _ _ => rfl⟩
    · have same : q = p := by
        show calOverlayStage printing p = _
        rw [calOverlayStage, if_pos active, if_neg fresh]
      simp only [Bool.or_eq_true, Bool.not_eq_true', decide_eq_true_eq, not_or, Bool.not_eq_false,
        ne_eq, not_not] at fresh
      rw [same, if_pos rfl]
      exact ⟨tracked, rfl, fun _ => ⟨fresh.1, fresh.2.symm⟩,
        fun idle => absurd (idle.symm.trans active) (by simp)⟩
  · have idle : calActive printing p = false := Bool.not_eq_true _ ▸ active
    cases flag : p.track.calOverlay with
    | true =>
      have dropped : q = { p with
          ov := busyHide p.ov
          track := { p.track with calOverlay := false, calOverlayText := "" } } := by
        show calOverlayStage printing p = _
        rw [calOverlayStage, if_neg active, if_pos flag]
      rw [dropped]
      have down := busyHide_down p.ov
      refine ⟨?_, rfl, fun on => absurd on active, fun _ => rfl⟩
      rw [if_pos down.serial]
      exact Tracked.down down (by simp [overlayUp])
    | false =>
      have same : q = p := by
        show calOverlayStage printing p = _
        rw [calOverlayStage, if_neg active, if_neg (by simp [flag])]
      rw [same, if_pos rfl]
      exact ⟨tracked, rfl, fun on => absurd on active, fun _ => flag⟩

theorem consume_tracked {owned : Bool} {p : Panel L} (tracked : Tracked owned p) (j : J) :
    Tracked (watchOwner owned p (.delta j)) (step p (.delta j)) := by
  show Tracked (if (final (consume j) p).ov.busy.fresh = p.ov.busy.fresh then owned else true)
    (final (consume j) p)
  unfold final
  rcases consume_cases p j with ⟨d, printing, -, -, ran⟩ | ⟨d, thrown, -, ran⟩
  · rw [ran]
    have start : Tracked owned { p with dash := d } :=
      tracked.keep (BusyKept.refl p.ov) rfl rfl rfl
    obtain ⟨staged, -⟩ := calOverlayStage_tracked start d.printing
    have kept := logbookStage_kept d.printing (calOverlayStage d.printing { p with dash := d })
    obtain ⟨flag, text, prompt⟩ :=
      logbookStage_track d.printing (calOverlayStage d.printing { p with dash := d })
    have serial : (overlayStages { p with dash := d }).ov.busy.fresh =
        (calOverlayStage d.printing { p with dash := d }).ov.busy.fresh := kept.serial
    rw [serial]
    exact staged.keep kept flag text prompt
  · rw [ran, if_pos rfl]
    exact tracked.keep (BusyKept.refl p.ov) rfl rfl rfl

theorem calOverlayStage_flag (printing : Bool) (p : Panel L) :
    (calOverlayStage printing p).track.calOverlay = calActive printing p := by
  unfold calOverlayStage
  cases active : calActive printing p with
  | true =>
    rw [if_pos rfl]
    split
    · rfl
    · next standing =>
      cases flag : p.track.calOverlay with
      | true => rfl
      | false => exact absurd (by simp [flag]) standing
  | false =>
    rw [if_neg Bool.false_ne_true]
    split
    · rfl
    · next idle => exact Bool.not_eq_true _ ▸ idle

theorem consume_flag {p : Panel L} {j : J} (returned : (exec (consume j) p).1 = .ok ⟨⟩) :
    let q := step p (.delta j)
    q.track.calOverlay = calActive q.dash.printing q := by
  intro q
  rcases consume_cases p j with ⟨d, printing, -, -, ran⟩ | ⟨d, thrown, -, ran⟩
  · have reached : q = overlayStages { p with dash := d } := congrArg Prod.snd ran
    have dash : q.dash = d := by rw [reached]; simp [overlayStages]
    obtain ⟨flag, -, prompt⟩ :=
      logbookStage_track d.printing (calOverlayStage d.printing { p with dash := d })
    have prompted : q.track.promptShowing = p.track.promptShowing := by
      rw [reached]
      refine prompt.trans ?_
      unfold calOverlayStage
      split
      · split <;> rfl
      · split <;> rfl
    have active : calActive q.dash.printing q = calActive d.printing { p with dash := d } := by
      simp only [calActive, dash, prompted]
    rw [active, ← calOverlayStage_flag, reached]
    exact flag
  · rw [ran] at returned
    cases returned

/-- The parts of the tracking that concern the calibration overlay. -/
def overlayTracking (p : Panel L) : Bool × String × Bool :=
  (p.track.calOverlay, p.track.calOverlayText, p.track.promptShowing)

theorem checkContact_kept (p : Panel L) :
    BusyKept p.ov (checkContact p).ov ∧ overlayTracking (checkContact p) = overlayTracking p := by
  have same : BusyKept p.ov p.ov := BusyKept.refl p.ov
  unfold checkContact
  split
  · simp only
    split
    · exact ⟨calLogShow_kept p.ov _, rfl⟩
    · split
      · exact ⟨calLogShow_kept p.ov _, rfl⟩
      · exact ⟨same, rfl⟩
  · exact ⟨same, rfl⟩

theorem checkStale_kept (p : Panel L) (between : List Tick) :
    BusyKept p.ov (checkStale between p).ov ∧
      overlayTracking (checkStale between p) = overlayTracking p := by
  have clock : ∀ (q : Panel L) (t : Tick), ((tick q t).ov.busy, (tick q t).ov.layer, (tick q t).track) =
      (q.ov.busy, q.ov.layer, q.track) := by
    intro q t
    cases t <;> rfl
  have waited := ticks_view (fun q : Panel L => (q.ov.busy, q.ov.layer, q.track)) clock between
    (checkReadout p)
  obtain ⟨ov, track⟩ := checkReadout_ov p
  rw [ov, track] at waited
  obtain ⟨busy, rest⟩ := Prod.mk.inj waited
  obtain ⟨layer, tracking⟩ := Prod.mk.inj rest
  have still : BusyKept p.ov (between.foldl tick (checkReadout p)).ov :=
    ⟨by rw [busy], by rw [busy], by rw [layer]⟩
  obtain ⟨kept, same⟩ := checkContact_kept (between.foldl tick (checkReadout p))
  refine ⟨still.trans kept, same.trans ?_⟩
  rw [overlayTracking, tracking]
  rfl

theorem sliderInput_kept (p : Panel L) (slider : Slider) (value : Int) :
    BusyKept p.ov (sliderInput slider value p).ov ∧
      (sliderInput slider value p).track = p.track := by
  have silent : ∀ q : Panel L, (fanSliderCb q slider value).any Effect.showsBusy = false := by
    intro q
    unfold fanSliderCb
    split <;> rfl
  unfold sliderInput
  constructor
  · have start : ∀ q : Panel L, q.ov = p.ov →
        BusyKept p.ov (performAll q (fanSliderCb q slider value)).ov :=
      fun q same => same ▸ performAll_kept q _ (silent q)
    apply start
    cases slider <;> rfl
  · rw [performAll_track]
    cases slider <;> rfl

theorem keypadInput_kept (p : Panel L) (key : Key) :
    BusyKept p.ov (keypadInput p key).ov ∧ (keypadInput p key).track = p.track := by
  have same : BusyKept p.ov p.ov := BusyKept.refl p.ov
  cases key with
  | char c => exact ⟨⟨rfl, rfl, Iff.rfl⟩, rfl⟩
  | backspace => exact ⟨⟨rfl, rfl, Iff.rfl⟩, rfl⟩
  | cancel => exact ⟨dismissKeypad_kept p.ov, rfl⟩
  | ok =>
    simp only [keypadInput]
    split
    · next value use _ _ =>
      have silent : (runKeypad p value use).any Effect.showsBusy = false := by cases use <;> rfl
      have ran := performAll_kept p (runKeypad p value use) silent
      exact ⟨ran.trans (dismissKeypad_kept _), performAll_track p _⟩
    · exact ⟨dismissKeypad_kept p.ov, rfl⟩

theorem printStartReply_kept (p : Panel L) (j : J) :
    BusyKept p.ov (printStartReply j p).ov ∧ (printStartReply j p).track = p.track := by
  have same : BusyKept p.ov p.ov := BusyKept.refl p.ov
  unfold printStartReply
  split
  · split
    · exact ⟨confirm_kept p.ov _ _, rfl⟩
    · exact ⟨same, rfl⟩
  · exact ⟨same, rfl⟩

theorem updateFinished_down (p : Panel L) (rc : Int) (refused : String) :
    BusyDown p.ov (updateFinished rc refused p).ov ∧
      (updateFinished rc refused p).track = p.track := by
  have down := busyHide_down p.ov
  simp only [updateFinished]
  by_cases named : (if rc = 0 then "" else refused) = ""
  · rw [if_pos named]
    exact ⟨down, rfl⟩
  · rw [if_neg named]
    have noticed := notice_kept (busyHide p.ov) (if rc = 0 then "" else refused)
    exact ⟨⟨noticed.serial.trans down.serial, fun shown => down.hidden (noticed.shown.mp shown)⟩, rfl⟩

theorem step_tracked {owned : Bool} {p : Panel L} (tracked : Tracked owned p) (event : Event J)
    (quiet : disturbsOverlay p event = false) :
    Tracked (watchOwner owned p event) (step p event) := by
  by_cases status : ∃ j, event = .delta j
  · obtain ⟨j, rfl⟩ := status
    exact consume_tracked tracked j
  rw [watchOwner_other owned p event fun j same => status ⟨j, same⟩]
  have same : BusyKept p.ov p.ov := BusyKept.refl p.ov
  have handled : ∀ effects, (overlayUp p && effects.any Effect.showsBusy) = false →
      Tracked (if (performAll p effects).ov.busy.fresh = p.ov.busy.fresh then owned else false)
        (performAll p effects) := by
    intro effects calm
    exact tracked_handled tracked effects calm same (BusyKept.refl _) (performAll_track p effects)
  cases event with
  | delta j => exact absurd ⟨j, rfl⟩ status
  | homeTap button => exact handled _ quiet
  | subTap button => exact handled _ quiet
  | fileRow idx => exact handled _ quiet
  | estopTap => exact handled _ quiet
  | callogStop => exact handled _ quiet
  | slider control value =>
    obtain ⟨kept, track⟩ := sliderInput_kept p control value
    exact tracked_kept tracked kept track
  | confirmTap target =>
    cases target with
    | confirm =>
      have calm : (overlayUp p && (p.ov.pending.elim [] (runAction p)).any Effect.showsBusy) =
          false := by
        cases pending : p.ov.pending with
        | none => simp
        | some action => simpa [disturbsOverlay, Event.effects, pending] using quiet
      have ran : step p (.confirmTap .confirm : Event J) = _ := confirmTap_confirm p
      rw [ran]
      exact tracked_handled tracked _ calm (hideConfirm_kept p.ov) ⟨rfl, rfl, Iff.rfl⟩
        (performAll_track { p with ov := hideConfirm p.ov } _)
    | _ =>
      have hidden := hideConfirm_kept p.ov
      exact tracked_kept tracked ⟨hidden.text, hidden.serial, hidden.shown⟩ rfl
  | key key =>
    obtain ⟨kept, track⟩ := keypadInput_kept p key
    exact tracked_kept tracked kept track
  | noticeTap => exact tracked_kept tracked (noticeTap_kept p.ov) rfl
  | keypadScrim => exact tracked_kept tracked (dismissKeypad_kept p.ov) rfl
  | actionDone id =>
    simp only [step]
    split
    · exact tracked_down (busyHide_down p.ov) rfl
    · exact tracked_kept tracked same rfl
  | printStartReply j =>
    simp only [step]
    split
    · exact tracked_kept tracked same rfl
    · obtain ⟨kept, track⟩ := printStartReply_kept
        { p with waits := { p.waits with printStarts := p.waits.printStarts - 1 } } j
      exact tracked_kept tracked kept track
  | filesReply j =>
    have ov : (step p (.filesReply j)).ov = p.ov :=
      filesReply_view Panel.ov (fun _ _ _ _ => rfl) j p
    have track : (step p (.filesReply j)).track = p.track :=
      filesReply_view Panel.track (fun _ _ _ _ => rfl) j p
    exact tracked_kept tracked (by rw [ov]; exact same) track
  | promptShow => exact tracked_down (busyHide_down p.ov) (by simp [overlayUp, step, promptShow])
  | promptEnd =>
    show Tracked (if p.ov.busy.fresh = p.ov.busy.fresh then owned else false) (promptEnd p)
    rw [if_pos rfl]
    refine ⟨?_, tracked.owner⟩
    intro standing
    have flag : p.track.calOverlay = true := by
      simpa [overlayUp, promptEnd] using standing
    -- a prompt that was up would have taken the overlay with it
    have prompt : p.track.promptShowing = false := by
      simpa [disturbsOverlay, flag] using quiet
    exact tracked.up (by simp [overlayUp, flag, prompt])
  | linkLost =>
    have down := busyHide_down p.ov
    have hidden := calLogHide_kept (busyHide p.ov)
    exact tracked_down ⟨hidden.serial.trans down.serial,
      fun shown => down.hidden (hidden.shown.mp shown)⟩ rfl
  | staleTick between =>
    obtain ⟨kept, tracking⟩ := checkStale_kept p between
    obtain ⟨flag, rest⟩ := Prod.mk.inj tracking
    obtain ⟨text, prompt⟩ := Prod.mk.inj rest
    show Tracked (if (checkStale between p).ov.busy.fresh = _ then owned else false) _
    rw [if_pos kept.serial]
    exact tracked.keep kept flag text prompt
  | estopKeepalive => exact tracked_kept tracked (estopKeepalive_kept p.ov) rfl
  | watchdog id =>
    by_cases due : (p.ov.busy.timers.any fun t => t.id = id ∧ t.due ≤ p.ov.clock) = true
    · simp only [disturbsOverlay, due, Bool.and_true] at quiet
      rcases fireWatchdog_busy p.ov id with unmoved | down
      · have kept : BusyKept p.ov (fireWatchdog id p.ov) := by rw [unmoved]; exact same
        exact tracked_kept tracked kept rfl
      · exact tracked_down down quiet
    · have idle : fireWatchdog id p.ov = p.ov := by rw [fireWatchdog, if_neg due]
      have kept : BusyKept p.ov (fireWatchdog id p.ov) := by rw [idle]; exact same
      exact tracked_kept tracked kept rfl
  | tick t => cases t <;> exact tracked_kept tracked ⟨rfl, rfl, Iff.rfl⟩ rfl
  | updateChecked avail latest status =>
    simp only [step]
    split
    · exact tracked_kept tracked same rfl
    · exact tracked_kept tracked same rfl
  | updateFinished rc refused =>
    simp only [step]
    split
    · exact tracked_kept tracked same rfl
    · next waiting =>
      obtain ⟨down, track⟩ := updateFinished_down
        { p with waits := { p.waits with updateRuns := p.waits.updateRuns - 1 } } rc refused
      have untracked : overlayUp p = false := by simpa [disturbsOverlay, waiting] using quiet
      exact tracked_down down (by rw [← untracked, overlayUp, overlayUp, track])
  | metadataReply i s j =>
    have ov : (step p (.metadataReply i s j)).ov = p.ov :=
      metadataReply_view Panel.ov (fun _ _ _ => rfl) i s j p
    have track : (step p (.metadataReply i s j)).track = p.track :=
      metadataReply_view Panel.track (fun _ _ _ => rfl) i s j p
    exact tracked_kept tracked (by rw [ov]; exact same) track
  | loopPass inactive =>
    have ov : (step p (.loopPass inactive : Event J)).ov = p.ov :=
      loopPass_view Panel.ov (fun _ _ _ => rfl) inactive p
    have track : (step p (.loopPass inactive : Event J)).track = p.track :=
      loopPass_view Panel.track (fun _ _ _ => rfl) inactive p
    exact tracked_kept tracked (by rw [ov]; exact same) track
  | _ => exact tracked_kept tracked same rfl

theorem tracked_initial : Tracked false (Panel.initial : Panel L) :=
  ⟨fun standing => Bool.noConfusion standing, fun put => Bool.noConfusion put⟩

theorem consume_agrees {owned : Bool} {p : Panel L} (tracked : Tracked owned p) (j : J)
    (returned : (exec (consume j) p).1 = .ok ⟨⟩)
    (plain : (p.dash.core.next j).calibrating = true →
      '\x00' ∉ (p.dash.core.next j).calMsg.toList) :
    let q := step p (.delta j)
    (calActive q.dash.printing q = true →
      q.ov.layer.Shown .busy ∧ q.ov.busy.text = q.dash.calMsg) ∧
    (calActive q.dash.printing q = false → watchOwner owned p (.delta j) = true →
      ¬ q.ov.layer.Shown .busy) := by
  intro q
  have after := consume_tracked tracked j
  rcases consume_cases p j with ⟨d, printing, -, core, ran⟩ | ⟨d, thrown, -, ran⟩
  · have reached : q = overlayStages { p with dash := d } := congrArg Prod.snd ran
    have start : Tracked owned { p with dash := d } :=
      tracked.keep (BusyKept.refl p.ov) rfl rfl rfl
    obtain ⟨-, stagePrompt, whenOn, whenOff⟩ := calOverlayStage_tracked start d.printing
    obtain ⟨flag, text, prompt⟩ :=
      logbookStage_track d.printing (calOverlayStage d.printing { p with dash := d })
    have dash : q.dash = d := by rw [reached]; simp [overlayStages]
    have flagged : q.track.calOverlay =
        (calOverlayStage d.printing { p with dash := d }).track.calOverlay := by
      rw [reached]
      exact flag
    have texted : q.track.calOverlayText =
        (calOverlayStage d.printing { p with dash := d }).track.calOverlayText := by
      rw [reached]
      exact text
    have prompted : q.track.promptShowing = p.track.promptShowing := by
      rw [reached]
      exact prompt.trans stagePrompt
    have active : calActive q.dash.printing q = calActive d.printing { p with dash := d } := by
      simp only [calActive, dash, prompted]
    rw [active]
    constructor
    · intro on
      obtain ⟨tracking, message⟩ := whenOn on
      have calibrating : d.core.calibrating = true ∧ p.track.promptShowing = false := by
        simpa [calActive_eq { p with dash := d }] using on
      have standing : overlayUp q = true := by
        rw [overlayUp, flagged, tracking, prompted, calibrating.2]
        rfl
      obtain ⟨shown, label⟩ := after.up standing
      refine ⟨shown, ?_⟩
      rw [← core] at plain
      have whole : cStr d.calMsg = d.calMsg := cStr_of_no_nul (plain calibrating.1)
      rw [label, texted, message, whole, dash]
    · intro off put shown
      have tracking : q.track.calOverlay = true := after.owner put shown
      rw [flagged, whenOff off] at tracking
      exact Bool.noConfusion tracking
  · rw [ran] at returned
    cases returned

/-- Whether the busy overlay that a run put up last was put up by a delta. -/
def putUpByDelta (L : Type → Type) [Layer L] [LawfulLayer L] (events : List (Event J)) : Bool :=
  (run (observed watchOwner step) (false, (Panel.initial : Panel L)) events).1

theorem putUpByDelta_snoc (events : List (Event J)) (event : Event J) :
    putUpByDelta L (events ++ [event]) =
      watchOwner (putUpByDelta L events) (after events : Panel L) event := by
  have reached : (run (observed watchOwner step) (false, (Panel.initial : Panel L)) events).2 =
      after events := run_observed_snd _ events
  rw [putUpByDelta, run_snoc, observed, reached]
  rfl

/-- In every run whose events spare the overlay: after a delta that returns, an
active calibration has the busy overlay up with its message, and an overlay that
was put up for a calibration that is over is down. -/
theorem calibration_overlay_agrees (events : List (Event J)) (j : J)
    (spared : Along step spares (Panel.initial : Panel L) (events ++ [.delta j]))
    (returned : (exec (consume j) (after events : Panel L)).1 = .ok ⟨⟩) :
    let p : Panel L := after (events ++ [.delta j])
    (calActive p.dash.printing p = true →
      p.ov.layer.Shown .busy ∧ p.ov.busy.text = p.dash.calMsg) ∧
    (calActive p.dash.printing p = false → putUpByDelta L (events ++ [.delta j]) = true →
      ¬ p.ov.layer.Shown .busy) := by
  intro p
  obtain ⟨before, last⟩ := (along_append _ events _).mp spared
  have preserved : ∀ (owned : Bool) (p : Panel L) (event : Event J), Tracked owned p →
      spares p event → Tracked (watchOwner owned p event) (step p event) :=
    fun _ _ event tracked spare => step_tracked tracked event spare.1
  have tracked : Tracked (putUpByDelta L events) (after events : Panel L) :=
    before.invariant_observed preserved tracked_initial
  have final := consume_agrees tracked j returned last.1.2
  have state : p = step (after events) (.delta j) := run_snoc _ events _
  rw [putUpByDelta_snoc, state]
  exact final

end Tracking

/-- A calibration that announces its first step. -/
def calibrationStarted : Json :=
  statusNotify (.obj [("idle_timeout", .obj [("state", .str "Printing")]),
    ("display_status", .obj [("message", .str "Calibrating Bed Mesh")])]) (.int 0)

/-- The calibration moves on to its next step. -/
def calibrationNext : Json :=
  statusNotify (.obj [("display_status", .obj [("message", .str "Calibrating Input Shaper")])])
    (.int 1)

/-- A calibration step and the next one, with a prompt in between that a delta saw. -/
theorem calibration_overlay_agrees_steps :
    let events : List (Event Json) :=
      [.delta calibrationStarted, .promptShow, .delta calibrationStarted, .promptEnd]
    let p : Panel ZStack := after (events ++ [.delta calibrationNext])
    (calActive p.dash.printing p = true →
      p.ov.layer.Shown .busy ∧ p.ov.busy.text = p.dash.calMsg) ∧
    (calActive p.dash.printing p = false →
      putUpByDelta ZStack (events ++ [.delta calibrationNext]) = true →
      ¬ p.ov.layer.Shown .busy) :=
  calibration_overlay_agrees _ _
    ⟨⟨rfl, fun _ => by decide +kernel⟩, ⟨rfl, trivial⟩, ⟨rfl, fun _ => by decide +kernel⟩,
      ⟨rfl, trivial⟩, ⟨rfl, fun _ => by decide +kernel⟩, trivial⟩
    rfl

/-- A step that takes three minutes: the watchdog takes the overlay down, and the
deltas that follow leave it there. -/
theorem watchdog_hides_calibration :
    let hidden : Panel ZStack :=
      after [.delta calibrationStarted, .tick (.elapse 180000), .watchdog 0]
    let p := step hidden (.delta calibrationStarted)
    (exec (consume calibrationStarted) hidden).1 = .ok ⟨⟩ ∧
      calActive p.dash.printing p = true ∧ ¬ p.ov.layer.Shown .busy :=
  ⟨rfl, rfl, by decide +kernel⟩

end GrumpyScreen
