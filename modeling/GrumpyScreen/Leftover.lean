import GrumpyScreen.CalOverlay
import GrumpyScreen.Logbook

/-! The display text that an operation leaves behind: which paths drop it, and what
the next operation shows of it. -/

namespace GrumpyScreen

open Lib Lib.Exec

/-- The text brings up the calibration overlay or the logbook of a busy printer. -/
def narrates (text : String) : Bool :=
  hasPrefix "Calibrating" text || hasPrefix "Make Pono" text || hasPrefix "Full Cal" text

section Text

variable {J : Type} [JsonLib J]

/-- A delta without a message leaves the busy flag and the text alone, or moves
them as its idle state says, even where it throws. -/
theorem consumeHead_silent (j : J) (silent : deltaText j ["display_status", "message"] = none)
    (d : Dash) :
    let e := final (consumeHead j) d
    (e.busy = d.busy ∧ e.calMsg = d.calMsg) ∨
      ∃ state, deltaText j ["idle_timeout", "state"] = some state ∧
        e.busy = decide (state = "Printing") ∧
        e.calMsg = if d.busy && state ≠ "Printing" then "" else d.calMsg := by
  intro e
  -- what the reads may have made of the two by any point of the delta
  let reached : Bool → String → Prop := fun busy text =>
    (busy = d.busy ∧ text = d.calMsg) ∨
      ∃ state, deltaText j ["idle_timeout", "state"] = some state ∧
        busy = decide (state = "Printing") ∧
        text = if d.busy && state ≠ "Printing" then "" else d.calMsg
  have kept : Preserves (fun d => reached d.core.busy d.core.calMsg) (consumeHead j) := by
    apply consumeHead_operation reached j
    · intro busy text state told before
      refine Or.inr ⟨state, told, rfl, ?_⟩
      rcases before with ⟨rfl, rfl⟩ | ⟨again, twice, rfl, rfl⟩
      · rfl
      · rw [told] at twice
        cases twice
        by_cases printing : state = "Printing" <;> simp [printing]
    · intro busy text told carried _
      rw [silent] at carried
      cases carried
  exact kept.final (Or.inl ⟨rfl, rfl⟩)

end Text

section Owner

variable {L : Type → Type} [Layer L] [LawfulLayer L] {J : Type} [JsonLib J]

/-- Outside the deltas an event leaves the busy overlay and its flag alone, takes the
overlay down or puts its own up. -/
theorem step_busy (p : Panel L) (event : Event J) (other : ∀ j, event ≠ .delta j) :
    let q := step p event
    (BusyKept p.ov q.ov ∧ q.track.calOverlay = p.track.calOverlay) ∨ BusyDown p.ov q.ov ∨
      q.ov.busy.fresh ≠ p.ov.busy.fresh := by
  intro q
  have same : BusyKept p.ov p.ov := BusyKept.refl p.ov
  have idle : ∀ {r : Panel L}, BusyKept p.ov r.ov → r.track.calOverlay = p.track.calOverlay →
      (BusyKept p.ov r.ov ∧ r.track.calOverlay = p.track.calOverlay) ∨ BusyDown p.ov r.ov ∨
        r.ov.busy.fresh ≠ p.ov.busy.fresh := fun kept flag => Or.inl ⟨kept, flag⟩
  have handled : ∀ (effects : List Effect) (r t : Panel L), BusyKept p.ov r.ov →
      BusyKept (performAll r effects).ov t.ov → t.track.calOverlay = p.track.calOverlay →
      (BusyKept p.ov t.ov ∧ t.track.calOverlay = p.track.calOverlay) ∨ BusyDown p.ov t.ov ∨
        t.ov.busy.fresh ≠ p.ov.busy.fresh := by
    intro effects r t before after flag
    cases shows : effects.any Effect.showsBusy with
    | false => exact Or.inl ⟨(before.trans (performAll_kept r effects shows)).trans after, flag⟩
    | true =>
      refine Or.inr (Or.inr ?_)
      rw [after.serial, ← before.serial]
      exact performAll_serial_ne r effects shows
  have tapped : ∀ effects : List Effect, (performAll p effects).track.calOverlay = _ :=
    fun effects => congrArg Tracking.calOverlay (performAll_track p effects)
  cases event with
  | delta j => exact absurd rfl (other j)
  | homeTap button => exact handled _ p _ same (BusyKept.refl _) (tapped _)
  | subTap button => exact handled _ p _ same (BusyKept.refl _) (tapped _)
  | fileRow idx => exact handled _ p _ same (BusyKept.refl _) (tapped _)
  | estopTap => exact handled _ p _ same (BusyKept.refl _) (tapped _)
  | callogStop => exact handled _ p _ same (BusyKept.refl _) (tapped _)
  | slider control value =>
    obtain ⟨kept, track⟩ := sliderInput_kept p control value
    exact idle kept (congrArg Tracking.calOverlay track)
  | confirmTap target =>
    obtain ⟨effects, -, ran⟩ := confirmTap_eq target p
    have reached : q = _ := ran
    rw [reached]
    refine handled effects { p with ov := hideConfirm p.ov } _ (hideConfirm_kept p.ov)
      ⟨rfl, rfl, Iff.rfl⟩ ?_
    exact congrArg Tracking.calOverlay (performAll_track { p with ov := hideConfirm p.ov } effects)
  | key key =>
    obtain ⟨kept, track⟩ := keypadInput_kept p key
    exact idle kept (congrArg Tracking.calOverlay track)
  | noticeTap => exact idle (noticeTap_kept p.ov) rfl
  | keypadScrim => exact idle (dismissKeypad_kept p.ov) rfl
  | actionDone id =>
    by_cases waiting : id ∈ p.waits.actions
    · have hidden : q = hideBusyOverlay _ := if_pos waiting
      rw [hidden]
      exact Or.inr (Or.inl (busyHide_down p.ov))
    · have ignored : q = p := if_neg waiting
      rw [ignored]
      exact idle same rfl
  | printStartReply j =>
    by_cases waiting : p.waits.printStarts = 0
    · have ignored : q = p := if_pos waiting
      rw [ignored]
      exact idle same rfl
    · have answered : q = printStartReply j _ := if_neg waiting
      rw [answered]
      obtain ⟨kept, track⟩ := printStartReply_kept
        { p with waits := { p.waits with printStarts := p.waits.printStarts - 1 } } j
      exact idle kept (congrArg Tracking.calOverlay track)
  | filesReply j =>
    have ov : q.ov = p.ov := filesReply_view Panel.ov (fun _ _ _ _ => rfl) j p
    have track : q.track = p.track := filesReply_view Panel.track (fun _ _ _ _ => rfl) j p
    exact idle (by rw [ov]; exact same) (congrArg Tracking.calOverlay track)
  | promptShow => exact Or.inr (Or.inl (busyHide_down p.ov))
  | linkLost =>
    have down := busyHide_down p.ov
    have hidden := calLogHide_kept (busyHide p.ov)
    exact Or.inr (Or.inl ⟨hidden.serial.trans down.serial,
      fun shown => down.hidden (hidden.shown.mp shown)⟩)
  | staleTick between =>
    obtain ⟨kept, tracking⟩ := checkStale_kept p between
    exact idle kept (congrArg Prod.fst tracking)
  | estopKeepalive => exact idle (estopKeepalive_kept p.ov) rfl
  | watchdog id =>
    rcases fireWatchdog_busy p.ov id with unmoved | down
    · exact idle (by rw [show q.ov = p.ov from unmoved]; exact same) rfl
    · exact Or.inr (Or.inl down)
  | tick t => cases t <;> exact idle ⟨rfl, rfl, Iff.rfl⟩ rfl
  | updateChecked avail latest status =>
    by_cases waiting : p.ui.updateChecking = true
    · have checked : q = updateChecked avail latest status p := if_pos waiting
      rw [checked]
      exact idle same rfl
    · have ignored : q = p := if_neg waiting
      rw [ignored]
      exact idle same rfl
  | updateFinished rc refused =>
    by_cases waiting : p.waits.updateRuns = 0
    · have ignored : q = p := if_pos waiting
      rw [ignored]
      exact idle same rfl
    · have finished : q = updateFinished rc refused _ := if_neg waiting
      rw [finished]
      exact Or.inr (Or.inl (updateFinished_down
        { p with waits := { p.waits with updateRuns := p.waits.updateRuns - 1 } } rc refused).1)
  | metadataReply i s j =>
    have ov : q.ov = p.ov := metadataReply_view Panel.ov (fun _ _ _ => rfl) i s j p
    have track : q.track = p.track := metadataReply_view Panel.track (fun _ _ _ => rfl) i s j p
    exact idle (by rw [ov]; exact same) (congrArg Tracking.calOverlay track)
  | loopPass inactive =>
    have ov : q.ov = p.ov := loopPass_view Panel.ov (fun _ _ _ => rfl) inactive p
    have track : q.track = p.track := loopPass_view Panel.track (fun _ _ _ => rfl) inactive p
    exact idle (by rw [ov]; exact same) (congrArg Tracking.calOverlay track)
  | _ => exact idle same rfl

/-- An overlay that a delta put up and that still stands is one the panel tracks. -/
def Owned (owned : Bool) (p : Panel L) : Prop :=
  owned = true → p.ov.layer.Shown .busy → p.track.calOverlay = true

theorem calOverlayStage_owned {owned : Bool} {p : Panel L} (before : Owned owned p)
    (printing : Bool) :
    let q := calOverlayStage printing p
    Owned (if q.ov.busy.fresh = p.ov.busy.fresh then owned else true) q := by
  intro q
  by_cases active : calActive printing p = true
  · by_cases fresh : (!p.track.calOverlay || p.dash.calMsg ≠ p.track.calOverlayText) = true
    · have raised : q = { p with
          ov := busyShow p.dash.calMsg p.ov
          track := { p.track with calOverlay := true, calOverlayText := p.dash.calMsg } } := by
        simp only [q, calOverlayStage, if_pos active, if_pos fresh]
      rw [raised]
      exact fun _ _ => rfl
    · have same : q = p := by simp only [q, calOverlayStage, if_pos active, if_neg fresh]
      rw [same, if_pos rfl]
      exact before
  · by_cases flag : p.track.calOverlay = true
    · have dropped : q = { p with
          ov := busyHide p.ov
          track := { p.track with calOverlay := false, calOverlayText := "" } } := by
        simp only [q, calOverlayStage, if_neg active, if_pos flag]
      rw [dropped]
      exact fun _ shown => absurd shown (busyHide_down p.ov).hidden
    · have same : q = p := by simp only [q, calOverlayStage, if_neg active, if_neg flag]
      rw [same, if_pos rfl]
      exact before

theorem consume_owned {owned : Bool} {p : Panel L} (before : Owned owned p) (j : J) :
    Owned (watchOwner owned p (.delta j)) (step p (.delta j)) := by
  rcases consume_cases p j with ⟨d, printing, -, -, ran⟩ | ⟨d, thrown, -, ran⟩
  · have reached : step p (.delta j) = overlayStages { p with dash := d } := congrArg Prod.snd ran
    have start : Owned owned { p with dash := d } := before
    have staged := calOverlayStage_owned start d.printing
    have kept := logbookStage_kept d.printing (calOverlayStage d.printing { p with dash := d })
    obtain ⟨flag, -⟩ :=
      logbookStage_track d.printing (calOverlayStage d.printing { p with dash := d })
    have watched : watchOwner owned p (.delta j) =
        if (calOverlayStage d.printing { p with dash := d }).ov.busy.fresh = p.ov.busy.fresh
          then owned else true := by
      rw [watchOwner, reached, overlayStages, kept.serial]
    rw [reached, watched]
    intro owner shown
    exact flag.trans (staged owner (kept.shown.mp shown))
  · have reached : step p (.delta j) = { p with dash := d } := congrArg Prod.snd ran
    rw [watchOwner, reached, if_pos rfl]
    exact before

theorem step_owned (owned : Bool) (p : Panel L) (event : Event J) (before : Owned owned p) :
    Owned (watchOwner owned p event) (step p event) := by
  by_cases status : ∃ j, event = .delta j
  · obtain ⟨j, rfl⟩ := status
    exact consume_owned before j
  rw [watchOwner_other owned p event fun j same => status ⟨j, same⟩]
  intro owner shown
  rcases step_busy p event (fun j same => status ⟨j, same⟩) with ⟨kept, flag⟩ | down | raised
  · rw [if_pos kept.serial] at owner
    rw [flag]
    exact before owner (kept.shown.mp shown)
  · exact absurd shown down.hidden
  · rw [if_neg raised] at owner
    cases owner

end Owner

/-- What a run has told of the operations: whether `idle_timeout` was 'Printing' in
the last delta whose idle state was read, and whether no message came since it left
that state, or since a link loss. -/
structure Heard where
  printing : Bool := false
  quiet : Bool := true
deriving DecidableEq

section Leftover

variable {L : Type → Type} [Layer L] [LawfulLayer L] {J : Type} [JsonLib J]

/-- The idle state once the delta is through. One that throws before it gets to the
state leaves the flag, and this, as it was. -/
def idleHeard (heard : Heard) (p : Panel L) (j : J) : Bool :=
  match deltaText j ["idle_timeout", "state"] with
  | some state =>
    if (step p (.delta j)).dash.busy = decide (state = "Printing") then state = "Printing"
    else heard.printing
  | none => heard.printing

def hear (heard : Heard) (p : Panel L) : Event J → Heard
  | .delta j =>
    { printing := idleHeard heard p j
      quiet := (deltaText j ["display_status", "message"]).isNone &&
        (heard.quiet || heard.printing && !idleHeard heard p j) }
  | .linkLost => { heard with quiet := true }
  | _ => heard

/-- Where the code drops the text: a link that is lost finds none that narrates, and
an operation that ends without a message finds the busy flag, or no such text. -/
def dropsText (heard : Heard) (p : Panel L) : Event J → Prop
  | .linkLost => narrates p.dash.calMsg = false
  | .delta j =>
    heard.printing = true → (∃ state, deltaText j ["idle_timeout", "state"] = some state ∧
        state ≠ "Printing") →
      deltaText j ["display_status", "message"] = none →
      p.dash.busy = true ∨ narrates p.dash.calMsg = false
  | _ => True

/-- No text is left over from before the quiet. -/
def Dropped (heard : Heard) (p : Panel L) : Prop :=
  heard.quiet = true → narrates p.dash.calMsg = false

theorem step_calMsg (p : Panel L) (event : Event J) (other : ∀ j, event ≠ .delta j) :
    (step p event).dash.calMsg = p.dash.calMsg := by
  cases status : event.isStatus with
  | false =>
    obtain ⟨fans, hidden, busy, sensors, same, -⟩ := step_dash p event status
    rw [same]
  | true =>
    cases event with
    | delta j => exact absurd rfl (other j)
    | seed j =>
      have kept := init_operation (fun _ text => text = p.dash.calMsg) j
      exact kept.final rfl
    | staleTick between =>
      obtain ⟨cockpit, stale, moved⟩ := staleTick_dash (J := J) p between
      rw [moved]
    | _ => cases status

theorem idleHeard_left {heard : Heard} {p : Panel L} {j : J} (was : heard.printing = true)
    (left : idleHeard heard p j = false) :
    ∃ state, deltaText j ["idle_timeout", "state"] = some state ∧ state ≠ "Printing" ∧
      (step p (.delta j)).dash.busy = false := by
  unfold idleHeard at left
  cases told : deltaText j ["idle_timeout", "state"] with
  | none =>
    rw [told, was] at left
    cases left
  | some state =>
    rw [told, was] at left
    by_cases taken : (step p (.delta j)).dash.busy = decide (state = "Printing")
    · simp only [if_pos taken, decide_eq_false_iff_not] at left
      exact ⟨state, rfl, left, taken.trans (decide_eq_false left)⟩
    · simp only [if_neg taken, Bool.true_eq_false] at left

theorem delta_dropped {heard : Heard} {p : Panel L} (before : Dropped heard p) (j : J)
    (drops : dropsText heard p (.delta j)) :
    Dropped (hear heard p (.delta j)) (step p (.delta j)) := by
  intro quiet
  obtain ⟨silent, since⟩ : deltaText j ["display_status", "message"] = none ∧
      (heard.quiet = true ∨ heard.printing = true ∧ idleHeard heard p j = false) := by
    simpa [hear] using quiet
  have dash : (step p (.delta j)).dash = final (consumeHead j) p.dash := consume_dash p j
  have moved := consumeHead_silent j silent p.dash
  rw [← dash] at moved
  rcases since with already | ⟨was, left⟩
  · -- nothing was left over, and a delta without a message adds nothing
    have none : narrates p.dash.calMsg = false := before already
    rcases moved with ⟨-, text⟩ | ⟨state, -, -, text⟩
    · rw [text]
      exact none
    · rw [text]
      split
      · rfl
      · exact none
  · obtain ⟨state, told, other, down⟩ := idleHeard_left was left
    have dropped := drops was ⟨state, told, other⟩ silent
    rcases moved with ⟨busy, text⟩ | ⟨state', told', -, text⟩
    · rw [← busy, down] at dropped
      rw [text]
      exact dropped.resolve_left Bool.false_ne_true
    · rw [told] at told'
      cases told'
      rw [text]
      rcases dropped with busy | none
      · simp [busy, other, narrates, hasPrefix]
      · split
        · rfl
        · exact none

theorem step_dropped (heard : Heard) (p : Panel L) (event : Event J) (before : Dropped heard p)
    (drops : dropsText heard p event) : Dropped (hear heard p event) (step p event) := by
  by_cases status : ∃ j, event = .delta j
  · obtain ⟨j, rfl⟩ := status
    exact delta_dropped before j drops
  have text := step_calMsg p event fun j same => status ⟨j, same⟩
  rw [Dropped, text]
  cases event with
  | delta j => exact absurd ⟨j, rfl⟩ status
  | linkLost => exact fun _ => drops
  | _ => exact before

/-- What a run has told, up to its end. -/
def heardIn (L : Type → Type) [Layer L] [LawfulLayer L] (events : List (Event J)) : Heard :=
  (run (observed hear step) ({}, (Panel.initial : Panel L)) events).1

/-- The calibration overlay is up: the busy overlay, put up by a delta. -/
def CalOverlayUp (L : Type → Type) [Layer L] [LawfulLayer L] (events : List (Event J)) : Prop :=
  putUpByDelta L events = true ∧ (after events : Panel L).ov.layer.Shown .busy

/-- Every event of the run drops the text it should. -/
def Drops (L : Type → Type) [Layer L] [LawfulLayer L] (events : List (Event J)) : Prop :=
  Along (observed hear step) (fun pair event => dropsText pair.1 pair.2 event)
    ({}, (Panel.initial : Panel L)) events

theorem owned_run (events : List (Event J)) :
    Owned (putUpByDelta L events) (after events : Panel L) := by
  have start : Owned false (Panel.initial : Panel L) := fun owner => Bool.noConfusion owner
  exact run_invariant_observed step_owned start events

theorem dropped_run {events : List (Event J)} (drops : Drops L events) :
    Dropped (heardIn L events) (after events : Panel L) :=
  drops.invariant_watched step_dropped fun _ => rfl

/-- A delta that leaves no narrating text shows neither overlay, and one that throws
shows nothing that was not shown before. -/
theorem delta_shows_none {owned : Bool} {p : Panel L} (owns : Owned owned p) (logged : Logged p)
    (j : J) (dropped : narrates (step p (.delta j)).dash.calMsg = false) :
    let q := step p (.delta j)
    (watchOwner owned p (.delta j) = true → q.ov.layer.Shown .busy →
      owned = true ∧ p.ov.layer.Shown .busy) ∧
    (q.ov.layer.Shown .callog → p.ov.layer.Shown .callog) ∧
    ((exec (consume j) p).1 = .ok ⟨⟩ →
      ¬ (watchOwner owned p (.delta j) = true ∧ q.ov.layer.Shown .busy) ∧
        ¬ q.ov.layer.Shown .callog) := by
  intro q
  rcases consume_cases p j with ⟨d, printing, -, core, ran⟩ | ⟨d, thrown, -, ran⟩
  · have returned : (exec (consume j) p).1 = .ok ⟨⟩ := congrArg Prod.fst ran
    have reached : q = overlayStages { p with dash := d } := congrArg Prod.snd ran
    have dash : q.dash = d := by rw [reached]; simp [overlayStages]
    have text : narrates d.calMsg = false := by rw [← dash]; exact dropped
    simp only [narrates, Bool.or_eq_false_iff] at text
    obtain ⟨⟨calibrating, pono⟩, full⟩ := text
    have tracked : q.track.calOverlay = false := by
      have flag : q.track.calOverlay = calActive q.dash.printing q := consume_flag returned
      rw [flag]
      simp [calActive, dash, calibrating]
    have closed : q.track.callogShown = false := by
      rw [(consume_logbook logged j returned).1, dash]
      simp [calRun, pono, full]
    have down : ¬ (watchOwner owned p (.delta j) = true ∧ q.ov.layer.Shown .busy) := by
      rintro ⟨owner, shown⟩
      have standing : q.track.calOverlay = true := consume_owned owns j owner shown
      rw [tracked] at standing
      cases standing
    have shut : ¬ q.ov.layer.Shown .callog := by
      intro shown
      have up : q.track.callogShown = true := (consume_logged logged j).flag.mpr shown
      rw [closed] at up
      cases up
    exact ⟨fun owner shown => absurd ⟨owner, shown⟩ down, fun shown => absurd shown shut,
      fun _ => ⟨down, shut⟩⟩
  · have reached : q = { p with dash := d } := congrArg Prod.snd ran
    have watched : watchOwner owned p (.delta j) = owned := by
      rw [watchOwner, show step p (.delta j) = _ from reached, if_pos rfl]
    rw [watched, reached, ran]
    refine ⟨fun owner shown => ⟨owner, shown⟩, fun shown => shown, ?_⟩
    intro returned
    cases returned

/-- In every run whose events drop the text they should: once an operation is over,
or the link was lost, and no message came since, no delta brings up the calibration
overlay or the logbook, and one that returns leaves neither up. -/
theorem leftover_never_shown (events : List (Event J)) (j : J)
    (drops : Drops L (events ++ [.delta j]))
    (quiet : (heardIn L (events ++ [.delta j])).quiet = true) :
    (CalOverlayUp L (events ++ [.delta j]) → CalOverlayUp L events) ∧
    ((after (events ++ [.delta j]) : Panel L).ov.layer.Shown .callog →
      (after events : Panel L).ov.layer.Shown .callog) ∧
    ((exec (consume j) (after events : Panel L)).1 = .ok ⟨⟩ →
      ¬ CalOverlayUp L (events ++ [.delta j]) ∧
        ¬ (after (events ++ [.delta j]) : Panel L).ov.layer.Shown .callog) := by
  have dropped : narrates (after (events ++ [.delta j]) : Panel L).dash.calMsg = false :=
    dropped_run drops quiet
  have logged : Logged (after events : Panel L) := run_invariant step_logged logged_initial events
  have state : (after (events ++ [.delta j]) : Panel L) = step (after events) (.delta j) :=
    run_snoc _ events _
  rw [state] at dropped
  obtain ⟨overlay, logbook, neither⟩ := delta_shows_none (owned_run events) logged j dropped
  rw [CalOverlayUp, state, putUpByDelta_snoc]
  exact ⟨fun up => overlay up.1 up.2, logbook, neither⟩

end Leftover

section Witness

/-- The printer is idle again. -/
def readyAgain : Json :=
  statusNotify (.obj [("idle_timeout", .obj [("state", .str "Ready")])]) (.int 2)

/-- The printer is busy, for a homing by hand say. -/
def homingByHand : Json :=
  statusNotify (.obj [("idle_timeout", .obj [("state", .str "Printing")])]) (.int 3)

/-- A calibration runs to its end, and the link drops while nothing is going on. -/
private def finished : List (Event Json) :=
  [.delta calibrationStarted, .delta readyAgain, .linkLost, .linkReady]

theorem leftover_never_shown_finished :
    ¬ CalOverlayUp ZStack (finished ++ [.delta homingByHand]) ∧
      ¬ (after (finished ++ [.delta homingByHand]) : Panel ZStack).ov.layer.Shown .callog := by
  have drops : Drops ZStack (finished ++ [.delta homingByHand]) :=
    ⟨fun was => Bool.noConfusion was, fun _ _ _ => Or.inl rfl, rfl, trivial,
      fun was => Bool.noConfusion was, trivial⟩
  exact (leftover_never_shown finished homingByHand drops rfl).2.2 rfl

/-- The link drops during a calibration, which is over when the printer is heard of
again. The next homing by hand brings its text back. -/
theorem interrupted_calibration_shown_again :
    let events : List (Event Json) :=
      [.delta calibrationStarted, .linkLost, .linkReady, .delta readyAgain]
    let p : Panel ZStack := after (events ++ [.delta homingByHand])
    (heardIn ZStack (events ++ [.delta homingByHand])).quiet = true ∧
      (exec (consume homingByHand) (after events : Panel ZStack)).1 = .ok ⟨⟩ ∧
      CalOverlayUp ZStack (events ++ [.delta homingByHand]) ∧
      p.ov.busy.text = "Calibrating Bed Mesh" := by
  refine ⟨rfl, rfl, ⟨rfl, ?_⟩, rfl⟩
  decide +kernel

end Witness

end GrumpyScreen
