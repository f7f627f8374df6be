import GrumpyScreen.Confirm
import GrumpyScreen.Handlers

/-! One rule for what holds of the overlays over a run: each operation on them keeps
it, and so does each call a handler makes. -/

namespace GrumpyScreen

open Lib Lib.Exec

variable {L : Type → Type} [Layer L] [LawfulLayer L]

theorem perform_ov (p : Panel L) (effect : Effect) :
    (perform p effect).ov =
      match effect with
      | .act text _ | .busy text => busyShow text p.ov
      | .confirm msg action => confirm msg action p.ov
      | .notice msg => notice msg p.ov
      | .keypad use => openKeypad use p.ov
      | _ => p.ov := by
  cases effect with
  | checkUpdate =>
    obtain ⟨_, _, _, -, left⟩ := perform_checkUpdate p
    rw [left]
  | _ => rfl

/-- Kept by what replies, timers, status messages and worker threads do to the overlays. -/
structure KeptInBackground (Inv : Overlays L → Prop) : Prop where
  busyShow : ∀ o text, Inv o → Inv (busyShow text o)
  busyHide : ∀ o, Inv o → Inv (busyHide o)
  logbookShow : ∀ o view, Inv o → Inv (calLogShow view o)
  logbookHide : ∀ o, Inv o → Inv (calLogHide o)
  expire : ∀ o id, Inv o → Inv (fireWatchdog id o)
  keepalive : ∀ o, Inv o → Inv (estopKeepalive o)
  elapse : ∀ o ms, Inv o → Inv { o with clock := o.clock + ms }
  notice : ∀ o msg, Inv o → Inv (notice msg o)
  refusal : ∀ o msg, Inv o → Inv (confirm msg .acknowledge o)

/-- Kept by what a tap does to the overlays beside the calls of its handler. -/
structure KeptByTaps (Inv : Overlays L → Prop) : Prop where
  answer : ∀ o, Inv o → Inv (hideConfirm o)
  empty : ∀ o, Inv o → Inv { o with pending := none }
  read : ∀ o, Inv o → Inv (noticeTap o)
  type : ∀ o text, Inv o → Inv { o with keypad := { o.keypad with text := text } }
  dismiss : ∀ o, Inv o → Inv (dismissKeypad o)

section Background

variable {J : Type} [JsonLib J] {Inv : Overlays L → Prop} (kept : KeptInBackground Inv)

include kept

theorem consume_overlays (p : Panel L) (j : J) (holds : Inv p.ov) :
    Inv (final (consume j) p).ov := by
  have overlay : ∀ (q : Panel L) printing, Inv q.ov → Inv (calOverlayStage printing q).ov := by
    intro q printing holds
    unfold calOverlayStage
    split
    · split
      · exact kept.busyShow q.ov _ holds
      · exact holds
    · split
      · exact kept.busyHide q.ov holds
      · exact holds
  have logbook : ∀ (q : Panel L) printing, Inv q.ov → Inv (logbookStage printing q).ov := by
    intro q printing holds
    unfold logbookStage
    split
    · split
      · exact kept.logbookShow q.ov _ holds
      · exact holds
    · split
      · exact kept.logbookHide q.ov holds
      · exact holds
  unfold final
  rcases consume_cases p j with ⟨d, printing, -, -, ran⟩ | ⟨d, thrown, -, ran⟩
  · rw [ran]
    exact logbook _ d.printing (overlay { p with dash := d } d.printing holds)
  · rw [ran]
    exact holds

omit [JsonLib J] in
theorem tick_overlays (p : Panel L) (t : Tick) (holds : Inv p.ov) : Inv (tick p t).ov := by
  cases t with
  | elapse ms => exact kept.elapse p.ov _ holds
  | stamp => exact holds

omit [JsonLib J] in
theorem checkStale_overlays (p : Panel L) (between : List Tick) (holds : Inv p.ov) :
    Inv (checkStale between p).ov := by
  have contact : ∀ q : Panel L, Inv q.ov → Inv (checkContact q).ov := by
    intro q holds
    simp only [checkContact]
    split
    · split
      · exact kept.logbookShow q.ov _ holds
      · split
        · exact kept.logbookShow q.ov _ holds
        · exact holds
    · exact holds
  have waited : ∀ q : Panel L, Inv q.ov → Inv (between.foldl tick q).ov := by
    induction between with
    | nil => exact fun _ holds => holds
    | cons t rest ih => exact fun q holds => ih (tick q t) (tick_overlays kept q t holds)
  apply contact
  apply waited
  rw [(checkReadout_ov p).1]
  exact holds

omit [JsonLib J] in
theorem updateFinished_overlays (p : Panel L) (rc : Int) (refused : String) (holds : Inv p.ov) :
    Inv (updateFinished rc refused p).ov := by
  have hidden : Inv (busyHide p.ov) := kept.busyHide p.ov holds
  simp only [updateFinished]
  generalize (if rc = 0 then "" else refused) = named
  split
  · exact hidden
  · exact kept.notice _ named hidden

theorem printStartReply_overlays (p : Panel L) (j : J) (holds : Inv p.ov) :
    Inv (printStartReply j p).ov := by
  unfold printStartReply
  split
  · split
    · exact kept.refusal p.ov _ holds
    · exact holds
  · exact holds

/-- What the background keeps, every event but a tap keeps. -/
theorem step_background (p : Panel L) (event : Event J) (other : event.isTap = false)
    (holds : Inv p.ov) : Inv (step p event).ov := by
  cases event with
  | delta j => exact consume_overlays kept p j holds
  | staleTick between => exact checkStale_overlays kept p between holds
  | estopKeepalive => exact kept.keepalive p.ov holds
  | watchdog id => exact kept.expire p.ov id holds
  | promptShow => exact kept.busyHide p.ov holds
  | linkLost => exact kept.logbookHide _ (kept.busyHide p.ov holds)
  | tick t => exact tick_overlays kept p t holds
  | actionDone id =>
    simp only [step]
    split
    · exact kept.busyHide p.ov holds
    · exact holds
  | printStartReply j =>
    simp only [step]
    split
    · exact holds
    · exact printStartReply_overlays kept _ j holds
  | filesReply j =>
    have ov : (step p (.filesReply j)).ov = p.ov :=
      filesReply_view Panel.ov (fun _ _ _ _ => rfl) j p
    rw [ov]
    exact holds
  | metadataReply i s j =>
    have ov : (step p (.metadataReply i s j)).ov = p.ov :=
      metadataReply_view Panel.ov (fun _ _ _ => rfl) i s j p
    rw [ov]
    exact holds
  | loopPass inactive =>
    have ov : (step p (.loopPass inactive : Event J)).ov = p.ov :=
      loopPass_view Panel.ov (fun _ _ _ => rfl) inactive p
    rw [ov]
    exact holds
  | updateChecked avail latest status =>
    simp only [step]
    split <;> exact holds
  | updateFinished rc refused =>
    simp only [step]
    split
    · exact holds
    · exact updateFinished_overlays kept _ rc refused holds
  | seed j => exact holds
  | promptEnd => exact holds
  | sensorsBuilt keys => exact holds
  | linkReady => exact holds
  | _ => simp [Event.isTap] at other

/-- What the operations on the overlays and the calls of its handler keep, an event
keeps. -/
theorem step_overlays (taps : KeptByTaps Inv) (p : Panel L) (event : Event J)
    (calls : ∀ q : Panel L, ∀ effect ∈ event.effects p, Inv q.ov → Inv (perform q effect).ov)
    (holds : Inv p.ov) : Inv (step p event).ov := by
  cases tap : event.isTap with
  | false => exact step_background kept p event tap holds
  | true =>
    cases handled : event.isHandled with
    | true =>
      exact handled_writes (fun q => Inv q.ov) handled calls (fun q => taps.answer q.ov)
        (fun q => taps.empty q.ov) (fun q => taps.type q.ov) (fun q => taps.dismiss q.ov)
        (fun _ _ holds => holds) holds
    | false =>
      cases event with
      | noticeTap => exact taps.read p.ov holds
      | keypadScrim => exact taps.dismiss p.ov holds
      | sliderPress i => exact holds
      | wifiBack => exact holds
      | _ => simp [Event.isTap, Event.isHandled] at tap handled

end Background

end GrumpyScreen
