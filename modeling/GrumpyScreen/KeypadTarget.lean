import GrumpyScreen.OverlayRule

/-! Which field a typed number reaches: the number pad is shared by all of them, and over
a run it keeps what was typed since one of them brought it up. -/

namespace GrumpyScreen

open Lib

/-- The fields that bring up the number pad, by what they do with the number. -/
def SubButton.field : SubButton → Option KeypadUse
  | .filTemp | .nzCur => some .nozzle
  | .bdCur => some .bed
  | .speed => some .speed
  | .flow => some .flow
  | .pa => some .pressureAdvance
  | .zoff => some .zOffset
  | .fan => some .fan
  | _ => none

/-- What is sent for a number on a field. -/
def KeypadUse.command (v : Float) : KeypadUse → Command
  | .nozzle => .gcode (.heaterTarget .extruder (clampInt 0 300 (castInt (v + 0.5))))
  | .bed => .gcode (.heaterTarget .bed (clampInt 0 120 (castInt (v + 0.5))))
  | .speed => .gcode (.speedFactor (clampInt 10 300 (castInt (v + 0.5))))
  | .flow => .gcode (.flowFactor (clampInt 50 200 (castInt (v + 0.5))))
  | .pressureAdvance => .gcode (.pressureAdvance (if v < 0 then 0 else if v > 1.0 then 1.0 else v))
  | .zOffset => .gcode (.zOffset v)
  | .fan => .gcode (.partFan (clampInt 0 100 (castInt (v + 0.5)) * 255 / 100))

/-- A field that was tapped, and the text typed for it since. -/
structure Typing where
  use : KeypadUse
  text : String

namespace Typing

/-- What `OK` is to send: nothing for a text that is no number. -/
def commands (typing : Typing) : List Command :=
  ((stod typing.text).map typing.use.command).toList

/-- The typing behind a key; the pad is left with `Cancel` and with `OK`. -/
def press (typing : Typing) : Key → Option Typing
  | .char c => some { typing with text := typing.text.push c }
  | .backspace => some { typing with text := String.ofList typing.text.toList.dropLast }
  | .cancel | .ok => none

end Typing

/-- What the operator is typing: begun by the tap on a field, over when the pad is left. -/
def watchTyping {L : Type → Type} [Layer L] {J : Type} (typing : Option Typing) (_ : Panel L) :
    Event J → Option Typing
  | .subTap button => button.field.elim typing fun use => some ⟨use, ""⟩
  | .key key => typing.bind (·.press key)
  | .keypadScrim => none
  | _ => typing

section Calls

variable {L : Type → Type} [Layer L] {J : Type}

/-- The field a call brings the pad up for. -/
def Effect.field : Effect → Option KeypadUse
  | .keypad use => some use
  | _ => none

theorem subTap_field (p : Panel L) (button : SubButton) :
    (subTap p button).filterMap Effect.field = button.field.toList := by
  cases button with
  | move button =>
    simp only [subTap]
    split
    · rfl
    · cases button <;> rfl
  | extrude | retract | standard | omega | integrity =>
    simp only [subTap]
    split <;> rfl
  | cal i =>
    simp only [subTap]
    split
    · rfl
    · split
      · rfl
      · split <;> rfl
  | system wire =>
    simp only [subTap, populateSystem]
    split <;> rfl
  | install =>
    simp only [subTap]
    split
    · rfl
    · split <;> rfl
  | _ => rfl

theorem homeTap_field (p : Panel L) (button : HomeButton) :
    (homeTap p button).filterMap Effect.field = [] := by
  cases button with
  | pauseStop =>
    simp only [homeTap]
    split
    · rfl
    · split <;> rfl
  | cancel =>
    simp only [homeTap]
    split <;> rfl
  | _ => rfl

theorem runAction_field (p : Panel L) (action : Action) :
    (runAction p action).filterMap Effect.field = [] := by
  cases action with
  | bedMesh | inputShaper | install =>
    simp only [runAction]
    split <;> rfl
  | _ => rfl

theorem fanSliderCb_field (p : Panel L) (slider : Slider) (value : Int) :
    (fanSliderCb p slider value).filterMap Effect.field = [] := by
  unfold fanSliderCb
  split <;> rfl

theorem fileRowCb_field (p : Panel L) (idx : Nat) :
    (fileRowCb p idx).filterMap Effect.field = [] := by
  unfold fileRowCb
  split <;> rfl

/-- The command of a field's callback. -/
theorem runKeypad_command (p : Panel L) (value : Float) (use : KeypadUse) :
    commandsOf (runKeypad p value use) = [use.command value] := by
  cases use <;> rfl

end Calls

section Pad

variable {L : Type → Type} [Layer L] [LawfulLayer L]

/-- The pad is up exactly while something is typed, and has its field and its text. -/
structure Tracks (typing : Option Typing) (o : Overlays L) : Prop where
  shown : o.layer.Shown .numCard ↔ typing.isSome = true
  typed : ∀ e, typing = some e → o.keypad = ⟨e.text, some e.use⟩

variable {typing : Option Typing} {o : Overlays L}

theorem follows_background (typing : Option Typing) :
    KeptInBackground (Tracks (L := L) typing) where
  busyShow o text follows := ⟨by simpa [busyShow] using follows.shown, follows.typed⟩
  busyHide o follows := ⟨by simpa [busyHide] using follows.shown, follows.typed⟩
  logbookShow o view follows := ⟨by simpa [calLogShow] using follows.shown, follows.typed⟩
  logbookHide o follows := ⟨by simpa [calLogHide] using follows.shown, follows.typed⟩
  expire o id follows := by
    unfold fireWatchdog
    split
    · exact ⟨by simpa [busyWatchdogCb, busyHide] using follows.shown, follows.typed⟩
    · exact follows
  keepalive o follows := by
    unfold estopKeepalive
    split
    · exact follows
    · split
      · exact follows
      · exact ⟨by simpa using follows.shown, follows.typed⟩
  elapse o ms follows := ⟨follows.shown, follows.typed⟩
  notice o msg follows := ⟨by simpa [notice] using follows.shown, follows.typed⟩
  refusal o msg follows := ⟨by simpa [confirm] using follows.shown, follows.typed⟩

theorem Tracks.opened (o : Overlays L) (use : KeypadUse) :
    Tracks (some ⟨use, ""⟩) (openKeypad use o) := by
  refine ⟨by simp [openKeypad], fun e same => ?_⟩
  obtain rfl := Option.some.inj same
  rfl

theorem Tracks.dismissed (o : Overlays L) : Tracks none (dismissKeypad o) :=
  ⟨by simp [dismissKeypad], fun _ same => nomatch same⟩

theorem Tracks.answered (follows : Tracks typing o) : Tracks typing (hideConfirm o) :=
  ⟨by simpa [hideConfirm] using follows.shown, follows.typed⟩

theorem Tracks.perform {p : Panel L} (follows : Tracks typing p.ov) {effect : Effect}
    (other : effect.field = none) : Tracks typing (perform p effect).ov := by
  have kept := follows_background (L := L) typing
  rw [perform_ov]
  cases effect with
  | act text command => exact kept.busyShow p.ov text follows
  | busy text => exact kept.busyShow p.ov text follows
  | confirm msg action => exact ⟨by simpa [confirm] using follows.shown, follows.typed⟩
  | notice msg => exact kept.notice p.ov msg follows
  | keypad use => cases other
  | _ => exact follows

theorem Tracks.performAll {p : Panel L} (follows : Tracks typing p.ov) {effects : List Effect}
    (padless : effects.filterMap Effect.field = []) :
    Tracks typing (performAll p effects).ov := by
  refine performAll_invariant p (fun q => Tracks typing q.ov) (fun q follows effect member => ?_)
    follows
  exact follows.perform (List.filterMap_eq_nil_iff.mp padless effect member)

end Pad

section Runs

variable {L : Type → Type} [Layer L] [LawfulLayer L] {J : Type} [JsonLib J]
  {typing : Option Typing}

theorem subTap_follows (p : Panel L) (button : SubButton) (follows : Tracks typing p.ov) :
    Tracks (watchTyping typing p (.subTap button : Event J))
      (step p (.subTap button : Event J)).ov := by
  have calls := subTap_field p button
  simp only [watchTyping, step]
  cases field : button.field with
  | none =>
    rw [field] at calls
    exact follows.performAll calls
  | some use =>
    have single : subTap p button = [.keypad use] := by
      cases button <;> first | (cases field; rfl) | cases field
    rw [single]
    exact Tracks.opened p.ov use

theorem key_follows (p : Panel L) (key : Key) (follows : Tracks typing p.ov) :
    Tracks (watchTyping typing p (.key key : Event J)) (step p (.key key : Event J)).ov := by
  have typed : ∀ (text : String) (press : Typing → Typing),
      (∀ e, typing = some e → press e = ⟨e.use, text⟩) →
      Tracks (typing.map press) { p.ov with keypad := { p.ov.keypad with text := text } } := by
    intro text press same
    refine ⟨by simpa using follows.shown, fun e' found => ?_⟩
    obtain ⟨e, own, rfl⟩ := Option.map_eq_some_iff.mp found
    rw [same e own, follows.typed e own]
  cases key with
  | char c =>
    have pressed := typed (p.ov.keypad.text.push c) (fun e => { e with text := e.text.push c })
      fun e own => by rw [follows.typed e own]
    cases typing <;> exact pressed
  | backspace =>
    have pressed := typed (String.ofList p.ov.keypad.text.toList.dropLast)
      (fun e => { e with text := String.ofList e.text.toList.dropLast })
      fun e own => by rw [follows.typed e own]
    cases typing <;> exact pressed
  | cancel => cases typing <;> exact Tracks.dismissed p.ov
  | ok => cases typing <;> exact Tracks.dismissed _

/-- Every event leaves the pad with what is being typed. -/
theorem step_follows (p : Panel L) (event : Event J) (follows : Tracks typing p.ov) :
    Tracks (watchTyping typing p event) (step p event).ov := by
  cases tap : event.isTap with
  | false =>
    have kept := step_background (follows_background typing) p event tap follows
    cases event <;> first | exact kept | cases tap
  | true =>
    cases event with
    | homeTap button => exact follows.performAll (homeTap_field p button)
    | subTap button => exact subTap_follows p button follows
    | fileRow idx => exact follows.performAll (fileRowCb_field p idx)
    | estopTap => exact follows.performAll rfl
    | callogStop => exact follows.performAll rfl
    | sliderPress i => exact follows
    | wifiBack => exact follows
    | slider slider value =>
      have same : ∀ q : Panel L, q.ov = p.ov →
          Tracks typing (performAll q (fanSliderCb q slider value)).ov := fun q same =>
        Tracks.performAll (same ▸ follows) (fanSliderCb_field q slider value)
      simp only [step, sliderInput]
      cases slider <;> exact same _ rfl
    | confirmTap target =>
      obtain ⟨effects, ran, same⟩ := confirmTap_eq target p
      have padless : effects.filterMap Effect.field = [] := by
        rcases ran with rfl | ⟨-, action, -, rfl⟩
        · rfl
        · exact runAction_field p action
      have taken : step p (.confirmTap target : Event J) = _ := same
      have hidden : Tracks typing ({ p with ov := hideConfirm p.ov } : Panel L).ov :=
        follows.answered
      have done := hidden.performAll padless
      rw [taken]
      exact ⟨done.shown, done.typed⟩
    | noticeTap =>
      have read : Tracks typing (noticeTap p.ov) :=
        ⟨by simpa [noticeTap] using follows.shown, follows.typed⟩
      exact read
    | keypadScrim => exact Tracks.dismissed p.ov
    | key key => exact key_follows p key follows
    | _ => cases tap

theorem initial_follows : Tracks none (Panel.initial : Panel L).ov := by
  refine ⟨?_, fun _ same => nomatch same⟩
  have down := TopLayer.shown_initial (L := L) .numCard
  simpa [Panel.initial, Overlays.initial] using down

/-- In every run the pad is up exactly while a field that was tapped is being typed for, and
its `OK` sends the number typed since that tap, to that field and to no other. -/
theorem number_reaches_field (events : List (Event J)) :
    let reached := run (observed watchTyping step) (none, (Panel.initial : Panel L)) events
    (reached.2.ov.layer.Shown .numCard ↔ reached.1.isSome = true) ∧
      ∀ typing, reached.1 = some typing →
        dispatched reached.2 (.key .ok : Event J) = typing.commands := by
  have kept : ∀ (typing : Option Typing) (p : Panel L) (event : Event J),
      Tracks typing p.ov → Tracks (watchTyping typing p event) (step p event).ov :=
    fun _ p event follows => step_follows p event follows
  have follows : Tracks
      (run (observed watchTyping step) (none, (Panel.initial : Panel L)) events).1
      (run step (Panel.initial : Panel L) events).ov :=
    run_invariant_observed kept initial_follows events
  intro reached
  have same : reached.2 = run step (Panel.initial : Panel L) events := run_observed_snd _ events
  rw [← same] at follows
  refine ⟨follows.shown, fun typing found => ?_⟩
  have sent : (step reached.2 (.key .ok : Event J)).sent = _ :=
    keypadInput_sent (J := J) reached.2 .ok
  rw [dispatched, sent, List.drop_left]
  have pad := follows.typed typing found
  simp only [Event.effects, pad, Typing.commands]
  cases stod typing.text with
  | none => rfl
  | some value => exact runKeypad_command reached.2 value typing.use

end Runs

private def twoFields : List (Event Json) :=
  [.subTap .bdCur, .key (.char '9'), .key .cancel, .subTap .nzCur, .key (.char '2'),
    .key (.char '4'), .linkLost, .key (.char '0')]

/-- The bed's field is left for the nozzle's, and the link drops while it is typed. -/
theorem number_reaches_field_nozzle :
    let reached := run (observed watchTyping step) (none, (Panel.initial : Panel ZStack)) twoFields
    reached.1 = some ⟨.nozzle, "240"⟩ ∧
      dispatched reached.2 (.key .ok : Event Json) = Typing.commands ⟨.nozzle, "240"⟩ := by
  intro reached
  have typed : reached.1 = some ⟨.nozzle, "240"⟩ := by rfl
  exact ⟨typed, (number_reaches_field (L := ZStack) twoFields).2 _ typed⟩

end GrumpyScreen
