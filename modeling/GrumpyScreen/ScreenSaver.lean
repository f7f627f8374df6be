import GrumpyScreen.Pages

/-! The screen saver: over any run, what lies over it is what was brought up since the
display went to sleep. -/

namespace GrumpyScreen

open Lib Lib.Exec

/-- A child of the active screen goes to the front or to the back. -/
inductive Move where
  | front (o : ScrObj)
  | back (o : ScrObj)

/-- The page a call brings up. -/
def Effect.move : Effect → Option Move
  | .screen page => some (.front (.sub page))
  | .home => some (.front .home)
  | .wifi => some (.front .wifi)
  | _ => none

/-- What lies over the screen saver after a move. -/
def Move.track (lifted : ScrObj → Bool) : Move → ScrObj → Bool
  | .front .saver => fun _ => false
  | .back .saver => fun o => o ≠ .saver
  | .front o => Function.update lifted o true
  | .back o => Function.update lifted o false

variable {L : Type → Type} [Layer L] {J : Type} [JsonLib J]

/-- The moves of an event, in order. -/
def Event.moves (p : Panel L) : Event J → List Move
  | .wifiBack => [.back .wifi]
  | .promptShow => [.front .prompt]
  | .promptEnd => [.back .prompt]
  | .linkLost => [.back .prompt, .front .boot]
  | .linkReady => [.back .boot, .front .home]
  | .printStartReply j =>
    if p.waits.printStarts = 0 then []
    else if JsonLib.contains j "error" then []
    else [.front .home]
  | .loopPass inactive =>
    if inactive && !p.asleep then [.front .saver]
    else if !inactive && p.asleep then [.back .saver]
    else []
  | event => (event.effects p).filterMap Effect.move

/-- What was brought over the screen saver and not taken back. -/
def watchSaver (lifted : ScrObj → Bool) (p : Panel L) (event : Event J) : ScrObj → Bool :=
  (event.moves p).foldl Move.track lifted

/-- It is what lies over the saver. -/
def OverSaver (lifted : ScrObj → Bool) (t : Stack L ScrObj) : Prop :=
  ∀ o, lifted o = true ↔ t.Above .saver o

section Moves

variable {lifted : ScrObj → Bool} {t u : Stack L ScrObj} {o : ScrObj}

theorem OverSaver.front (tracks : OverSaver lifted t) (other : o ≠ .saver)
    (above : ∀ upper, u.Above .saver upper ↔
      (t.Above .saver upper ∧ upper ≠ o) ∨ (upper = o ∧ .saver ∈ Layer.children t.raw)) :
    OverSaver (Move.track lifted (.front o)) u := by
  have moved : Move.track lifted (.front o) = Function.update lifted o true := by
    cases o <;> first | rfl | exact absurd rfl other
  intro upper
  rw [moved, above]
  by_cases same : upper = o
  · subst same
    simp [screen_child]
  · rw [Function.update_of_ne same, tracks upper]
    simp [same]

theorem OverSaver.back (tracks : OverSaver lifted t) (other : o ≠ .saver)
    (above : ∀ upper, u.Above .saver upper ↔ t.Above .saver upper ∧ upper ≠ o) :
    OverSaver (Move.track lifted (.back o)) u := by
  have moved : Move.track lifted (.back o) = Function.update lifted o false := by
    cases o <;> first | rfl | exact absurd rfl other
  intro upper
  rw [moved, above]
  by_cases same : upper = o
  · subst same
    simp
  · rw [Function.update_of_ne same, tracks upper]
    simp [same]

theorem OverSaver.same (tracks : OverSaver lifted t)
    (above : ∀ upper, u.Above .saver upper ↔ t.Above .saver upper) : OverSaver lifted u :=
  fun upper => (tracks upper).trans (above upper).symm

variable [LawfulLayer L]

theorem OverSaver.raise (tracks : OverSaver lifted t) (other : o ≠ .saver) :
    OverSaver (Move.track lifted (.front o)) (t.raise o) :=
  tracks.front other fun _ => Stack.above_raise other.symm

theorem OverSaver.foreground (tracks : OverSaver lifted t) (other : o ≠ .saver) :
    OverSaver (Move.track lifted (.front o)) (t.foreground o) :=
  tracks.front other fun _ => Stack.above_foreground other.symm

theorem OverSaver.background (tracks : OverSaver lifted t) (other : o ≠ .saver) :
    OverSaver (Move.track lifted (.back o)) (t.background o) :=
  tracks.back other fun _ => Stack.above_background other.symm

theorem OverSaver.drop (tracks : OverSaver lifted t) (other : o ≠ .saver) :
    OverSaver (Move.track lifted (.back o)) (t.drop o) :=
  tracks.back other fun _ => Stack.above_drop other.symm

theorem tracks_asleep (lifted : ScrObj → Bool) (t : Stack L ScrObj) :
    OverSaver (Move.track lifted (.front .saver)) (t.foreground .saver) := fun _ =>
  iff_of_false Bool.false_ne_true Stack.not_above_foreground_self

theorem tracks_awake (lifted : ScrObj → Bool) (t : Stack L ScrObj) :
    OverSaver (Move.track lifted (.back .saver)) (t.background .saver) := by
  intro upper
  rw [Stack.above_background_self]
  simp [Move.track, screen_child]

theorem perform_tracks (p : Panel L) (tracks : OverSaver lifted p.scr) (effect : Effect) :
    OverSaver (effect.move.elim lifted (Move.track lifted)) (perform p effect).scr := by
  have hidden : OverSaver lifted (subsHidden p.scr) :=
    tracks.same fun _ => subsHidden_above p.scr .saver _
  rw [perform_scr]
  cases effect with
  | screen page =>
    have concealed : OverSaver lifted ((subsHidden p.scr).conceal .home) :=
      hidden.same fun _ => Stack.above_conceal
    exact concealed.raise (o := .sub page) (by simp)
  | home => exact hidden.raise (o := .home) (by simp)
  | wifi => exact tracks.foreground (o := .wifi) (by simp)
  | _ => exact tracks

theorem performAll_tracks (p : Panel L) (tracks : OverSaver lifted p.scr) (effects : List Effect) :
    OverSaver ((effects.filterMap Effect.move).foldl Move.track lifted)
      (performAll p effects).scr := by
  induction effects generalizing p lifted with
  | nil => exact tracks
  | cons effect rest ih =>
    have later := ih (perform p effect) (perform_tracks p tracks effect)
    cases moved : effect.move with
    | none =>
      rw [moved] at later
      rw [List.filterMap_cons_none moved]
      exact later
    | some m =>
      rw [moved] at later
      rw [List.filterMap_cons_some moved]
      exact later

end Moves

section Runs

variable [LawfulLayer L] {lifted : ScrObj → Bool} {p : Panel L}

theorem handled_tracks (tracks : OverSaver lifted p.scr) {event : Event J}
    (tap : event.isHandled = true) :
    OverSaver (((event.effects p).filterMap Effect.move).foldl Move.track lifted)
      (step p event).scr := by
  cases event with
  | homeTap button => exact performAll_tracks p tracks _
  | subTap button => exact performAll_tracks p tracks _
  | fileRow idx => exact performAll_tracks p tracks _
  | estopTap => exact performAll_tracks p tracks _
  | callogStop => exact performAll_tracks p tracks _
  | slider slider value =>
    cases slider with
    | fan i =>
      let moved : Panel L :=
        { p with dash := { p.dash with fans := { p.dash.fans with
            slider := Function.update p.dash.fans.slider i value
            held := Function.update p.dash.fans.held i false } } }
      exact performAll_tracks moved tracks _
    | tuneSpeed => exact performAll_tracks p tracks _
    | loadLength => exact performAll_tracks p tracks _
  | confirmTap target =>
    let hidden : Panel L := { p with ov := hideConfirm p.ov }
    cases target with
    | confirm =>
      simp only [step, confirmTap, Event.effects]
      cases p.ov.pending with
      | none => exact tracks
      | some action => exact performAll_tracks hidden tracks _
    | _ => exact tracks
  | key key =>
    cases key with
    | ok =>
      simp only [step, keypadInput, Event.effects]
      cases stod p.ov.keypad.text with
      | none => exact tracks
      | some value =>
        cases p.ov.keypad.readyCb with
        | none => exact tracks
        | some use => exact performAll_tracks p tracks _
    | _ => exact tracks
  | _ => cases tap

theorem step_tracks (tracks : OverSaver lifted p.scr) (event : Event J) :
    OverSaver (watchSaver lifted p event) (step p event).scr := by
  have quiet : ∀ {q : Panel L}, q.scr = p.scr → OverSaver lifted q.scr :=
    fun same => same ▸ tracks
  cases handled : event.isHandled with
  | true =>
    have calls := handled_tracks tracks handled
    cases event <;> first | exact calls | cases handled
  | false =>
    cases event with
    | wifiBack => exact tracks.background (o := .wifi) (by simp)
    | promptShow => exact tracks.foreground (o := .prompt) (by simp)
    | promptEnd => exact tracks.background (o := .prompt) (by simp)
    | linkLost => exact (tracks.background (o := .prompt) (by simp)).raise (o := .boot) (by simp)
    | linkReady => exact (tracks.drop (o := .boot) (by simp)).raise (o := .home) (by simp)
    | loopPass inactive =>
      simp only [step, loopPass, watchSaver, Event.moves]
      split
      · exact tracks_asleep lifted p.scr
      · split
        · exact tracks_awake lifted p.scr
        · exact tracks
    | printStartReply j =>
      simp only [step, printStartReply, watchSaver, Event.moves]
      split
      · exact tracks
      · split
        · split <;> exact tracks
        · have hidden : OverSaver lifted (subsHidden p.scr) :=
            tracks.same fun _ => subsHidden_above p.scr .saver _
          exact hidden.raise (o := .home) (by simp)
    | delta j => exact quiet (consume_scr j p)
    | staleTick between => exact quiet (checkStale_scr between p)
    | filesReply j => exact quiet (filesReply_view Panel.scr (fun _ _ _ _ => rfl) j p)
    | metadataReply i s j => exact quiet (metadataReply_view Panel.scr (fun _ _ _ => rfl) i s j p)
    | actionDone _ | updateChecked _ _ _ | updateFinished _ _ | tick _ =>
      exact quiet (side_view Panel.scr (fun _ _ _ _ _ _ _ _ _ _ _ => rfl) p _ rfl)
    | homeTap _ | subTap _ | fileRow _ | slider _ _ | estopTap | callogStop | confirmTap _
    | key _ => cases handled
    | _ => exact tracks

theorem sleep_kept : KeptByScreens (fun (t : Stack L ScrObj) asleep _ =>
    asleep = false ↔ t.Above .saver .tabview) where
  screen t asleep prompt page awake := by
    rw [Stack.above_raise (by simp), Stack.above_conceal, subsHidden_above]
    simpa using awake
  home t asleep prompt awake := by
    rw [Stack.above_raise (by simp), subsHidden_above]
    simpa using awake
  wifi t asleep prompt awake := by
    rw [Stack.above_foreground (by simp)]
    simpa using awake
  wifiBack t asleep prompt awake := by
    rw [Stack.above_background (by simp)]
    simpa using awake
  promptUp t asleep prompt awake := by
    rw [Stack.above_foreground (by simp)]
    simpa using awake
  promptDown t asleep prompt awake := by
    rw [Stack.above_background (by simp)]
    simpa using awake
  lost t asleep prompt awake := by
    rw [Stack.above_raise (by simp)]
    simpa using awake
  ready t asleep prompt awake := by
    rw [Stack.above_raise (by simp), Stack.above_drop (by simp)]
    simpa using awake
  sleep t asleep prompt _ := by simp [Stack.not_above_foreground_self]
  wake t asleep prompt _ := by simp [Stack.above_background_self, screen_child]

theorem initial_tracks : OverSaver (fun o => o ≠ .saver) (Panel.initial : Panel L).scr := by
  have children : Layer.children (Panel.initial : Panel L).scr.raw =
      [.saver, .prompt, .wifi, .tabview, .boot, .home] ++ Screen.all.map .sub := by
    simp [Panel.initial, initialScreens, Screen.all]
  intro o
  rw [Stack.Above, Layer.Above, children]
  cases o with
  | sub s => cases s <;> decide
  | _ => decide

/-- In every run the tabs are under the screen saver exactly while the display sleeps, and
over it lies exactly what was brought up since and not taken back: whatever the link, a
prompt or an accepted print brings up in the dark lies over the saver. -/
theorem saver_covers (events : List (Event J)) :
    let lifted := (run (observed watchSaver step)
      ((fun o => o ≠ .saver : ScrObj → Bool), (Panel.initial : Panel L)) events).1
    let p : Panel L := after events
    (p.asleep = false ↔ p.scr.Above .saver .tabview) ∧
      ∀ o, lifted o = true ↔ p.scr.Above .saver o := by
  have awake : (Panel.initial : Panel L).asleep = false ↔
      (Panel.initial : Panel L).scr.Above .saver .tabview :=
    iff_of_true rfl ((initial_tracks .tabview).mp rfl)
  have preserved : ∀ (lifted : ScrObj → Bool) (q : Panel L) (event : Event J),
      OverSaver lifted q.scr → OverSaver (watchSaver lifted q event) (step q event).scr :=
    fun _ _ event tracks => step_tracks tracks event
  constructor
  · exact run_invariant (fun q : Panel L => step_screens sleep_kept q) awake events
  · exact run_invariant_observed (s := (Panel.initial : Panel L)) preserved initial_tracks events

/-- The link comes back while the display sleeps. -/
theorem saver_covers_reconnected :
    let events : List (Event Json) := [.linkReady, .loopPass true, .linkLost, .linkReady]
    let p : Panel ZStack := after events
    p.scr.Above .saver .home := by
  intro events p
  have covers := saver_covers (L := ZStack) events
  exact (covers.2 .home).mp (by decide)

end Runs

end GrumpyScreen
