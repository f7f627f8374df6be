import GrumpyScreen.Leftover

/-! Calibration runs one after the other, over a link that reports changes only:
the panel's cache of the display text against the text the printer keeps. -/

namespace GrumpyScreen

open Lib Lib.Exec

/-- What happens on a bench with a printer, the server that reports it and the panel. -/
inductive BenchEvent (J : Type) where
  -- a calibration's script sets its text, the first thing it does
  | calibrate (text : String)
  | displays (message : Option String)
  | idles (state : String)
  | report (j : J)
  | panel (event : Event J)

/-- The panel, the two fields it follows, what was last sent of them, and of the run
in progress: its text, and whether the last idle state reported was 'Printing'. -/
structure Bench (L : Type → Type) [Layer L] where
  panel : Panel L
  message : Option String
  idle : String
  sentMessage : Option String
  sentIdle : String
  reported : Bool
  text : Option String := none

section Bench

variable {L : Type → Type} [Layer L] [LawfulLayer L] {J : Type} [JsonLib J]

/-- The bench as the link comes up, the printer in any state. -/
def Bench.connect (p : Panel L) (message : Option String) (idle : String) : Bench L where
  panel := p
  message := message
  idle := idle
  sentMessage := message
  sentIdle := idle
  reported := p.dash.busy

def Bench.step (b : Bench L) : BenchEvent J → Bench L
  | .calibrate text => { b with message := some text, text := some text }
  | .displays message => { b with message := message }
  | .idles state =>
    { b with
      idle := state
      text := if b.idle = "Printing" ∧ state ≠ "Printing" then none else b.text }
  | .report j =>
    { b with
      panel := GrumpyScreen.step b.panel (.delta j)
      sentMessage := b.message
      sentIdle := b.idle
      reported := if b.sentIdle = b.idle then b.reported else b.idle = "Printing" }
  | .panel event => { b with panel := GrumpyScreen.step b.panel event }

/-- What is assumed of the outside: a script sets a text that announces a calibration,
the message stays as it is during the run, a delta carries a field exactly if its
value changed and is read to its end, and the link holds. -/
def Bench.outside (b : Bench L) : BenchEvent J → Prop
  | .calibrate text => hasPrefix "Calibrating" text = true
  | .displays _ => b.text = none
  | .idles _ => True
  | .report j =>
    deltaText j ["display_status", "message"] =
        (if b.sentMessage = b.message then none else b.message) ∧
      deltaText j ["idle_timeout", "state"] =
        (if b.sentIdle = b.idle then none else some b.idle) ∧
      (exec (consume j) b.panel).1 = .ok ⟨⟩
  | .panel event => event ≠ .linkLost ∧ ∀ j, event ≠ .delta j

/-- Nothing takes the overlay down, or over, behind the back of the panel. -/
def Bench.spared (b : Bench L) : BenchEvent J → Prop
  | .report j => spares b.panel (.delta j)
  | .panel event => spares b.panel event
  | _ => True

/-- The calibration overlay is up with the text. -/
def CalShown (p : Panel L) (text : String) : Prop :=
  p.track.calOverlay = true ∧ p.ov.layer.Shown .busy ∧ p.ov.busy.text = text

/-- The overlay is tracked, the busy flag is the idle state that was reported last,
and the printer keeps the text of the run in progress. -/
structure Benched (b : Bench L) : Prop where
  tracked : ∃ owned, Tracked owned b.panel
  busy : b.panel.dash.busy = b.reported
  kept : ∀ text, b.text = some text → b.message = some text ∧ hasPrefix "Calibrating" text = true

theorem consume_core {p : Panel L} {j : J} (returned : (exec (consume j) p).1 = .ok ⟨⟩) :
    (step p (.delta j)).dash.core = p.dash.core.next j := by
  rcases consume_cases p j with ⟨d, printing, -, core, ran⟩ | ⟨d, thrown, -, ran⟩
  · have reached : step p (.delta j) = overlayStages { p with dash := d } := congrArg Prod.snd ran
    rw [reached, ← core]
    simp [overlayStages]
  · rw [ran] at returned
    cases returned

theorem step_busyFlag (p : Panel L) (event : Event J) (linked : event ≠ .linkLost)
    (other : ∀ j, event ≠ .delta j) : (step p event).dash.busy = p.dash.busy := by
  cases status : event.isStatus with
  | false =>
    obtain ⟨fans, hidden, busy, sensors, same, kept⟩ := step_dash p event status
    rw [same]
    exact kept linked
  | true =>
    cases event with
    | delta j => exact absurd rfl (other j)
    | seed j =>
      have kept := init_operation (fun busy _ => busy = p.dash.busy) j
      exact kept.final rfl
    | staleTick between =>
      obtain ⟨cockpit, stale, moved⟩ := staleTick_dash (J := J) p between
      rw [moved]
    | _ => cases status

theorem report_core {b : Bench L} {j : J} (outside : b.outside (.report j)) :
    let q := b.step (.report j)
    q.panel.dash.busy = (if b.sentIdle = b.idle then b.panel.dash.busy else b.idle = "Printing") ∧
      (b.sentMessage ≠ b.message → ∀ text, b.message = some text → q.panel.dash.calMsg = text) ∧
      (b.sentMessage = b.message → (b.sentIdle = b.idle ∨ b.idle = "Printing") →
        q.panel.dash.calMsg = b.panel.dash.calMsg) := by
  intro q
  obtain ⟨message, idle, returned⟩ := outside
  have core : q.panel.dash.core = b.panel.dash.core.next j := consume_core returned
  have busy : q.panel.dash.busy = (b.panel.dash.core.next j).busy := congrArg Core.busy core
  have text : q.panel.dash.calMsg = (b.panel.dash.core.next j).calMsg := congrArg Core.calMsg core
  rw [busy, text, Core.next_busy, Core.next_calMsg, message, idle]
  refine ⟨?_, ?_, ?_⟩
  · split <;> rfl
  · intro news told carried
    rw [if_neg news, carried]
    rfl
  · intro sent still
    rw [if_pos sent]
    rcases still with same | printing
    · rw [if_pos same]
      rfl
    · rw [printing]
      split
      · rfl
      · simp [Core.idle, Dash.core]

theorem step_benched (b : Bench L) (event : BenchEvent J) (before : Benched b)
    (allowed : b.outside event ∧ b.spared event) : Benched (b.step event) := by
  obtain ⟨outside, spared⟩ := allowed
  obtain ⟨owned, tracked⟩ := before.tracked
  cases event with
  | calibrate text =>
    refine ⟨⟨owned, tracked⟩, before.busy, fun told same => ?_⟩
    cases same
    exact ⟨rfl, outside⟩
  | displays message =>
    refine ⟨⟨owned, tracked⟩, before.busy, fun told same => ?_⟩
    have none : b.text = none := outside
    rw [show (b.step (.displays message : BenchEvent J)).text = b.text from rfl, none] at same
    cases same
  | idles state =>
    refine ⟨⟨owned, tracked⟩, before.busy, fun told same => ?_⟩
    by_cases ended : b.idle = "Printing" ∧ state ≠ "Printing"
    · simp only [Bench.step, if_pos ended, reduceCtorEq] at same
    · simp only [Bench.step, if_neg ended] at same
      exact before.kept told same
  | report j =>
    refine ⟨⟨_, step_tracked tracked (.delta j) spared.1⟩, ?_, before.kept⟩
    rw [(report_core outside).1, before.busy]
    by_cases same : b.sentIdle = b.idle <;> simp [Bench.step, same]
  | panel event =>
    refine ⟨⟨_, step_tracked tracked event spared.1⟩, ?_, before.kept⟩
    exact (step_busyFlag b.panel event outside.1 outside.2).trans before.busy

omit [LawfulLayer L] in
theorem connect_benched {owned : Bool} {p : Panel L} (tracked : Tracked owned p)
    (message : Option String) (idle : String) : Benched (Bench.connect p message idle) where
  tracked := ⟨owned, tracked⟩
  busy := rfl
  kept _ none := nomatch none

/-- During a run a report leaves the overlay up with its text exactly if it carries
the text, or the panel still caches it. -/
theorem report_shown_iff {b : Bench L} (before : Benched b) {j : J}
    (outside : b.outside (.report j)) (spared : b.spared (.report j)) :
    let q := b.step (.report j)
    ∀ text, q.text = some text → q.reported = true →
      q.panel.dash.printing = false → q.panel.track.promptShowing = false →
      (CalShown q.panel text ↔ b.sentMessage ≠ b.message ∨ b.panel.dash.calMsg = text) := by
  intro q text running reported printing prompt
  obtain ⟨message, announces⟩ := before.kept text running
  obtain ⟨owned, tracked⟩ := before.tracked
  obtain ⟨-, carried, cached⟩ := report_core outside
  have returned : (exec (consume j) b.panel).1 = .ok ⟨⟩ := outside.2.2
  have after : Benched q := step_benched b (.report j) before ⟨outside, spared⟩
  have busy : q.panel.dash.busy = true := after.busy.trans reported
  have still : b.sentIdle = b.idle ∨ b.idle = "Printing" := by
    by_cases same : b.sentIdle = b.idle
    · exact Or.inl same
    · right
      simpa [q, Bench.step, same] using reported
  -- the cached text after the report, in terms of what it carries
  have holds : q.panel.dash.calMsg = text ↔
      b.sentMessage ≠ b.message ∨ b.panel.dash.calMsg = text := by
    by_cases sent : b.sentMessage = b.message
    · rw [cached sent still]
      simp [sent]
    · exact iff_of_true (carried sent text message) (Or.inl sent)
  have flag : q.panel.track.calOverlay = calActive q.panel.dash.printing q.panel :=
    consume_flag returned
  have shows : calActive q.panel.dash.printing q.panel = true →
      q.panel.ov.layer.Shown .busy ∧ q.panel.ov.busy.text = q.panel.dash.calMsg :=
    (consume_agrees tracked j returned spared.2).1
  rw [← holds]
  constructor
  · rintro ⟨up, -, label⟩
    rw [← label]
    exact (shows (flag.symm.trans up)).2.symm
  · intro agrees
    have active : calActive q.panel.dash.printing q.panel = true := by
      simp [calActive, busy, printing, prompt, agrees, announces]
    obtain ⟨shown, label⟩ := shows active
    exact ⟨flag.trans active, shown, label.trans agrees⟩

/-- Any number of runs on a link that holds, whatever came before it came up: while
'Printing' is the idle state that was reported last, no print runs and no prompt is
up, each report of a run leaves the overlay up with the run's text exactly if it
carries the text, not sent before, or the panel still caches it. -/
theorem calibration_runs_shown_iff (before : List (Event J)) (message : Option String)
    (idle : String) (events : List (BenchEvent J)) (j : J)
    (calm : Along step spares (Panel.initial : Panel L) before)
    (allowed : Along Bench.step (fun b event => b.outside event ∧ b.spared event)
      (Bench.connect (after before : Panel L) message idle) (events ++ [.report j])) :
    let b := run Bench.step (Bench.connect (after before : Panel L) message idle) events
    let q := b.step (.report j)
    ∀ text, q.text = some text → q.reported = true →
      q.panel.dash.printing = false → q.panel.track.promptShowing = false →
      (CalShown q.panel text ↔ b.sentMessage ≠ b.message ∨ b.panel.dash.calMsg = text) := by
  obtain ⟨earlier, ⟨outside, spared⟩, -⟩ := (along_append _ events _).mp allowed
  have preserved : ∀ (owned : Bool) (p : Panel L) (event : Event J), Tracked owned p →
      spares p event → Tracked (watchOwner owned p event) (step p event) :=
    fun _ _ event tracked spare => step_tracked tracked event spare.1
  have tracked : Tracked (putUpByDelta L before) (after before : Panel L) :=
    calm.invariant_observed preserved tracked_initial
  have benched := earlier.invariant step_benched (connect_benched tracked message idle)
  exact report_shown_iff benched outside spared

end Bench

section Witness

/-- The input shaper's run announces itself. -/
private def shaperStarted : Json :=
  statusNotify (.obj [("idle_timeout", .obj [("state", .str "Printing")]),
    ("display_status", .obj [("message",
      .str "Calibrating Input Shaper - screen pauses briefly")])]) (.int 4)

/-- The bed mesh tile, its confirmation and the run, up to its last report. -/
private def bedMeshRun (first : Json) : List (BenchEvent Json) :=
  [.panel (.subTap (.cal 0)), .panel (.confirmTap .confirm), .calibrate "Calibrating Bed Mesh",
    .idles "Printing", .report first, .idles "Ready", .report readyAgain]

/-- A bed mesh, then the input shaper. -/
private def meshAndShaper : List (BenchEvent Json) :=
  bedMeshRun calibrationStarted ++
    [.calibrate "Calibrating Input Shaper - screen pauses briefly", .idles "Printing"]

theorem calibration_runs_shown_iff_two :
    CalShown (run Bench.step (Bench.connect (after ([] : List (Event Json)) : Panel ZStack) none "Idle")
      (meshAndShaper ++ [.report shaperStarted])).panel
      "Calibrating Input Shaper - screen pauses briefly" := by
  have allowed : Along Bench.step (fun b event => b.outside event ∧ b.spared event)
      (Bench.connect (after ([] : List (Event Json)) : Panel ZStack) none "Idle")
      (meshAndShaper ++ [.report shaperStarted]) := by
    refine ⟨⟨⟨nofun, nofun⟩, rfl, trivial⟩, ⟨⟨nofun, nofun⟩, rfl, trivial⟩, ⟨rfl, trivial⟩,
      ⟨trivial, trivial⟩, ⟨⟨rfl, rfl, rfl⟩, rfl, ?_⟩, ⟨trivial, trivial⟩,
      ⟨⟨rfl, rfl, rfl⟩, rfl, ?_⟩, ⟨rfl, trivial⟩, ⟨trivial, trivial⟩,
      ⟨⟨rfl, rfl, rfl⟩, rfl, ?_⟩, trivial⟩
    · exact fun _ => by decide +kernel
    · exact fun _ => by decide +kernel
    · exact fun _ => by decide +kernel
  exact (calibration_runs_shown_iff [] none "Idle" meshAndShaper shaperStarted trivial allowed
    _ rfl rfl rfl rfl).mpr (Or.inl (by decide))

/-- The bed mesh twice in a row: the printer's message is the same, so it is not sent
again, and the panel dropped it when the first run ended. -/
theorem same_calibration_twice_hidden :
    let connected : Bench ZStack := Bench.connect (after ([] : List (Event Json))) none "Idle"
    let events : List (BenchEvent Json) := bedMeshRun calibrationStarted ++
      [.panel (.subTap (.cal 0)), .panel (.confirmTap .confirm), .calibrate "Calibrating Bed Mesh",
        .idles "Printing"]
    let q := run Bench.step connected (events ++ [.report homingByHand])
    Along Bench.step Bench.outside connected (events ++ [.report homingByHand]) ∧
      q.text = some "Calibrating Bed Mesh" ∧ q.reported = true ∧
      q.panel.dash.printing = false ∧ q.panel.track.promptShowing = false ∧
      ¬ q.panel.ov.layer.Shown .busy := by
  refine ⟨⟨⟨nofun, nofun⟩, ⟨nofun, nofun⟩, rfl, trivial, ⟨rfl, rfl, rfl⟩, trivial, ⟨rfl, rfl, rfl⟩,
    ⟨nofun, nofun⟩, ⟨nofun, nofun⟩, rfl, trivial, ⟨rfl, rfl, rfl⟩, trivial⟩, rfl, rfl, rfl, rfl, ?_⟩
  decide +kernel

end Witness

end GrumpyScreen
