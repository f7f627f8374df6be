import GrumpyScreen.Delta
import GrumpyScreen.Machine

/-! What the calls of a handler can do, stated once per call: the commands they
send, the overlays they raise, the confirmation they open, and the parts of the
panel no call touches. -/

namespace GrumpyScreen

open Lib

/-- The commands a call sends. -/
def Effect.commands : Effect → List Command
  | .send command => [command]
  | .act _ script => [.gcode script]
  | .populateFiles => [.filesList]
  | .spawnUpdate => [.updateRun]
  | .printStart filename => [.printStart filename]
  | _ => []

/-- The call raises an overlay that covers the screen: the busy scrim, the
keypad or a notice. The confirm dialog is not one of them. -/
def Effect.raises : Effect → Bool
  | .act _ _ | .busy _ | .keypad _ | .notice _ => true
  | _ => false

/-- The confirmation a call opens. -/
def Effect.opens : Effect → Option Action
  | .confirm _ action => some action
  | _ => none

def commandsOf (effects : List Effect) : List Command := effects.flatMap Effect.commands

/-- The confirmation a handler leaves open. -/
def opensOf (effects : List Effect) : Option Action := effects.reverse.findSome? Effect.opens

section Perform

variable {L : Type → Type} [Layer L] (p : Panel L)

/-- The closures a confirmation runs open no dialog. -/
theorem runAction_opens (action : Action) :
    ∀ effect ∈ runAction p action, effect.opens = none := by
  cases action with
  | bedMesh =>
    simp only [runAction]
    split <;> simp [Effect.opens]
  | inputShaper =>
    simp only [runAction]
    split <;> simp [Effect.opens]
  | install =>
    simp only [runAction]
    split <;> simp [Effect.opens]
  | _ => simp [runAction, Effect.opens]

variable [LawfulLayer L]

@[simp] theorem showPono_dash (screen : Screen) : (showPono screen p).dash = p.dash := rfl

@[simp] theorem backToHome_dash : (backToHome p).dash = p.dash := rfl

/-- A check of the release moves the flag and the text of the check and hides the install
chip, or does nothing. -/
theorem perform_checkUpdate :
    ∃ checking status hidden, (hidden = false → p.dash.installHidden = false) ∧
      perform p .checkUpdate =
        { p with
          ui := { p.ui with updateChecking := checking, updateStatus := status }
          dash := { p.dash with installHidden := hidden } } := by
  simp only [perform, checkUpdate]
  split
  · exact ⟨_, _, _, id, rfl⟩
  · exact ⟨true, _, true, fun shown => Bool.noConfusion shown, rfl⟩

theorem perform_sent (effect : Effect) :
    (perform p effect).sent = p.sent ++ effect.commands := by
  cases effect with
  | checkUpdate =>
    obtain ⟨_, _, _, -, left⟩ := perform_checkUpdate p
    rw [left]
    exact (List.append_nil _).symm
  | _ => simp [perform, send, showPono, backToHome, showHome, Effect.commands]

theorem performAll_sent (effects : List Effect) :
    (performAll p effects).sent = p.sent ++ commandsOf effects := by
  induction effects generalizing p with
  | nil => simp [performAll, commandsOf]
  | cons effect rest ih =>
    have later : (performAll (perform p effect) rest).sent = _ := ih (perform p effect)
    rw [perform_sent, List.append_assoc] at later
    simpa [performAll, commandsOf] using later

theorem perform_track (effect : Effect) : (perform p effect).track = p.track := by
  cases effect with
  | checkUpdate =>
    obtain ⟨_, _, _, -, left⟩ := perform_checkUpdate p
    rw [left]
  | _ => rfl

theorem performAll_track (effects : List Effect) : (performAll p effects).track = p.track := by
  induction effects generalizing p with
  | nil => rfl
  | cons effect rest ih => exact (ih (perform p effect)).trans (perform_track p effect)

/-- What a call leaves of the dashboard: at most the install chip and a fan's
label move. -/
theorem perform_dash (effect : Effect) :
    ∃ fans hidden, (perform p effect).dash =
      { p.dash with fans := fans, installHidden := hidden } := by
  cases effect with
  | checkUpdate =>
    obtain ⟨_, _, _, -, left⟩ := perform_checkUpdate p
    rw [left]
    exact ⟨_, _, rfl⟩
  | _ => exact ⟨_, _, rfl⟩

theorem performAll_dash (effects : List Effect) :
    ∃ fans hidden, (performAll p effects).dash =
      { p.dash with fans := fans, installHidden := hidden } := by
  induction effects generalizing p with
  | nil => exact ⟨_, _, rfl⟩
  | cons effect rest ih =>
    obtain ⟨fans, hidden, first⟩ := perform_dash p effect
    obtain ⟨fans', hidden', later⟩ := ih (perform p effect)
    refine ⟨fans', hidden', ?_⟩
    rw [first] at later
    exact later

theorem perform_pending (effect : Effect) :
    (perform p effect).ov.pending = effect.opens.or p.ov.pending := by
  cases effect with
  | checkUpdate =>
    obtain ⟨_, _, _, -, left⟩ := perform_checkUpdate p
    rw [left]
    rfl
  | _ => rfl

theorem performAll_pending (effects : List Effect) :
    (performAll p effects).ov.pending = (opensOf effects).or p.ov.pending := by
  induction effects generalizing p with
  | nil => rfl
  | cons effect rest ih =>
    have later : (performAll (perform p effect) rest).ov.pending = _ := ih (perform p effect)
    rw [perform_pending] at later
    show (performAll (perform p effect) rest).ov.pending = _
    rw [later, opensOf, opensOf, List.reverse_cons, List.findSome?_append]
    cases List.findSome? Effect.opens rest.reverse <;> simp

theorem perform_layer (effect : Effect) :
    (perform p effect).ov.layer =
      match effect with
      | .act _ _ | .busy _ => p.ov.layer.raise .busy
      | .confirm _ _ => (p.ov.layer.raise .confirmScrim).raise .confirmCard
      | .notice _ => (p.ov.layer.raise .noticeScrim).raise .noticeCard
      | .keypad _ => (p.ov.layer.raise .numScrim).raise .numCard
      | _ => p.ov.layer := by
  cases effect with
  | checkUpdate =>
    obtain ⟨_, _, _, -, left⟩ := perform_checkUpdate p
    rw [left]
  | _ => rfl

theorem perform_logbook (effect : Effect) :
    (perform p effect).ov.logbook = p.ov.logbook := by
  cases effect with
  | checkUpdate =>
    obtain ⟨_, _, _, -, left⟩ := perform_checkUpdate p
    rw [left]
  | _ => rfl

theorem perform_clock (effect : Effect) :
    (perform p effect).ov.clock = p.ov.clock ∧ (perform p effect).lastStatus = p.lastStatus := by
  cases effect with
  | checkUpdate =>
    obtain ⟨_, _, _, -, left⟩ := perform_checkUpdate p
    rw [left]
    exact ⟨rfl, rfl⟩
  | _ => exact ⟨rfl, rfl⟩

/-- An invariant every call keeps is kept by a handler. -/
theorem performAll_invariant (Inv : Panel L → Prop) {effects : List Effect}
    (kept : ∀ p, Inv p → ∀ effect ∈ effects, Inv (perform p effect)) (holds : Inv p) :
    Inv (performAll p effects) := by
  induction effects generalizing p with
  | nil => exact holds
  | cons effect rest ih =>
    refine ih (perform p effect) (fun p inv later member => ?_) ?_
    · exact kept p inv later (List.mem_cons_of_mem effect member)
    · exact kept p holds effect (List.mem_cons_self ..)

end Perform

section Step

open Exec

variable {L : Type → Type} [Layer L] {J : Type} [JsonLib J]

section Files

theorem listEntry_preserves {I : Panel L → Prop} (gen : UInt32) (f : J)
    (name : ∀ p path, I p → I { p with ui.filesNames := p.ui.filesNames ++ [path] })
    (added : ∀ p path size, I p → I (addFile gen path size p)) : Preserves I (listEntry gen f) := by
  refine Preserves.bind (Preserves.ofExcept _) fun path => ?_
  refine Preserves.ite (Preserves.pure _) ?_
  refine Preserves.bind (Preserves.modify fun p holds => name p path holds) fun _ => ?_
  refine Preserves.bind (Preserves.ofExcept _) fun size => ?_
  exact Preserves.modify fun p holds => added p path size holds

theorem filesReply_writes {I : Panel L → Prop} (j : J)
    (cleared : ∀ p, I p → I { p with ui := clearFiles p.ui })
    (name : ∀ p path, I p → I { p with ui.filesNames := p.ui.filesNames ++ [path] })
    (added : ∀ p gen path size, I p → I (addFile gen path size p))
    (none : ∀ p, I p → I { p with ui := showNoFiles p.ui }) : Preserves I (filesReply j) := by
  refine Preserves.bind (Preserves.modify cleared) fun _ => ?_
  refine Preserves.bind Preserves.get fun start => ?_
  refine Preserves.bind (Preserves.ofExcept _) fun res => ?_
  refine Preserves.bind (Preserves.forM fun f => ?_) fun _ => Preserves.modify none
  exact listEntry_preserves _ f name fun p path size holds => added p _ path size holds

theorem filesReply_preserves {I : Panel L → Prop} (j : J)
    (ui : ∀ p ui, I p → I { p with ui := ui })
    (added : ∀ p gen path size, I p → I (addFile gen path size p)) :
    Preserves I (filesReply j) :=
  filesReply_writes j (fun p holds => ui p _ holds) (fun p _ holds => ui p _ holds) added
    fun p holds => ui p _ holds

theorem metadataReply_writes {I : Panel L → Prop} (captured : FileMeta) (s : State J) (j : J)
    (applied : ∀ p row thumb zoom detail, I p →
      I { p with ui := filesApplyMeta row thumb zoom detail p.ui }) :
    Preserves I (metadataReply captured s j) := by
  refine Preserves.bind Preserves.get fun start => ?_
  refine Preserves.ite (Preserves.pure _) ?_
  refine Preserves.bind (Preserves.ofExcept _) fun thumb => ?_
  exact Preserves.bind (Preserves.ofExcept _) fun detail =>
    Preserves.modify fun p holds => applied p _ _ _ _ holds

theorem metadataReply_preserves {I : Panel L → Prop} (captured : FileMeta) (s : State J) (j : J)
    (ui : ∀ p ui, I p → I { p with ui := ui }) : Preserves I (metadataReply captured s j) :=
  metadataReply_writes captured s j fun p _ _ _ _ holds => ui p _ holds

theorem filesReply_sent (sent : List Command) (j : J) :
    Preserves (fun p : Panel L => ∃ names : List String,
      p.sent = sent ++ names.map .fileMetadata) (filesReply j) := by
  refine filesReply_preserves j (fun _ _ same => same) ?_
  rintro p gen path size ⟨names, same⟩
  exact ⟨names ++ [path], by simp [addFile, send, same]⟩

theorem filesReply_view [LawfulLayer L] (view : Panel L → β)
    (blind : ∀ p ui waits sent, view { p with ui := ui, waits := waits, sent := sent } = view p)
    (j : J) (p : Panel L) : view (step p (.filesReply j)) = view p := by
  simp only [step]
  split
  · rfl
  · have kept : Preserves (fun q : Panel L => view q = view p) (filesReply j) := by
      refine filesReply_preserves j (fun q ui same => ?_) fun q gen path size same => ?_
      · exact (blind q ui q.waits q.sent).trans same
      · exact (blind q _ _ _).trans same
    exact kept.final (blind p p.ui _ p.sent)

theorem metadataReply_view [LawfulLayer L] (view : Panel L → β)
    (blind : ∀ p ui waits, view { p with ui := ui, waits := waits } = view p)
    (i : Nat) (s : State J) (j : J) (p : Panel L) :
    view (step p (.metadataReply i s j)) = view p := by
  simp only [step]
  split
  · next captured _ =>
    have kept : Preserves (fun q : Panel L => view q = view p) (metadataReply captured s j) :=
      metadataReply_preserves captured s j fun q ui same => (blind q ui q.waits).trans same
    exact kept.final (blind p p.ui _)
  · rfl

end Files

theorem tick_dash (p : Panel L) (t : Tick) : (tick p t).dash = p.dash := by
  cases t <;> rfl

theorem tick_layer (p : Panel L) (t : Tick) : (tick p t).ov.layer = p.ov.layer := by
  cases t <;> rfl

theorem loopPass_view [LawfulLayer L] (view : Panel L → β)
    (blind : ∀ p scr asleep, view { p with scr := scr, asleep := asleep } = view p)
    (inactive : Bool) (p : Panel L) : view (loopPass inactive p) = view p := by
  unfold loopPass
  split
  · exact blind p _ _
  · split
    · exact blind p _ _
    · rfl

theorem ticks_view (view : Panel L → β) (kept : ∀ p t, view (tick p t) = view p)
    (between : List Tick) (p : Panel L) : view (between.foldl tick p) = view p := by
  induction between generalizing p with
  | nil => rfl
  | cons t rest ih => exact (ih (tick p t)).trans (kept p t)

/-- The readout is stale: something is going on and ten seconds passed without
a status message. -/
def Panel.readoutStale (p : Panel L) : Bool :=
  (p.dash.printing || p.dash.paused || p.dash.busy) && p.msSinceStatusUpdate ≥ staleAfterMs

theorem checkReadout_of_stale {p : Panel L} (stale : p.readoutStale = true) :
    checkReadout p =
      { p with dash :=
          { homeSetStale (p.msSinceStatusUpdate / 1000) p.dash with staleShown := true } } := by
  have live : (p.dash.printing || p.dash.paused || p.dash.busy) = true :=
    (Bool.and_eq_true _ _ ▸ stale).1
  unfold Panel.readoutStale at stale
  rw [live] at stale
  unfold checkReadout
  simp only [live, if_true, stale]

theorem checkReadout_of_fresh {p : Panel L} (fresh : p.readoutStale = false) :
    checkReadout p =
      if p.dash.staleShown then
        { p with dash := { homeSetStale (-1) p.dash with staleShown := false } }
      else p := by
  unfold Panel.readoutStale at fresh
  unfold checkReadout
  by_cases live : (p.dash.printing || p.dash.paused || p.dash.busy) = true
  · rw [live] at fresh
    simp only [live, if_true, fresh, Bool.false_eq_true, if_false]
  · simp only [live, Bool.false_and, Bool.false_eq_true, if_false]

theorem checkReadout_ov (p : Panel L) :
    (checkReadout p).ov = p.ov ∧ (checkReadout p).track = p.track := by
  cases stale : p.readoutStale with
  | true =>
    rw [checkReadout_of_stale stale]
    exact ⟨rfl, rfl⟩
  | false =>
    rw [checkReadout_of_fresh stale]
    split <;> exact ⟨rfl, rfl⟩

theorem checkReadout_dash (p : Panel L) :
    ∃ cockpit stale, (checkReadout p).dash =
      { p.dash with cockpit := cockpit, staleShown := stale } := by
  cases stale : p.readoutStale with
  | true =>
    rw [checkReadout_of_stale stale]
    exact ⟨_, _, rfl⟩
  | false =>
    rw [checkReadout_of_fresh stale]
    by_cases shown : p.dash.staleShown = true
    · rw [if_pos shown]
      exact ⟨_, _, rfl⟩
    · rw [if_neg shown]
      exact ⟨_, _, rfl⟩

variable [LawfulLayer L]

theorem consume_view (view : Panel L → β)
    (blind : ∀ p dash ov track, view { p with dash := dash, ov := ov, track := track } = view p)
    (j : J) (p : Panel L) : view (final (consume j) p) = view p := by
  have overlay : ∀ (q : Panel L) printing, view (calOverlayStage printing q) = view q := by
    intro q printing
    unfold calOverlayStage
    split
    · split
      · exact blind q _ _ _
      · rfl
    · split
      · exact blind q _ _ _
      · rfl
  have logbook : ∀ (q : Panel L) printing, view (logbookStage printing q) = view q := by
    intro q printing
    unfold logbookStage
    split
    · split
      · exact blind q _ _ _
      · rfl
    · split
      · exact blind q _ _ _
      · rfl
  unfold final
  rcases consume_cases p j with ⟨d, printing, -, -, ran⟩ | ⟨d, thrown, -, ran⟩
  · rw [ran, overlayStages, logbook, overlay]
    exact blind p d _ _
  · rw [ran]
    exact blind p d _ _

theorem checkStale_view (view : Panel L → β)
    (blind : ∀ p dash ov track last,
      view { p with dash := dash, ov := ov, track := track, lastStatus := last } = view p)
    (between : List Tick) (p : Panel L) : view (checkStale between p) = view p := by
  have clock : ∀ (q : Panel L) (t : Tick), view (tick q t) = view q := by
    intro q t
    cases t with
    | elapse ms => exact blind q _ _ _ _
    | stamp => exact blind q _ _ _ _
  have contact : ∀ q : Panel L, view (checkContact q) = view q := by
    intro q
    simp only [checkContact]
    split
    · split
      · exact blind q _ _ _ _
      · split
        · exact blind q _ _ _ _
        · rfl
    · rfl
  rw [checkStale, contact, ticks_view view clock]
  cases stale : p.readoutStale with
  | true =>
    rw [checkReadout_of_stale stale]
    exact blind p _ _ _ _
  | false =>
    rw [checkReadout_of_fresh stale]
    split
    · exact blind p _ _ _ _
    · rfl

theorem confirmTap_confirm (p : Panel L) :
    confirmTap .confirm p =
      { performAll { p with ov := hideConfirm p.ov } (p.ov.pending.elim [] (runAction p)) with
        ov.pending := none } := by
  cases pending : p.ov.pending with
  | none => simp [confirmTap, pending, performAll]
  | some action =>
    -- the closures read the print state only, which the hide leaves alone
    have same : runAction { p with ov := hideConfirm p.ov } action = runAction p action := by
      cases action <;> rfl
    simp [confirmTap, pending, same]

theorem confirmTap_eq (target : ConfirmTarget) (p : Panel L) :
    ∃ effects, (effects = [] ∨ target = .confirm ∧
        ∃ action, p.ov.pending = some action ∧ effects = runAction p action) ∧
      confirmTap target p =
        { performAll { p with ov := hideConfirm p.ov } effects with ov.pending := none } := by
  cases target with
  | confirm =>
    refine ⟨_, ?_, confirmTap_confirm p⟩
    cases pending : p.ov.pending with
    | none => exact Or.inl rfl
    | some action => exact Or.inr ⟨rfl, action, rfl, rfl⟩
  | cancel => exact ⟨[], Or.inl rfl, by simp [confirmTap, performAll]⟩
  | scrim => exact ⟨[], Or.inl rfl, by simp [confirmTap, performAll]⟩

/-- The three writers of status: the delta, the snapshot and the staleness timer. -/
def Event.isStatus : Event J → Bool
  | .delta _ | .seed _ | .staleTick _ => true
  | _ => false

theorem keypadInput_dash (p : Panel L) (key : Key) :
    ∃ fans hidden, (keypadInput p key).dash =
      { p.dash with fans := fans, installHidden := hidden } := by
  cases key with
  | ok =>
    simp only [keypadInput]
    split
    · exact performAll_dash p _
    · exact ⟨_, _, rfl⟩
  | _ => exact ⟨_, _, rfl⟩

theorem sliderInput_dash (p : Panel L) (slider : Slider) (value : Int) :
    ∃ fans hidden, (sliderInput slider value p).dash =
      { p.dash with fans := fans, installHidden := hidden } := by
  cases slider with
  | fan i =>
    let moved : Panel L :=
      { p with dash := { p.dash with fans := { p.dash.fans with
          slider := Function.update p.dash.fans.slider i value
          held := Function.update p.dash.fans.held i false } } }
    obtain ⟨fans, hidden, same⟩ := performAll_dash moved (fanSliderCb moved (.fan i) value)
    exact ⟨fans, hidden, same⟩
  | tuneSpeed => exact performAll_dash p _
  | loadLength => exact performAll_dash p _

theorem confirmTap_dash (p : Panel L) (target : ConfirmTarget) :
    ∃ fans hidden, (confirmTap target p).dash =
      { p.dash with fans := fans, installHidden := hidden } := by
  obtain ⟨effects, -, same⟩ := confirmTap_eq target p
  rw [same]
  exact performAll_dash { p with ov := hideConfirm p.ov } effects

theorem printStartReply_dash (p : Panel L) (j : J) : (printStartReply j p).dash = p.dash := by
  unfold printStartReply
  split
  · split <;> rfl
  · rfl

theorem updateFinished_dash (p : Panel L) (rc : Int) (refused : String) :
    ∃ hidden, (updateFinished rc refused p).dash = { p.dash with installHidden := hidden } := by
  refine ⟨if rc = 0 then p.dash.installHidden else true, ?_⟩
  simp only [updateFinished]
  by_cases named : (if rc = 0 then "" else refused) = ""
  · rw [if_pos named]
  · rw [if_neg named]

theorem checkContact_dash (p : Panel L) : (checkContact p).dash = p.dash := by
  unfold checkContact
  split
  · simp only
    split
    · rfl
    · split <;> rfl
  · rfl

theorem checkStale_dash (p : Panel L) (between : List Tick) :
    (checkStale between p).dash = (checkReadout p).dash := by
  unfold checkStale
  rw [checkContact_dash, ticks_view Panel.dash tick_dash]

theorem staleTick_dash (p : Panel L) (between : List Tick) :
    ∃ cockpit stale, (step p (.staleTick between : Event J)).dash =
      { p.dash with cockpit := cockpit, staleShown := stale } := by
  obtain ⟨cockpit, stale, same⟩ := checkReadout_dash p
  exact ⟨cockpit, stale, (checkStale_dash p between).trans same⟩

/-- Outside the writers of status the dashboard moves in its fans, the install chip,
the sensor rows and, on a link loss, the busy flag. -/
theorem step_dash (p : Panel L) (event : Event J) (other : event.isStatus = false) :
    ∃ fans hidden busy sensors, (step p event).dash =
      { p.dash with
        fans := fans, installHidden := hidden, busy := busy, sensors := sensors } ∧
      (event ≠ .linkLost → busy = p.dash.busy) := by
  cases event with
  | delta j => simp [Event.isStatus] at other
  | seed j => simp [Event.isStatus] at other
  | homeTap button =>
    obtain ⟨fans, hidden, same⟩ := performAll_dash p (homeTap p button)
    exact ⟨fans, hidden, _, _, same, fun _ => rfl⟩
  | subTap button =>
    obtain ⟨fans, hidden, same⟩ := performAll_dash p (subTap p button)
    exact ⟨fans, hidden, _, _, same, fun _ => rfl⟩
  | fileRow idx =>
    obtain ⟨fans, hidden, same⟩ := performAll_dash p (fileRowCb p idx)
    exact ⟨fans, hidden, _, _, same, fun _ => rfl⟩
  | estopTap =>
    obtain ⟨fans, hidden, same⟩ := performAll_dash p estopTap
    exact ⟨fans, hidden, _, _, same, fun _ => rfl⟩
  | callogStop =>
    obtain ⟨fans, hidden, same⟩ := performAll_dash p callogStop
    exact ⟨fans, hidden, _, _, same, fun _ => rfl⟩
  | slider slider value =>
    obtain ⟨fans, hidden, same⟩ := sliderInput_dash p slider value
    exact ⟨fans, hidden, _, _, same, fun _ => rfl⟩
  | confirmTap target =>
    obtain ⟨fans, hidden, same⟩ := confirmTap_dash p target
    exact ⟨fans, hidden, _, _, same, fun _ => rfl⟩
  | key key =>
    obtain ⟨fans, hidden, same⟩ := keypadInput_dash p key
    exact ⟨fans, hidden, _, _, same, fun _ => rfl⟩
  | actionDone id =>
    simp only [step]
    split
    · exact ⟨_, _, _, _, rfl, fun _ => rfl⟩
    · exact ⟨_, _, _, _, rfl, fun _ => rfl⟩
  | printStartReply j =>
    simp only [step]
    split
    · exact ⟨_, _, _, _, rfl, fun _ => rfl⟩
    · exact ⟨_, _, _, _, printStartReply_dash _ j, fun _ => rfl⟩
  | filesReply j =>
    have same : (step p (.filesReply j)).dash = p.dash :=
      filesReply_view Panel.dash (fun _ _ _ _ => rfl) j p
    exact ⟨_, _, _, _, same, fun _ => rfl⟩
  | staleTick between => simp [Event.isStatus] at other
  | linkLost => exact ⟨_, _, _, _, rfl, fun linked => absurd rfl linked⟩
  | tick t => exact ⟨_, _, _, _, tick_dash p t, fun _ => rfl⟩
  | updateChecked avail latest status =>
    simp only [step]
    split
    · exact ⟨_, _, _, _, rfl, fun _ => rfl⟩
    · exact ⟨_, _, _, _, rfl, fun _ => rfl⟩
  | updateFinished rc refused =>
    simp only [step]
    split
    · exact ⟨_, _, _, _, rfl, fun _ => rfl⟩
    · obtain ⟨hidden, same⟩ := updateFinished_dash
        { p with waits := { p.waits with updateRuns := p.waits.updateRuns - 1 } } rc refused
      exact ⟨_, hidden, _, _, same, fun _ => rfl⟩
  | metadataReply i s j =>
    have same : (step p (.metadataReply i s j)).dash = p.dash :=
      metadataReply_view Panel.dash (fun _ _ _ => rfl) i s j p
    exact ⟨_, _, _, _, same, fun _ => rfl⟩
  | loopPass inactive =>
    have same : (step p (.loopPass inactive : Event J)).dash = p.dash :=
      loopPass_view Panel.dash (fun _ _ _ => rfl) inactive p
    exact ⟨_, _, _, _, same, fun _ => rfl⟩
  | _ => exact ⟨_, _, _, _, rfl, fun _ => rfl⟩

/-- The end of an action, of a check and of an update, and time that goes by. -/
def Event.isSide : Event J → Bool
  | .actionDone _ | .updateChecked _ _ _ | .updateFinished _ _ | .tick _ => true
  | _ => false

theorem side_view {β : Type} (view : Panel L → β)
    (kept : ∀ (p : Panel L) dash ov shown text checking avail status actions runs last,
      view
        { p with
          dash := dash
          ov := ov
          track := { p.track with calOverlay := shown, calOverlayText := text }
          ui := { p.ui with
            updateChecking := checking, updateAvail := avail, updateStatus := status }
          waits := { p.waits with actions := actions, updateRuns := runs }
          lastStatus := last } = view p)
    (p : Panel L) (event : Event J) (side : event.isSide = true) :
    view (step p event) = view p := by
  cases event with
  | actionDone id =>
    simp only [step]
    split
    · exact kept p _ _ _ _ _ _ _ _ _ _
    · rfl
  | updateChecked avail latest status =>
    simp only [step]
    split
    · exact kept p _ _ _ _ _ _ _ _ _ _
    · rfl
  | updateFinished rc refused =>
    simp only [step, updateFinished]
    generalize (if rc = 0 then "" else refused) = named
    split
    · rfl
    · split
      · exact kept p _ _ _ _ _ _ _ _ _ _
      · exact kept p _ _ _ _ _ _ _ _ _ _
  | tick t =>
    cases t with
    | elapse ms => exact kept p _ _ _ _ _ _ _ _ _ _
    | stamp => exact kept p _ _ _ _ _ _ _ _ _ _
  | _ => cases side

end Step

section Dispatch

open Exec

variable {L : Type → Type} [Layer L] {J : Type}

/-- The calls an event's handler makes. -/
def Event.effects (p : Panel L) : Event J → List Effect
  | .homeTap button => GrumpyScreen.homeTap p button
  | .subTap button => GrumpyScreen.subTap p button
  | .fileRow idx => fileRowCb p idx
  | .slider control value => fanSliderCb p control value
  | .estopTap => GrumpyScreen.estopTap
  | .callogStop => GrumpyScreen.callogStop
  | .confirmTap .confirm =>
    match p.ov.pending with
    | some action => runAction p action
    | none => []
  | .key .ok =>
    match stod p.ov.keypad.text, p.ov.keypad.readyCb with
    | some value, some use => runKeypad p value use
    | _, _ => []
  | _ => []

/-- What holds of no calls and of the calls each handler makes holds of the calls of
every event. -/
theorem effects_of_handlers (Q : List Effect → Prop) {p : Panel L} {event : Event J}
    (silent : Q []) (home : ∀ button, Q (homeTap p button))
    (sub : ∀ button, event = .subTap button → Q (subTap p button))
    (file : ∀ idx, Q (fileRowCb p idx)) (slid : ∀ slider value, Q (fanSliderCb p slider value))
    (estop : Q estopTap) (stop : Q callogStop) (ran : ∀ action, Q (runAction p action))
    (keyed : ∀ value use, Q (runKeypad p value use)) : Q (event.effects p) := by
  cases event with
  | homeTap button => exact home button
  | subTap button => exact sub button rfl
  | fileRow idx => exact file idx
  | slider control value => exact slid control value
  | estopTap => exact estop
  | callogStop => exact stop
  | confirmTap target =>
    cases target with
    | confirm =>
      simp only [Event.effects]
      split
      · exact ran _
      · exact silent
    | _ => exact silent
  | key key =>
    cases key with
    | ok =>
      simp only [Event.effects]
      split
      · exact keyed _ _
      · exact silent
    | _ => exact silent
  | _ => exact silent

variable [LawfulLayer L] (p : Panel L)

theorem sliderInput_sent (slider : Slider) (value : Int) :
    (sliderInput slider value p).sent = p.sent ++ commandsOf (fanSliderCb p slider value) := by
  unfold sliderInput
  rw [performAll_sent]
  cases slider <;> rfl

theorem confirmTap_sent (target : ConfirmTarget) :
    (confirmTap target p).sent =
      p.sent ++ commandsOf ((Event.confirmTap target : Event J).effects p) := by
  cases target with
  | confirm =>
    cases pending : p.ov.pending with
    | none => simp [confirmTap, Event.effects, pending, commandsOf]
    | some action =>
      simp only [confirmTap, pending, performAll_sent, Event.effects]
      cases action <;> rfl
  | cancel => simp [confirmTap, Event.effects, commandsOf]
  | scrim => simp [confirmTap, Event.effects, commandsOf]

theorem keypadInput_sent (key : Key) :
    (keypadInput p key).sent = p.sent ++ commandsOf ((Event.key key : Event J).effects p) := by
  cases key with
  | ok =>
    cases typed : stod p.ov.keypad.text with
    | none => simp [keypadInput, Event.effects, typed, commandsOf]
    | some value =>
      cases ready : p.ov.keypad.readyCb with
      | none => simp [keypadInput, Event.effects, typed, ready, commandsOf]
      | some use => simp [keypadInput, Event.effects, typed, ready, performAll_sent]
  | _ => simp [keypadInput, Event.effects, commandsOf]

/-- The commands one callback dispatches. -/
def dispatched [JsonLib J] (event : Event J) : List Command :=
  (step p event).sent.drop p.sent.length

variable [JsonLib J]

/-- A callback sends what its handler's calls send, and a Files reply asks for
the metadata of the files it lists. -/
theorem step_sent (event : Event J) :
    ∃ names : List String, (step p event).sent =
      p.sent ++ (commandsOf (event.effects p) ++ names.map .fileMetadata) := by
  have only : ∀ sent, sent = p.sent ++ commandsOf (event.effects p) → ∃ names : List String,
      sent = p.sent ++ (commandsOf (event.effects p) ++ names.map .fileMetadata) := by
    rintro sent rfl
    exact ⟨[], by simp⟩
  cases event with
  | homeTap button => exact only _ (performAll_sent p _)
  | subTap button => exact only _ (performAll_sent p _)
  | fileRow idx => exact only _ (performAll_sent p _)
  | slider slider value => exact only _ (sliderInput_sent p slider value)
  | estopTap => exact only _ (performAll_sent p _)
  | callogStop => exact only _ (performAll_sent p _)
  | confirmTap target => exact only _ (confirmTap_sent p target)
  | key key => exact only _ (keypadInput_sent p key)
  | delta j =>
    have same := consume_view Panel.sent (fun _ _ _ _ => rfl) j p
    exact only _ (same.trans (List.append_nil p.sent).symm)
  | filesReply j =>
    simp only [step, Event.effects, commandsOf, List.flatMap_nil, List.nil_append]
    split
    · exact ⟨[], by simp⟩
    · exact (filesReply_sent p.sent j).final ⟨[], by simp⟩
  | staleTick between =>
    have same := checkStale_view Panel.sent (fun _ _ _ _ _ => rfl) between p
    exact only _ (same.trans (List.append_nil p.sent).symm)
  | printStartReply j =>
    refine only _ ?_
    simp only [step, Event.effects, commandsOf, List.flatMap_nil, List.append_nil]
    split
    · rfl
    · unfold printStartReply
      split
      · split <;> rfl
      · rfl
  | updateFinished rc refused =>
    refine only _ ?_
    simp only [step, Event.effects, commandsOf, List.flatMap_nil, List.append_nil]
    split
    · rfl
    · simp only [updateFinished]
      generalize (if rc = 0 then "" else refused) = named
      split <;> rfl
  | actionDone id =>
    refine only _ ?_
    simp only [step, Event.effects, commandsOf, List.flatMap_nil, List.append_nil]
    split <;> rfl
  | updateChecked avail latest status =>
    refine only _ ?_
    simp only [step, Event.effects, commandsOf, List.flatMap_nil, List.append_nil]
    split <;> rfl
  | tick t => cases t <;> exact only _ (by simp [step, tick, Event.effects, commandsOf])
  | metadataReply i s j =>
    refine only _ ?_
    exact (metadataReply_view Panel.sent (fun _ _ _ => rfl) i s j p).trans (List.append_nil p.sent).symm
  | loopPass inactive =>
    refine only _ ?_
    exact (loopPass_view Panel.sent (fun _ _ _ => rfl) inactive p).trans (List.append_nil p.sent).symm
  | _ => exact only _ (List.append_nil p.sent).symm

theorem dispatched_eq (event : Event J) :
    ∃ names : List String,
      dispatched p event = commandsOf (event.effects p) ++ names.map .fileMetadata := by
  obtain ⟨names, sent⟩ := step_sent p event
  refine ⟨names, ?_⟩
  rw [dispatched, sent, List.drop_left]

end Dispatch

end GrumpyScreen
