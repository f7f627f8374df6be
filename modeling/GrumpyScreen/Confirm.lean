import GrumpyScreen.Frame

/-! The one confirmation slot: a ledger of what the operator opened, and what a
tap on Confirm runs. -/

namespace GrumpyScreen

open Lib Lib.Exec

section Dialog

variable {L : Type → Type} [Layer L]

/-- The slot and the dialog as they were. -/
def SameDialog (before after : Overlays L) : Prop :=
  after.pending = before.pending ∧
    (after.layer.Shown .confirmCard ↔ before.layer.Shown .confirmCard)

theorem SameDialog.refl (o : Overlays L) : SameDialog o o := ⟨rfl, Iff.rfl⟩

theorem SameDialog.trans {first second third : Overlays L} (earlier : SameDialog first second)
    (later : SameDialog second third) : SameDialog first third :=
  ⟨later.1.trans earlier.1, later.2.trans earlier.2⟩

/-- The dialog is up exactly while an action is pending. -/
def Settled (o : Overlays L) : Prop := o.layer.Shown .confirmCard ↔ o.pending.isSome = true

theorem SameDialog.settled {before after : Overlays L} (same : SameDialog before after)
    (settled : Settled before) : Settled after := by
  unfold Settled
  rw [same.1]
  exact same.2.trans settled

variable [LawfulLayer L] (o : Overlays L)

theorem busyShow_same (text : String) : SameDialog o (busyShow text o) := ⟨rfl, by simp⟩

theorem busyHide_same : SameDialog o (busyHide o) := ⟨rfl, by simp⟩

theorem calLogShow_same (view : CalLogView) : SameDialog o (calLogShow view o) := ⟨rfl, by simp⟩

theorem calLogHide_same : SameDialog o (calLogHide o) := ⟨rfl, by simp⟩

theorem notice_same (msg : String) : SameDialog o (notice msg o) := ⟨rfl, by simp [notice]⟩

theorem noticeTap_same : SameDialog o (noticeTap o) := ⟨rfl, by simp [noticeTap]⟩

theorem openKeypad_same (use : KeypadUse) : SameDialog o (openKeypad use o) :=
  ⟨rfl, by simp [openKeypad]⟩

theorem dismissKeypad_same : SameDialog o (dismissKeypad o) := ⟨rfl, by simp [dismissKeypad]⟩

theorem fireWatchdog_same (id : Nat) : SameDialog o (fireWatchdog id o) := by
  refine ⟨fireWatchdog_pending o id, ?_⟩
  rcases fireWatchdog_layer o id with same | same
  · rw [same]
  · rw [same]
    simp

theorem estopKeepalive_same : SameDialog o (estopKeepalive o) := by
  refine ⟨estopKeepalive_pending o, ?_⟩
  unfold estopKeepalive
  split
  · rfl
  · split
    · rfl
    · simp

theorem confirm_settled (msg : String) (action : Action) : Settled (confirm msg action o) := by
  simp [Settled, confirm]

theorem perform_same (p : Panel L) (effect : Effect) (opens : effect.opens = none) :
    SameDialog p.ov (perform p effect).ov := by
  cases effect with
  | confirm msg action => simp [Effect.opens] at opens
  | act text script => exact busyShow_same p.ov text
  | busy text => exact busyShow_same p.ov text
  | notice msg => exact notice_same p.ov msg
  | keypad use => exact openKeypad_same p.ov use
  | checkUpdate =>
    obtain ⟨_, _, _, -, left⟩ := perform_checkUpdate p
    rw [left]
    exact SameDialog.refl p.ov
  | _ => exact SameDialog.refl p.ov

theorem perform_settled (p : Panel L) (effect : Effect) (settled : Settled p.ov) :
    Settled (perform p effect).ov := by
  cases opened : effect.opens with
  | none => exact (perform_same p effect opened).settled settled
  | some action =>
    cases effect with
    | confirm msg action => exact confirm_settled p.ov msg action
    | _ => simp [Effect.opens] at opened

theorem performAll_settled (p : Panel L) (effects : List Effect) (settled : Settled p.ov) :
    Settled (performAll p effects).ov :=
  performAll_invariant p (fun p => Settled p.ov)
    (fun q holds effect _ => perform_settled q effect holds) settled

theorem performAll_same (p : Panel L) (effects : List Effect)
    (opens : ∀ effect ∈ effects, effect.opens = none) :
    SameDialog p.ov (performAll p effects).ov := by
  refine performAll_invariant p (fun q => SameDialog p.ov q.ov) ?_ (SameDialog.refl p.ov)
  intro q same effect member
  exact same.trans (perform_same q effect (opens effect member))

theorem confirmTap_settled (p : Panel L) (target : ConfirmTarget) :
    (confirmTap target p).ov.pending = none ∧ Settled (confirmTap target p).ov := by
  obtain ⟨effects, ran, same⟩ := confirmTap_eq target p
  rw [same]
  refine ⟨rfl, ?_⟩
  have opens : ∀ effect ∈ effects, effect.opens = none := by
    rcases ran with rfl | ⟨-, action, -, rfl⟩
    · simp
    · exact runAction_opens p action
  have shown := (performAll_same { p with ov := hideConfirm p.ov } effects opens).2
  have down : ¬ (hideConfirm p.ov).layer.Shown .confirmCard := by simp [hideConfirm]
  constructor
  · intro card
    exact absurd (shown.mp card) down
  · intro pending
    exact Bool.noConfusion pending

end Dialog

section Step

variable {L : Type → Type} [Layer L] {J : Type}

/-- The operator's events. -/
def Event.isTap : Event J → Bool
  | .homeTap _ | .subTap _ | .fileRow _ | .sliderPress _ | .slider _ _ | .estopTap
  | .callogStop | .confirmTap _ | .noticeTap | .key _ | .keypadScrim | .wifiBack => true
  | _ => false

variable [JsonLib J]

/-- The reply of a print start that reports an error whose text can be read. -/
def refusesPrint (p : Panel L) : Event J → Bool
  | .printStartReply j =>
    p.waits.printStarts ≠ 0 && JsonLib.contains j "error" && (printStartError j).toBool
  | _ => false

variable [LawfulLayer L] (p : Panel L)

theorem calOverlayStage_same (printing : Bool) :
    SameDialog p.ov (calOverlayStage printing p).ov := by
  unfold calOverlayStage
  split
  · split
    · exact busyShow_same p.ov _
    · exact SameDialog.refl p.ov
  · split
    · exact busyHide_same p.ov
    · exact SameDialog.refl p.ov

theorem logbookStage_same (printing : Bool) : SameDialog p.ov (logbookStage printing p).ov := by
  unfold logbookStage
  split
  · split
    · exact calLogShow_same p.ov _
    · exact SameDialog.refl p.ov
  · split
    · exact calLogHide_same p.ov
    · exact SameDialog.refl p.ov

theorem consume_same (j : J) : SameDialog p.ov (final (consume j) p).ov := by
  unfold final
  rcases consume_cases p j with ⟨d, printing, -, -, ran⟩ | ⟨d, thrown, -, ran⟩
  · rw [ran]
    have overlay := calOverlayStage_same { p with dash := d } d.printing
    exact overlay.trans (logbookStage_same _ d.printing)
  · rw [ran]
    exact SameDialog.refl p.ov

theorem checkStale_same (between : List Tick) : SameDialog p.ov (checkStale between p).ov := by
  have contact : ∀ q : Panel L, SameDialog q.ov (checkContact q).ov := by
    intro q
    simp only [checkContact]
    split
    · split
      · exact calLogShow_same q.ov _
      · split
        · exact calLogShow_same q.ov _
        · exact SameDialog.refl q.ov
    · exact SameDialog.refl q.ov
  have clock : ∀ (q : Panel L) (t : Tick),
      (fun q : Panel L => (q.ov.pending, q.ov.layer)) (tick q t) = (q.ov.pending, q.ov.layer) := by
    intro q t
    cases t <;> rfl
  have waited := ticks_view (fun q : Panel L => (q.ov.pending, q.ov.layer)) clock between
    (checkReadout p)
  rw [(checkReadout_ov p).1] at waited
  obtain ⟨pending, layer⟩ := Prod.mk.inj waited
  have same : SameDialog p.ov (between.foldl tick (checkReadout p)).ov :=
    ⟨pending, by rw [layer]⟩
  exact same.trans (contact _)

theorem updateFinished_same (rc : Int) (refused : String) :
    SameDialog p.ov (updateFinished rc refused p).ov := by
  have hidden := busyHide_same p.ov
  simp only [updateFinished]
  by_cases named : (if rc = 0 then "" else refused) = ""
  · rw [if_pos named]
    exact hidden
  · rw [if_neg named]
    exact hidden.trans (notice_same _ _)

theorem printStartReply_same (j : J)
    (accepted : (JsonLib.contains j "error" && (printStartError j).toBool) = false) :
    SameDialog p.ov (printStartReply j p).ov := by
  unfold printStartReply
  by_cases error : JsonLib.contains j "error" = true
  · rw [if_pos error]
    cases text : printStartError j with
    | ok msg => simp [error, text, Except.toBool] at accepted
    | error thrown => exact SameDialog.refl p.ov
  · rw [if_neg error]
    exact SameDialog.refl p.ov

/-- No event but a tap moves the slot or the dialog, a refused print start apart. -/
theorem step_same (event : Event J) (other : event.isTap = false)
    (accepted : refusesPrint p event = false) : SameDialog p.ov (step p event).ov := by
  cases event with
  | delta j => exact consume_same p j
  | staleTick between => exact checkStale_same p between
  | estopKeepalive => exact estopKeepalive_same p.ov
  | watchdog id => exact fireWatchdog_same p.ov id
  | promptShow => exact busyHide_same p.ov
  | linkLost => exact (busyHide_same p.ov).trans (calLogHide_same _)
  | tick t => cases t <;> exact SameDialog.refl p.ov
  | actionDone id =>
    simp only [step]
    split
    · exact busyHide_same p.ov
    · exact SameDialog.refl p.ov
  | printStartReply j =>
    simp only [step]
    split
    · exact SameDialog.refl p.ov
    · next waiting =>
      apply printStartReply_same
      simpa [refusesPrint, waiting] using accepted
  | filesReply j =>
    have ov : (step p (.filesReply j)).ov = p.ov :=
      filesReply_view Panel.ov (fun _ _ _ _ => rfl) j p
    rw [ov]
    exact SameDialog.refl p.ov
  | updateChecked avail latest status =>
    simp only [step]
    split <;> exact SameDialog.refl p.ov
  | updateFinished rc refused =>
    simp only [step]
    split
    · exact SameDialog.refl p.ov
    · exact updateFinished_same _ rc refused
  | seed j => exact SameDialog.refl p.ov
  | promptEnd => exact SameDialog.refl p.ov
  | sensorsBuilt keys => exact SameDialog.refl p.ov
  | linkReady => exact SameDialog.refl p.ov
  | metadataReply i s j =>
    have ov : (step p (.metadataReply i s j)).ov = p.ov :=
      metadataReply_view Panel.ov (fun _ _ _ => rfl) i s j p
    rw [ov]
    exact SameDialog.refl p.ov
  | loopPass inactive =>
    have ov : (step p (.loopPass inactive : Event J)).ov = p.ov :=
      loopPass_view Panel.ov (fun _ _ _ => rfl) inactive p
    rw [ov]
    exact SameDialog.refl p.ov
  | _ => simp [Event.isTap] at other

theorem sliderInput_slot (slider : Slider) (value : Int) (settled : Settled p.ov) :
    (sliderInput slider value p).ov.pending = p.ov.pending ∧
      Settled (sliderInput slider value p).ov := by
  have silent : ∀ q : Panel L, opensOf (fanSliderCb q slider value) = none := by
    intro q
    unfold fanSliderCb
    split <;> rfl
  unfold sliderInput
  rw [performAll_pending, silent, Option.none_or]
  constructor
  · cases slider <;> rfl
  · apply performAll_settled
    cases slider <;> exact settled

theorem keypadInput_slot (key : Key) (settled : Settled p.ov) :
    (keypadInput p key).ov.pending = p.ov.pending ∧ Settled (keypadInput p key).ov := by
  cases key with
  | ok =>
    simp only [keypadInput]
    split
    · next value use _ _ =>
      have silent : opensOf (runKeypad p value use) = none := by cases use <;> rfl
      have pending := performAll_pending p (runKeypad p value use)
      rw [silent, Option.none_or] at pending
      have kept := performAll_settled p (runKeypad p value use) settled
      have same := dismissKeypad_same (performAll p (runKeypad p value use)).ov
      exact ⟨same.1.trans pending, same.settled kept⟩
    · exact ⟨rfl, (dismissKeypad_same p.ov).settled settled⟩
  | cancel => exact ⟨rfl, (dismissKeypad_same p.ov).settled settled⟩
  | _ => exact ⟨rfl, settled⟩

/-- A tap other than the dialog's leaves the slot to the confirmation it opens. -/
theorem step_tap (event : Event J) (tap : event.isTap = true)
    (other : ∀ target, event ≠ .confirmTap target) (settled : Settled p.ov) :
    (step p event).ov.pending = (opensOf (event.effects p)).or p.ov.pending ∧
      Settled (step p event).ov := by
  have handled : ∀ effects, (performAll p effects).ov.pending =
      (opensOf effects).or p.ov.pending ∧ Settled (performAll p effects).ov :=
    fun effects => ⟨performAll_pending p effects, performAll_settled p effects settled⟩
  cases event with
  | homeTap button => exact handled _
  | subTap button => exact handled _
  | fileRow idx => exact handled _
  | estopTap => exact handled _
  | callogStop => exact handled _
  | confirmTap target => exact absurd rfl (other target)
  | slider control value =>
    have silent : opensOf (fanSliderCb p control value) = none := by
      unfold fanSliderCb
      split <;> rfl
    obtain ⟨pending, kept⟩ := sliderInput_slot p control value settled
    refine ⟨?_, kept⟩
    show _ = (opensOf (fanSliderCb p control value)).or _
    rw [silent]
    exact pending
  | key key =>
    have silent : opensOf ((Event.key key : Event J).effects p) = none := by
      cases key with
      | ok =>
        simp only [Event.effects]
        split
        · next value use _ _ => cases use <;> rfl
        · rfl
      | _ => rfl
    obtain ⟨pending, kept⟩ := keypadInput_slot p key settled
    refine ⟨?_, kept⟩
    rw [silent]
    exact pending
  | noticeTap => exact ⟨rfl, (noticeTap_same p.ov).settled settled⟩
  | keypadScrim => exact ⟨rfl, (dismissKeypad_same p.ov).settled settled⟩
  | sliderPress i => exact ⟨rfl, settled⟩
  | wifiBack => exact ⟨rfl, settled⟩
  | _ => simp [Event.isTap] at tap

end Step

section Ledger

/-- What the operator did with confirmations: the one opened last and not yet
answered, every one opened, and the actions run by a tap on Confirm. -/
structure Ledger where
  opened : Option Action := none
  history : List Action := []
  ran : List Action := []

/-- The action a slot runs; the empty closure runs nothing. -/
def slotRuns : Option Action → List Action
  | none | some .acknowledge => []
  | some action => [action]

variable {L : Type → Type} [Layer L] {J : Type}

def watchConfirm (l : Ledger) (p : Panel L) : Event J → Ledger
  | .confirmTap target =>
    { l with
      opened := none
      ran := if target = .confirm then l.ran ++ slotRuns p.ov.pending else l.ran }
  | event =>
    match opensOf (event.effects p) with
    | some action => { l with opened := some action, history := l.history ++ [action] }
    | none => l

/-- The slot holds what the operator opened, or the empty closure of a refused
print start that found no dialog open. -/
structure LedgerInv (l : Ledger) (p : Panel L) : Prop where
  settled : Settled p.ov
  slot : p.ov.pending = l.opened ∨ l.opened = none ∧ p.ov.pending = some .acknowledge
  once : (l.ran ++ slotRuns l.opened).Sublist l.history

/-- What is read off the slot alike for none and for the empty closure is that of what
was opened. -/
theorem LedgerInv.reads {β : Type} {l : Ledger} {p : Panel L} (inv : LedgerInv l p)
    (read : Option Action → β) (alike : read (some .acknowledge) = read none) :
    read p.ov.pending = read l.opened := by
  rcases inv.slot with same | ⟨none, empty⟩
  · rw [same]
  · rw [none, empty]
    exact alike

theorem LedgerInv.runs {l : Ledger} {p : Panel L} (inv : LedgerInv l p) :
    slotRuns p.ov.pending = slotRuns l.opened := inv.reads slotRuns rfl

theorem LedgerInv.effects {l : Ledger} {p : Panel L} (inv : LedgerInv l p) :
    p.ov.pending.elim [] (runAction p) = l.opened.elim [] (runAction p) :=
  inv.reads (fun slot => slot.elim [] (runAction p)) rfl

private theorem slotRuns_sublist (action : Action) : (slotRuns (some action)).Sublist [action] := by
  cases action with
  | acknowledge => exact List.nil_sublist _
  | _ => exact List.Sublist.refl _

theorem watchConfirm_open (l : Ledger) (p : Panel L) (event : Event J)
    (other : ∀ target, event ≠ .confirmTap target) :
    watchConfirm l p event =
      match opensOf (event.effects p) with
      | some action => { l with opened := some action, history := l.history ++ [action] }
      | none => l := by
  cases event with
  | confirmTap target => exact absurd rfl (other target)
  | _ => rfl

theorem ledger_kept {l : Ledger} {p q : Panel L} (inv : LedgerInv l p)
    (pending : q.ov.pending = p.ov.pending) (settled : Settled q.ov) : LedgerInv l q :=
  ⟨settled, pending ▸ inv.slot, inv.once⟩

theorem effects_of_other (p : Panel L) (event : Event J) (other : event.isTap = false) :
    event.effects p = [] := by
  cases event <;> first | rfl | simp [Event.isTap] at other

variable [LawfulLayer L]

theorem ledger_confirmTap {l : Ledger} {p : Panel L} (inv : LedgerInv l p)
    (target : ConfirmTarget) :
    LedgerInv (watchConfirm l p (.confirmTap target : Event J)) (confirmTap target p) := by
  obtain ⟨pending, settled⟩ := confirmTap_settled p target
  refine ⟨settled, Or.inl pending, ?_⟩
  show ((if target = ConfirmTarget.confirm then l.ran ++ slotRuns p.ov.pending else l.ran) ++ []).Sublist
    l.history
  rw [List.append_nil, inv.runs]
  split
  · exact inv.once
  · exact (List.sublist_append_left _ _).trans inv.once

variable [JsonLib J]

theorem step_refused {p : Panel L} {event : Event J} (refused : refusesPrint p event = true) :
    ∃ msg, (step p event).ov = confirm msg .acknowledge p.ov := by
  cases event with
  | printStartReply j =>
    simp only [refusesPrint, Bool.and_eq_true, decide_eq_true_eq] at refused
    obtain ⟨⟨waiting, error⟩, read⟩ := refused
    cases text : printStartError j with
    | ok msg =>
      refine ⟨msg, ?_⟩
      simp [step, waiting, printStartReply, error, text]
    | error thrown => simp [text, Except.toBool] at read
  | _ => simp [refusesPrint] at refused

/-- One event keeps the ledger: taps by what their handler opens, the dialog's taps
by emptying the slot, everything else by leaving both alone. -/
theorem ledger_step {l : Ledger} {p : Panel L} (inv : LedgerInv l p) (event : Event J)
    (quiet : p.ov.layer.Shown .confirmCard → refusesPrint p event = false) :
    LedgerInv (watchConfirm l p event) (step p event) := by
  by_cases answered : ∃ target, event = .confirmTap target
  · obtain ⟨target, rfl⟩ := answered
    exact ledger_confirmTap inv target
  have other : ∀ target, event ≠ .confirmTap target := fun target same => answered ⟨target, same⟩
  rw [watchConfirm_open l p event other]
  cases tap : event.isTap with
  | true =>
    obtain ⟨pending, settled⟩ := step_tap p event tap other inv.settled
    cases opens : opensOf (event.effects p) with
    | none =>
      rw [opens, Option.none_or] at pending
      exact ledger_kept inv pending settled
    | some action =>
      rw [opens, Option.some_or] at pending
      have ran : l.ran.Sublist l.history := (List.sublist_append_left _ _).trans inv.once
      exact ⟨settled, Or.inl pending, ran.append (slotRuns_sublist action)⟩
  | false =>
    rw [effects_of_other p event tap]
    show LedgerInv l (step p event)
    cases refused : refusesPrint p event with
    | false =>
      have same := step_same p event tap refused
      exact ledger_kept inv same.1 (same.settled inv.settled)
    | true =>
      -- the card of the refusal comes up only where no dialog is open
      obtain ⟨msg, card⟩ := step_refused refused
      have down : ¬ p.ov.layer.Shown .confirmCard := by
        intro shown
        exact absurd refused (by simp [quiet shown])
      have empty : p.ov.pending = none := by
        cases pending : p.ov.pending with
        | none => rfl
        | some action => exact absurd (inv.settled.mpr (by simp [pending])) down
      have unopened : l.opened = none := by
        rcases inv.slot with same | ⟨none, -⟩
        · exact same.symm.trans empty
        · exact none
      refine ⟨card ▸ confirm_settled p.ov msg .acknowledge, Or.inr ⟨unopened, ?_⟩, inv.once⟩
      rw [card]
      rfl

theorem ledger_initial : LedgerInv {} (Panel.initial : Panel L) where
  settled := by
    constructor
    · intro card
      exact absurd ((TopLayer.shown_initial .confirmCard).mp card) (by decide)
    · intro pending
      exact Bool.noConfusion pending
  slot := Or.inl rfl
  once := List.Sublist.refl _

/-- The ledger of a run. -/
def ledgerOf (L : Type → Type) [Layer L] [LawfulLayer L] (events : List (Event J)) : Ledger :=
  (run (observed watchConfirm step) ({}, (Panel.initial : Panel L)) events).1

/-- In every run in which no print start is refused while the dialog is open: a
tap on Confirm runs the confirmation the operator opened last and has not
answered, so that E-STOP sends the emergency stop; what ran is among what was
opened, each once; and no other event moves the slot of an open dialog. -/
theorem confirm_runs_opened (events : List (Event J))
    (quiet : Along step
      (fun p event => p.ov.layer.Shown .confirmCard → refusesPrint p event = false)
      (Panel.initial : Panel L) events) :
    let p : Panel L := after events
    let l := ledgerOf L events
    step p (.confirmTap .confirm : Event J) =
      { performAll { p with ov := hideConfirm p.ov } (l.opened.elim [] (runAction p)) with
        ov.pending := none } ∧
    (l.opened = some .emergencyStop →
      dispatched p (.confirmTap .confirm : Event J) = [.emergencyStop]) ∧
    l.ran.Sublist l.history ∧
    ∀ event : Event J, event.isTap = false → p.ov.layer.Shown .confirmCard →
      refusesPrint p event = false → (step p event).ov.pending = p.ov.pending := by
  intro p l
  have preserved : ∀ (l : Ledger) (p : Panel L) (event : Event J), LedgerInv l p →
      (p.ov.layer.Shown .confirmCard → refusesPrint p event = false) →
      LedgerInv (watchConfirm l p event) (step p event) :=
    fun _ _ event holds calm => ledger_step holds event calm
  have inv : LedgerInv l p := quiet.invariant_observed preserved ledger_initial
  refine ⟨?_, ?_, (List.sublist_append_left _ _).trans inv.once, ?_⟩
  · rw [← inv.effects]
    exact confirmTap_confirm p
  · intro estop
    have pending : p.ov.pending = some .emergencyStop := by
      rcases inv.slot with same | ⟨none, -⟩
      · exact same.trans estop
      · exact absurd (none.symm.trans estop) (by simp)
    have sent : (step p (.confirmTap .confirm : Event J)).sent = p.sent ++ [.emergencyStop] := by
      have ran : (step p (.confirmTap .confirm : Event J)).sent = _ :=
        confirmTap_sent (J := J) p .confirm
      simpa [Event.effects, pending, runAction, commandsOf, Effect.commands] using ran
    rw [dispatched, sent, List.drop_left]
  · intro event other shown accepted
    exact (step_same p event other accepted).1

end Ledger

/-- The Files screen with one file on it. -/
def oneFileListed : List (Event Json) :=
  [.homeTap .files, .filesReply (.obj [("result", .arr [.obj [("path", .str "part.gcode")]])])]

/-- A print start refused while the printer is busy homing. -/
def printRefused : Json := .obj [("error", .obj [("message", .str "Printer is busy")])]

/-- The print is confirmed and refused, and E-STOP is tapped after the refusal. -/
theorem confirm_runs_opened_estop :
    let events : List (Event Json) := oneFileListed ++
      [.fileRow 0, .confirmTap .confirm, .printStartReply printRefused, .estopTap]
    let p : Panel ZStack := after events
    let l := ledgerOf ZStack events
    step p (.confirmTap .confirm : Event Json) =
      { performAll { p with ov := hideConfirm p.ov } (l.opened.elim [] (runAction p)) with
        ov.pending := none } ∧
    (l.opened = some .emergencyStop →
      dispatched p (.confirmTap .confirm : Event Json) = [.emergencyStop]) ∧
    l.ran.Sublist l.history ∧
    ∀ event : Event Json, event.isTap = false → p.ov.layer.Shown .confirmCard →
      refusesPrint p event = false → (step p event).ov.pending = p.ov.pending :=
  confirm_runs_opened _
    ⟨fun _ => rfl, fun _ => rfl, fun _ => rfl, fun _ => rfl,
      fun card => absurd card (by decide +kernel), fun _ => rfl, trivial⟩

/-- The refusal arrives after E-STOP was tapped: the slot now holds the empty
closure, and Confirm sends nothing. -/
theorem refusal_swallows_estop :
    let events : List (Event Json) := oneFileListed ++
      [.fileRow 0, .confirmTap .confirm, .estopTap, .printStartReply printRefused]
    let p : Panel ZStack := after events
    (ledgerOf ZStack events).opened = some .emergencyStop ∧
      dispatched p (.confirmTap .confirm : Event Json) = [] :=
  ⟨by decide +kernel, rfl⟩

end GrumpyScreen
