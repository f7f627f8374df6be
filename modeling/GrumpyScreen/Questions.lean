import GrumpyScreen.FilesList
import GrumpyScreen.OverlayRule

/-! What the operator is asked before a drastic command leaves the panel, and where
the file of a print start comes from. -/

namespace GrumpyScreen

open Lib Lib.Exec

/-- The question an action is asked with, in the print state it is asked in and with the
files then listed. The calibrations and the update are not asked for while a job is
loaded. -/
def Action.Poses (d : Dash) (files : List String) (msg : String) : Action → Prop
  | .emergencyStop => msg = "Emergency stop the printer?"
  | .cancelPrint => msg = "Cancel this print?"
  | .bedMesh =>
    msg = "Calibrate bed mesh? Heats the bed to 60C and probes the surface." ∧ d.held = false
  | .inputShaper =>
    msg = "Calibrate input shaper? The screen pauses while it measures resonance." ∧ d.held = false
  | .install => d.held = false ∧ ∃ version, version ≠ "" ∧ msg = "Install " ++ version ++
      "? The printer flashes the spare slot and reboots itself."
  | .restartKlipper => msg = powerMsg d "Restart Klipper?"
  | .restartFirmware => msg = powerMsg d "Restart firmware?"
  | .reboot => msg = powerMsg d "Reboot the printer?"
  | .shutdown => msg = powerMsg d "Shut down the printer?"
  | .printFile filename => msg = s!"Print {baseName filename}?" ∧ filename ∈ files
  | .acknowledge => True

/-- The action whose confirmation a command needs. -/
def Command.guard : Command → Option Action
  | .emergencyStop => some .emergencyStop
  | .reboot => some .reboot
  | .shutdown => some .shutdown
  | .printStart filename => some (.printFile filename)
  | .updateRun => some .install
  | .gcode .cancelPrint => some .cancelPrint
  | .gcode .bedMesh => some .bedMesh
  | .gcode .inputShaper => some .inputShaper
  | .gcode .restart => some .restartKlipper
  | .gcode .firmwareRestart => some .restartFirmware
  | _ => none

/-- Every confirmation among the calls poses its question. -/
def Posing (d : Dash) (files : List String) (effects : List Effect) : Prop :=
  ∀ msg action, .confirm msg action ∈ effects → action.Poses d files msg

def Command.isMetadata : Command → Bool
  | .fileMetadata _ => true
  | _ => false

/-- None of the commands the calls send needs a confirmation, or asks for the metadata of a
file. -/
def Unguarded (effects : List Effect) : Prop :=
  ∀ command ∈ commandsOf effects, command.guard = none ∧ command.isMetadata = false

section Handlers

variable {L : Type → Type} [Layer L] (p : Panel L) {d : Dash} {files : List String}

theorem posing_of_closed {effects : List Effect} (closed : effects.filterMap Effect.opens = []) :
    Posing d files effects := by
  intro msg action member
  have opened : action ∈ effects.filterMap Effect.opens := List.mem_filterMap.mpr ⟨_, member, rfl⟩
  rw [closed] at opened
  cases opened

theorem posing_one {msg : String} {action : Action} (poses : action.Poses d files msg) :
    Posing d files [.confirm msg action] := by
  intro asked opened member
  obtain ⟨rfl, rfl⟩ := Effect.confirm.inj (List.mem_singleton.mp member)
  exact poses

theorem subTap_posing (button : SubButton) : Posing p.dash p.ui.filesNames (subTap p button) := by
  cases button with
  | move button =>
    simp only [subTap]
    split
    · exact posing_of_closed rfl
    · cases button <;> exact posing_of_closed rfl
  | extrude | retract =>
    simp only [subTap]
    split
    · exact posing_one trivial
    · exact posing_of_closed rfl
  | standard | omega =>
    simp only [subTap]
    split
    · exact posing_one trivial
    · exact posing_of_closed rfl
  | cal i =>
    simp only [subTap]
    split
    · exact posing_one trivial
    · next idle =>
      -- past the guard the print state is idle for the two calibrations
      have free : i = 0 ∨ i = 3 → p.dash.held = false := fun tile =>
        Bool.eq_false_iff.mpr fun held => idle ⟨tile, held⟩
      split
      · next mesh => exact posing_one ⟨rfl, free (Or.inl mesh)⟩
      · split
        · next shaper => exact posing_one ⟨rfl, free (Or.inr shaper)⟩
        · exact posing_of_closed rfl
  | system wire =>
    simp only [subTap, populateSystem]
    split <;> exact posing_of_closed rfl
  | integrity =>
    simp only [subTap]
    split <;> exact posing_of_closed rfl
  | install =>
    simp only [subTap]
    split
    · exact posing_of_closed rfl
    · next named =>
      split
      · exact posing_of_closed rfl
      · next idle => exact posing_one ⟨Bool.eq_false_iff.mpr idle, _, named, rfl⟩
  | restartKlipper | restartFw | reboot | shutdown => exact posing_one rfl
  | _ => exact posing_of_closed rfl

theorem homeTap_posing (button : HomeButton) : Posing p.dash p.ui.filesNames (homeTap p button) := by
  cases button with
  | pauseStop =>
    simp only [homeTap]
    split
    · exact posing_of_closed rfl
    · split <;> exact posing_of_closed rfl
  | cancel =>
    simp only [homeTap]
    split
    · exact posing_one rfl
    · exact posing_of_closed rfl
  | _ => exact posing_of_closed rfl

theorem runAction_closed (action : Action) : (runAction p action).filterMap Effect.opens = [] :=
  List.filterMap_eq_nil_iff.mpr (runAction_opens p action)

theorem fileRowCb_posing (idx : Nat) : Posing p.dash p.ui.filesNames (fileRowCb p idx) := by
  simp only [fileRowCb]
  split
  · next filename listed => exact posing_one ⟨rfl, List.mem_of_getElem? listed⟩
  · exact posing_of_closed rfl

theorem effects_posing {J : Type} (event : Event J) : Posing p.dash p.ui.filesNames (event.effects p) := by
  apply effects_of_handlers (Posing p.dash p.ui.filesNames) (posing_of_closed rfl)
  case home => exact homeTap_posing p
  case sub => exact fun button _ => subTap_posing p button
  case file => exact fileRowCb_posing p
  case slid =>
    intro slider value
    simp only [fanSliderCb]
    split <;> exact posing_of_closed rfl
  case estop => exact posing_one rfl
  case stop => exact posing_of_closed rfl
  case ran => exact fun action => posing_of_closed (runAction_closed p action)
  case keyed =>
    intro value use
    cases use <;> exact posing_of_closed rfl

theorem unguarded_of_all {effects : List Effect}
    (all : (commandsOf effects).all (fun c => c.guard.isNone && !c.isMetadata) = true) :
    Unguarded effects := by
  intro command member
  have each := List.all_eq_true.mp all command member
  simpa using each

theorem subTap_unguarded (button : SubButton) : Unguarded (subTap p button) := by
  cases button with
  | move button =>
    simp only [subTap]
    split
    · exact unguarded_of_all rfl
    · cases button <;> exact unguarded_of_all rfl
  | extrude | retract | standard | omega | integrity =>
    simp only [subTap]
    split <;> exact unguarded_of_all rfl
  | cal i =>
    simp only [subTap]
    split
    · exact unguarded_of_all rfl
    · split
      · exact unguarded_of_all rfl
      · split <;> exact unguarded_of_all rfl
  | system wire =>
    simp only [subTap, populateSystem]
    split <;> exact unguarded_of_all rfl
  | install =>
    simp only [subTap]
    split
    · exact unguarded_of_all rfl
    · split <;> exact unguarded_of_all rfl
  | _ => exact unguarded_of_all rfl

theorem homeTap_unguarded (button : HomeButton) : Unguarded (homeTap p button) := by
  cases button with
  | pauseStop =>
    simp only [homeTap]
    split
    · exact unguarded_of_all rfl
    · split <;> exact unguarded_of_all rfl
  | cancel =>
    simp only [homeTap]
    split <;> exact unguarded_of_all rfl
  | _ => exact unguarded_of_all rfl

/-- A closure sends no guarded command but its own. -/
theorem runAction_guard {action : Action} {command : Command}
    (member : command ∈ commandsOf (runAction p action)) {guard : Action}
    (guarded : command.guard = some guard) : action = guard := by
  cases action with
  | acknowledge => cases member
  | bedMesh | inputShaper | install =>
    simp only [runAction] at member
    split at member
    · cases member
    · cases List.mem_singleton.mp member
      exact Option.some.inj guarded
  | _ =>
    cases List.mem_singleton.mp member
    exact Option.some.inj guarded

theorem fanSliderCb_unguarded (slider : Slider) (value : Int) :
    Unguarded (fanSliderCb p slider value) := by
  simp only [fanSliderCb]
  split <;> exact unguarded_of_all rfl

theorem fileRowCb_unguarded (idx : Nat) : Unguarded (fileRowCb p idx) := by
  simp only [fileRowCb]
  split <;> exact unguarded_of_all rfl

theorem runKeypad_unguarded (value : Float) (use : KeypadUse) :
    Unguarded (runKeypad p value use) := by
  cases use <;> exact unguarded_of_all rfl

theorem runAction_metadata (action : Action) :
    ∀ command ∈ commandsOf (runAction p action), command.isMetadata = false := by
  intro command member
  cases action with
  | acknowledge => cases member
  | bedMesh | inputShaper | install =>
    simp only [runAction] at member
    split at member
    · cases member
    · cases List.mem_singleton.mp member
      rfl
  | _ =>
    cases List.mem_singleton.mp member
    rfl

theorem effects_metadata {J : Type} (event : Event J) :
    ∀ command ∈ commandsOf (event.effects p), command.isMetadata = false := by
  let free : List Effect → Prop := fun effects =>
    ∀ command ∈ commandsOf effects, command.isMetadata = false
  have quiet : ∀ {effects : List Effect}, Unguarded effects → free effects :=
    fun unguarded command member => (unguarded command member).2
  apply effects_of_handlers free (quiet (unguarded_of_all rfl))
  case home => exact fun button => quiet (homeTap_unguarded p button)
  case sub => exact fun button _ => quiet (subTap_unguarded p button)
  case file => exact fun idx => quiet (fileRowCb_unguarded p idx)
  case slid => exact fun slider value => quiet (fanSliderCb_unguarded p slider value)
  case estop => exact quiet (unguarded_of_all rfl)
  case stop => exact quiet (unguarded_of_all rfl)
  case ran => exact runAction_metadata p
  case keyed => exact fun value use => quiet (runKeypad_unguarded p value use)

theorem effects_guard {J : Type} (event : Event J) {command : Command}
    (member : command ∈ commandsOf (event.effects p)) {guard : Action}
    (guarded : command.guard = some guard) :
    event = .confirmTap .confirm ∧ p.ov.pending = some guard := by
  have refuted : ∀ {effects : List Effect}, Unguarded effects → command ∈ commandsOf effects →
      event = .confirmTap .confirm ∧ p.ov.pending = some guard := by
    intro effects unguarded member
    rw [(unguarded command member).1] at guarded
    cases guarded
  cases event with
  | homeTap button => exact refuted (homeTap_unguarded p button) member
  | subTap button => exact refuted (subTap_unguarded p button) member
  | fileRow idx => exact refuted (fileRowCb_unguarded p idx) member
  | slider slider value => exact refuted (fanSliderCb_unguarded p slider value) member
  | estopTap => exact refuted (unguarded_of_all rfl) member
  | callogStop => exact refuted (unguarded_of_all rfl) member
  | confirmTap target =>
    cases target with
    | confirm =>
      simp only [Event.effects] at member
      split at member
      · next action pending =>
        have same : action = guard := runAction_guard p member guarded
        exact ⟨rfl, same ▸ pending⟩
      · cases member
    | _ => cases member
  | key key =>
    cases key with
    | ok =>
      refine refuted ?_ member
      simp only [Event.effects]
      split
      · exact runKeypad_unguarded p _ _
      · exact unguarded_of_all rfl
    | _ => cases member
  | _ => cases member

end Handlers

section Runs

variable {L : Type → Type} [Layer L] [LawfulLayer L] {J : Type} [JsonLib J]

/-- The dialog is up exactly while an action is pending, refusals included. -/
theorem step_settled (p : Panel L) (event : Event J) (settled : Settled p.ov) :
    Settled (step p event).ov := by
  by_cases answered : ∃ target, event = .confirmTap target
  · obtain ⟨target, rfl⟩ := answered
    exact (confirmTap_settled p target).2
  · have other : ∀ target, event ≠ .confirmTap target := fun target same => answered ⟨target, same⟩
    cases tap : event.isTap with
    | true => exact (step_tap p event tap other settled).2
    | false =>
      cases refused : refusesPrint p event with
      | false => exact (step_same p event tap refused).settled settled
      | true =>
        obtain ⟨msg, card⟩ := step_refused refused
        rw [card]
        exact confirm_settled p.ov msg .acknowledge

theorem after_settled (events : List (Event J)) : Settled (after events : Panel L).ov :=
  run_invariant step_settled (ledger_initial (L := L)).settled events

/-- Some tap of the run opened the action with this question, which is the action's own
in the print state of that moment. -/
def OpenedBy (L : Type → Type) [Layer L] [LawfulLayer L] (events : List (Event J)) (msg : String)
    (action : Action) : Prop :=
  ∃ before opening, before ++ [opening] <+: events ∧ opening.isTap = true ∧
    .confirm msg action ∈ opening.effects (after before : Panel L) ∧
    action.Poses (after before : Panel L).dash (after before : Panel L).ui.filesNames msg

theorem OpenedBy.later {events : List (Event J)} {msg : String} {action : Action}
    (opened : OpenedBy L events msg action) (event : Event J) :
    OpenedBy L (events ++ [event]) msg action := by
  obtain ⟨before, opening, isPrefix, rest⟩ := opened
  exact ⟨before, opening, isPrefix.trans (List.prefix_append _ _), rest⟩

/-- A condition on the question shown and the action pending. -/
def SlotHolds (Q : String → Action → Prop) (o : Overlays L) : Prop :=
  ∀ action, o.pending = some action → Q o.confirmMsg action

theorem slotHolds_confirm {Q : String → Action → Prop} (o : Overlays L) {msg : String}
    {action : Action} (asked : Q (cStr msg) action) : SlotHolds Q (confirm msg action o) := by
  intro pending same
  cases same
  exact asked

theorem slotHolds_background {Q : String → Action → Prop} (empty : ∀ msg, Q msg .acknowledge) :
    KeptInBackground (SlotHolds (L := L) Q) where
  busyShow _ _ holds := holds
  busyHide _ holds := holds
  logbookShow _ _ holds := holds
  logbookHide _ holds := holds
  expire o id holds := by
    unfold fireWatchdog
    split
    · exact holds
    · exact holds
  keepalive o holds := by
    unfold estopKeepalive
    split
    · exact holds
    · split
      · exact holds
      · exact holds
  elapse _ _ holds := holds
  notice _ _ holds := holds
  refusal o msg _ := slotHolds_confirm o (empty _)

omit [LawfulLayer L] in
theorem slotHolds_taps [LawfulLayer L] {Q : String → Action → Prop} :
    KeptByTaps (SlotHolds (L := L) Q) where
  answer _ holds := holds
  empty _ _ := by
    intro action pending
    cases pending
  read _ holds := holds
  type _ _ holds := holds
  dismiss _ holds := holds

/-- The slot holds the action and the question of what was opened last, or the empty
closure. -/
theorem step_slot {Q : String → Action → Prop} (empty : ∀ msg, Q msg .acknowledge) (p : Panel L)
    (event : Event J)
    (asked : ∀ msg action, .confirm msg action ∈ event.effects p → Q (cStr msg) action)
    (holds : SlotHolds Q p.ov) : SlotHolds Q (step p event).ov := by
  refine step_overlays (slotHolds_background empty) slotHolds_taps p event ?_ holds
  intro q effect member holds
  rw [perform_ov]
  cases effect with
  | confirm msg action => exact slotHolds_confirm q.ov (asked msg action member)
  | _ => exact holds

omit [LawfulLayer L] [JsonLib J] in
theorem isTap_of_effects {p : Panel L} {event : Event J} {effect : Effect}
    (member : effect ∈ event.effects p) : event.isTap = true := by
  cases tap : event.isTap with
  | true => rfl
  | false =>
    rw [effects_of_other p event tap] at member
    cases member

theorem slot_opened (events : List (Event J)) :
    SlotHolds (fun text action => action = .acknowledge ∨
      ∃ msg, OpenedBy L events msg action ∧ text = cStr msg) (after events : Panel L).ov := by
  induction events using List.reverseRecOn with
  | nil =>
    intro action pending
    cases pending
  | append_singleton events event ih =>
    have earlier : SlotHolds (fun text action => action = .acknowledge ∨
        ∃ msg, OpenedBy L (events ++ [event]) msg action ∧ text = cStr msg)
        (after events : Panel L).ov := by
      intro action pending
      rcases ih action pending with empty | ⟨msg, opened, text⟩
      · exact Or.inl empty
      · exact Or.inr ⟨msg, opened.later event, text⟩
    have taken : (after (events ++ [event]) : Panel L) = step (after events) event := run_snoc _ _ _
    rw [taken]
    refine step_slot (fun _ => Or.inl rfl) _ event ?_ earlier
    intro msg action member
    have poses := effects_posing (after events : Panel L) event msg action member
    exact Or.inr ⟨msg, ⟨events, event, List.prefix_refl _, isTap_of_effects member, member, poses⟩,
      rfl⟩

theorem guard_dispatched {p : Panel L} {event : Event J} {command : Command}
    (member : command ∈ dispatched p event) {action : Action}
    (guarded : command.guard = some action) :
    event = .confirmTap .confirm ∧ p.ov.pending = some action := by
  obtain ⟨names, sent⟩ := dispatched_eq p event
  rw [sent] at member
  rcases List.mem_append.mp member with called | asked
  · exact effects_guard p event called guarded
  · obtain ⟨name, -, rfl⟩ := List.mem_map.mp asked
    cases guarded

/-- In every run the emergency stop, reboot, shutdown, restarts, the update, the
calibrations of bed mesh and input shaper, cancelling and starting a print are sent by
a tap on Confirm only, while the card is up and asks for just that, as an earlier tap of
the operator has opened it. -/
theorem guarded_confirmed (before : List (Event J)) (event : Event J) (command : Command)
    (member : command ∈ dispatched (after before : Panel L) event) (action : Action)
    (guarded : command.guard = some action) :
    let p : Panel L := after before
    event = .confirmTap .confirm ∧ p.ov.layer.Shown .confirmCard ∧
      ∃ msg, OpenedBy L before msg action ∧ p.ov.confirmMsg = cStr msg := by
  intro p
  obtain ⟨tapped, pending⟩ := guard_dispatched member guarded
  refine ⟨tapped, (after_settled before).mpr (by simp [pending]), ?_⟩
  rcases slot_opened before action pending with empty | opened
  · subst empty
    unfold Command.guard at guarded
    split at guarded <;> cases guarded
  · exact opened

/-- E-STOP is tapped and confirmed. -/
theorem guarded_confirmed_estop :
    let before : List (Event Json) := [.estopTap]
    let p : Panel ZStack := after before
    (.confirmTap .confirm : Event Json) = .confirmTap .confirm ∧ p.ov.layer.Shown .confirmCard ∧
      ∃ msg, OpenedBy ZStack before msg .emergencyStop ∧ p.ov.confirmMsg = cStr msg := by
  intro before p
  have sent : dispatched p (.confirmTap .confirm : Event Json) = [.emergencyStop] := rfl
  have member : .emergencyStop ∈ dispatched p (.confirmTap .confirm : Event Json) :=
    sent ▸ List.mem_singleton_self _
  exact guarded_confirmed before _ .emergencyStop member .emergencyStop rfl

end Runs

section Origin

variable {L : Type → Type} [Layer L] {J : Type} [JsonLib J]

/-- The names on the Files screen are among those of a list reply, and what was sent since is
for the metadata of such files. -/
structure NamesAmong (j : J) (sent : List Command) (p : Panel L) : Prop where
  names : ∀ path ∈ p.ui.filesNames, path ∈ listedPaths j
  asked : ∃ paths : List String, p.sent = sent ++ paths.map .fileMetadata ∧
    ∀ path ∈ paths, path ∈ listedPaths j

theorem listEntry_names {j f : J} (gen : UInt32) (sent : List Command) (entry : f ∈ listEntries j) :
    Preserves (NamesAmong (L := L) j sent) (listEntry gen f) := by
  let read : String → Panel L → Prop := fun path p => NamesAmong j sent p ∧ entryPath f = path
  refine Triple.bind (Q := read) ?_ fun path => ?_
  · refine Triple.ofExcept _ (fun _ among => among) fun path p found among => ?_
    exact ⟨among, by simp [entryPath, found, Except.toOption]⟩
  refine Triple.ite (fun _ p known => known.1) fun named => ?_
  let listed : PUnit → Panel L → Prop := fun _ p => NamesAmong j sent p ∧ path ∈ listedPaths j
  refine Triple.bind (Q := listed) ?_ fun _ => ?_
  · rintro p ⟨among, same⟩
    have member : path ∈ listedPaths j :=
      List.mem_filter.mpr ⟨same ▸ List.mem_map_of_mem entry, by simpa using named⟩
    refine ⟨⟨fun name pushed => ?_, among.asked⟩, member⟩
    rcases List.mem_append.mp pushed with earlier | last
    · exact among.names name earlier
    · exact List.mem_singleton.mp last ▸ member
  refine Triple.bind (Q := fun _ => listed ⟨⟩) ?_ fun size => ?_
  · exact Triple.ofExcept _ (fun _ known => known.1) fun _ _ _ known => known
  · rintro p ⟨⟨names, paths, same, asked⟩, member⟩
    refine ⟨names, paths ++ [path], by simp [addFile, send, same], fun name later => ?_⟩
    rcases List.mem_append.mp later with earlier | last
    · exact asked name earlier
    · exact List.mem_singleton.mp last ▸ member

theorem filesReply_names (j : J) (p : Panel L) :
    NamesAmong j p.sent (final (filesReply j) p) := by
  let among : Panel L → Prop := NamesAmong j p.sent
  have replied : Triple (fun q => q.sent = p.sent) (filesReply (L := L) j) (fun _ => among) among := by
    refine Triple.bind (Q := fun _ => among) ?_ fun _ => ?_
    · intro q same
      refine ⟨fun path member => ?_, [], same.trans (List.append_nil _).symm, fun path member => ?_⟩
      · cases member
      · cases member
    refine Preserves.bind Preserves.get fun start => ?_
    let entries : J → Panel L → Prop := fun res q =>
      among q ∧ listEntries j = if JsonLib.isArray res then (JsonLib.elements res).take 40 else []
    refine Triple.bind (Q := entries) ?_ fun res => ?_
    · refine Triple.ofExcept _ (fun _ holds => holds) fun res q found holds => ?_
      exact ⟨holds, by rw [listEntries, found]⟩
    refine Triple.bind (Q := fun _ => among) ?_ fun _ => ?_
    · rintro q ⟨holds, same⟩
      rw [← same]
      exact Triple.forM (fun f entry => listEntry_names _ _ entry) q holds
    · intro q holds
      show NamesAmong j p.sent { q with ui := showNoFiles q.ui }
      unfold showNoFiles
      split
      · exact ⟨holds.names, holds.asked⟩
      · exact ⟨holds.names, holds.asked⟩
  have left := replied p rfl
  unfold final
  rcases ran : exec (filesReply j) p with ⟨result, reached⟩
  rw [ran] at left
  cases result with
  | ok _ => exact left
  | error _ => exact left

variable [LawfulLayer L]

/-- The names stay, or they are those of the list reply that came in. -/
theorem step_names (p : Panel L) (event : Event J) :
    (step p event).ui.filesNames = p.ui.filesNames ∨
      ∃ j, event = .filesReply j ∧
        ∀ path ∈ (step p event).ui.filesNames, path ∈ listedPaths j := by
  cases files : event.isFiles with
  | false =>
    have same := congrArg (fun part => part.1.1) (step_files p event files)
    exact Or.inl same
  | true =>
    cases event with
    | filesReply j =>
      simp only [step]
      split
      · exact Or.inl rfl
      · exact Or.inr ⟨j, rfl, (filesReply_names j _).names⟩
    | metadataReply i s j =>
      left
      simp only [step]
      split
      · next captured _ =>
        have kept : Preserves (fun q : Panel L => q.ui.filesNames = p.ui.filesNames)
            (metadataReply captured s j) := by
          refine metadataReply_writes captured s j fun q row thumb zoom detail same => ?_
          show (filesApplyMeta row thumb zoom detail q.ui).filesNames = _
          unfold filesApplyMeta
          split
          · exact same
          · exact same
        exact kept.final rfl
      · rfl
    | _ => cases files

theorem names_listed (events : List (Event J)) :
    ∀ path ∈ (after events : Panel L).ui.filesNames,
      ∃ before j, before ++ [.filesReply j] <+: events ∧ path ∈ listedPaths j := by
  induction events using List.reverseRecOn with
  | nil =>
    intro path member
    cases member
  | append_singleton events event ih =>
    intro path member
    have taken : (after (events ++ [event]) : Panel L) = step (after events) event := run_snoc _ _ _
    rw [taken] at member
    rcases step_names (after events : Panel L) event with same | ⟨j, rfl, among⟩
    · rw [same] at member
      obtain ⟨before, j, isPrefix, listed⟩ := ih path member
      exact ⟨before, j, isPrefix.trans (List.prefix_append _ _), listed⟩
    · exact ⟨events, j, List.prefix_refl _, among path member⟩

/-- In every run a print is started by a tap on Confirm only, while the card asks for that
file by its name, and the file was named by a list reply received before the tap that
opened the card with this question. -/
theorem print_listed (before : List (Event J)) (event : Event J) (filename : String)
    (member : .printStart filename ∈ dispatched (after before : Panel L) event) :
    let p : Panel L := after before
    event = .confirmTap .confirm ∧ p.ov.layer.Shown .confirmCard ∧
      p.ov.confirmMsg = cStr s!"Print {baseName filename}?" ∧ filename ≠ "" ∧
      ∃ earlier j middle opening, earlier ++ [.filesReply j] <+: middle ∧
        filename ∈ listedPaths j ∧ middle ++ [opening] <+: before ∧ opening.isTap = true ∧
        .confirm s!"Print {baseName filename}?" (.printFile filename) ∈
          opening.effects (after middle : Panel L) := by
  intro p
  obtain ⟨tapped, pending⟩ := guard_dispatched member rfl
  refine ⟨tapped, (after_settled before).mpr (by simp [pending]), ?_⟩
  rcases slot_opened before _ pending with empty | ⟨msg, opened, text⟩
  · cases empty
  · obtain ⟨middle, opening, isPrefix, tap, opens, rfl, named⟩ := opened
    obtain ⟨earlier, j, replied, listed⟩ := names_listed middle filename named
    refine ⟨text, ?_, earlier, j, middle, opening, replied, listed, isPrefix, tap, opens⟩
    simpa using (List.mem_filter.mp listed).2

end Origin

/-- One file is listed, its row tapped and the print confirmed. -/
theorem print_listed_part :
    let before : List (Event Json) := oneFileListed ++ [.fileRow 0]
    let p : Panel ZStack := after before
    let file := "part.gcode"
    (.confirmTap .confirm : Event Json) = .confirmTap .confirm ∧ p.ov.layer.Shown .confirmCard ∧
      p.ov.confirmMsg = cStr s!"Print {baseName file}?" ∧ file ≠ "" ∧
      ∃ earlier j middle opening, earlier ++ [.filesReply j] <+: middle ∧
        file ∈ listedPaths j ∧ middle ++ [opening] <+: before ∧ opening.isTap = true ∧
        .confirm s!"Print {baseName file}?" (.printFile file) ∈
          opening.effects (after middle : Panel ZStack) := by
  intro before p file
  have sent : dispatched p (.confirmTap .confirm : Event Json) = [.printStart file] := rfl
  have member : .printStart file ∈ dispatched p (.confirmTap .confirm : Event Json) :=
    sent ▸ List.mem_singleton_self _
  exact print_listed before _ file member

end GrumpyScreen
