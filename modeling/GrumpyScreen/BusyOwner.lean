import GrumpyScreen.CalOverlay
import GrumpyScreen.Handlers

/-! Who put the shared busy overlay up last, and what may take it down: the end of
that very operation, a lost link, a prompt, or the watchdog armed when it went up. -/

namespace GrumpyScreen

open Lib Lib.Exec

/-- What the busy overlay stands for. -/
inductive Owner where
  | action (id : Nat)
  | update
  | calibration
  | other
deriving DecidableEq, Repr

/-- Who put the overlay up last, and when. -/
structure Holder where
  owner : Owner := .other
  raisedAt : Nat := 0

/-- The call starts a script whose reply ends it. -/
def Effect.acts : Effect → Bool
  | .act _ _ => true
  | _ => false

def Effect.spawns : Effect → Bool
  | .spawnUpdate => true
  | _ => false

section Timers

/-- Every live timer is the current watchdog, due three minutes after the time. -/
def Armed (raisedAt : Nat) (b : Busy) : Prop :=
  ∀ t ∈ b.timers, b.watchdog = some t.id ∧ t.due = raisedAt + 180000

variable {raisedAt : Nat} {b : Busy}

theorem Armed.cancelled (armed : Armed raisedAt b) : (busyCancelWatchdog b).timers = [] := by
  cases current : b.watchdog with
  | none =>
    rw [busyCancelWatchdog, current]
    refine List.eq_nil_iff_forall_not_mem.mpr fun t member => ?_
    have named := (armed t member).1
    rw [current] at named
    cases named
  | some id =>
    rw [busyCancelWatchdog, current]
    refine List.filter_eq_nil_iff.mpr fun t member => ?_
    have named := (armed t member).1
    rw [current] at named
    simp [Option.some.inj named]

theorem armed_of_none (none : b.timers = []) : Armed raisedAt b := by
  intro t member
  rw [none] at member
  cases member

theorem Armed.rearmed (armed : Armed raisedAt b) (clock : Nat) :
    Armed clock ((busyCancelWatchdog b).arm clock) := by
  intro t member
  rw [Busy.arm, armed.cancelled] at member
  cases List.mem_singleton.mp member
  exact ⟨rfl, rfl⟩

end Timers

section Widget

variable {L : Type → Type} [Layer L]

/-- The overlay is as it was: up or down, and with no newer watchdog. -/
structure Stayed (before after : Overlays L) : Prop where
  shown : after.layer.Shown .busy ↔ before.layer.Shown .busy
  serial : after.busy.fresh = before.busy.fresh
  armed : ∀ {raisedAt}, Armed raisedAt before.busy → Armed raisedAt after.busy

/-- The overlay was put up, with a watchdog of its own. -/
structure Raised (before after : Overlays L) : Prop where
  shown : after.layer.Shown .busy
  serial : before.busy.fresh < after.busy.fresh
  armed : ∀ {raisedAt}, Armed raisedAt before.busy → Armed before.clock after.busy

/-- The overlay is down. -/
structure Lowered (before after : Overlays L) : Prop where
  hidden : ¬ after.layer.Shown .busy
  serial : after.busy.fresh = before.busy.fresh
  armed : ∀ {raisedAt}, Armed raisedAt before.busy → Armed raisedAt after.busy

theorem Stayed.of_busy {before after : Overlays L} (kept : BusyKept before after)
    (busy : after.busy = before.busy) : Stayed before after :=
  ⟨kept.shown, kept.serial, fun armed => by rw [busy]; exact armed⟩

theorem Stayed.refl (o : Overlays L) : Stayed o o := Stayed.of_busy (BusyKept.refl o) rfl

theorem Lowered.kept {first second third : Overlays L} (down : Lowered first second)
    (kept : Stayed second third) : Lowered first third where
  hidden shown := down.hidden (kept.shown.mp shown)
  serial := kept.serial.trans down.serial
  armed armed := kept.armed (down.armed armed)

/-- The overlay was left alone or put up, in no time. -/
structure Lifted (before after : Overlays L) : Prop where
  clock : after.clock = before.clock
  moved : Stayed before after ∨ Raised before after

theorem Lifted.trans {first second third : Overlays L} (earlier : Lifted first second)
    (later : Lifted second third) : Lifted first third where
  clock := later.clock.trans earlier.clock
  moved := by
    rcases earlier.moved with before | before
    · rcases later.moved with after | after
      · exact Or.inl ⟨after.shown.trans before.shown, after.serial.trans before.serial,
          fun armed => after.armed (before.armed armed)⟩
      · refine Or.inr ⟨after.shown, before.serial ▸ after.serial, fun armed => ?_⟩
        rw [← earlier.clock]
        exact after.armed (before.armed armed)
    · rcases later.moved with after | after
      · exact Or.inr ⟨after.shown.mpr before.shown, after.serial ▸ before.serial,
          fun armed => after.armed (before.armed armed)⟩
      · refine Or.inr ⟨after.shown, before.serial.trans after.serial, fun armed => ?_⟩
        rw [← earlier.clock]
        exact after.armed (before.armed armed)

variable [LawfulLayer L] (o : Overlays L)

theorem busyShow_raised (text : String) : Raised o (busyShow text o) where
  shown := by simp
  serial := by
    rw [busyShow_serial]
    omega
  armed armed := Armed.rearmed (b := { o.busy with text := cStr text }) armed o.clock

theorem busyHide_lowered : Lowered o (busyHide o) :=
  ⟨(busyHide_down o).hidden, (busyHide_down o).serial, fun armed => armed_of_none armed.cancelled⟩

theorem perform_lifted (p : Panel L) (effect : Effect) : Lifted p.ov (perform p effect).ov := by
  refine ⟨(perform_clock p effect).1, ?_⟩
  cases effect with
  | act text script => exact Or.inr (busyShow_raised p.ov text)
  | busy text => exact Or.inr (busyShow_raised p.ov text)
  | confirm msg action => exact Or.inl (Stayed.of_busy (confirm_kept p.ov msg action) rfl)
  | notice msg => exact Or.inl (Stayed.of_busy (notice_kept p.ov msg) rfl)
  | keypad use => exact Or.inl (Stayed.of_busy (openKeypad_kept p.ov use) rfl)
  | checkUpdate =>
    obtain ⟨_, _, _, -, left⟩ := perform_checkUpdate p
    rw [left]
    exact Or.inl (Stayed.refl p.ov)
  | _ => exact Or.inl (Stayed.refl p.ov)

end Widget

section Step

variable {L : Type → Type} [Layer L] [LawfulLayer L] {J : Type} [JsonLib J]

theorem handled_lifted (p : Panel L) (event : Event J) (tap : event.isHandled = true) :
    Lifted p.ov (step p event).ov := by
  have kept : ∀ {o o' : Overlays L}, o'.clock = o.clock → BusyKept o o' → o'.busy = o.busy →
      Lifted o o' := fun clock same busy => ⟨clock, Or.inl (Stayed.of_busy same busy)⟩
  apply handled_writes (fun q => Lifted p.ov q.ov) tap
  · exact fun q effect _ lifted => lifted.trans (perform_lifted q effect)
  · exact fun q lifted => lifted.trans (kept rfl (hideConfirm_kept q.ov) rfl)
  · exact fun q lifted => lifted.trans (kept rfl ⟨rfl, rfl, Iff.rfl⟩ rfl)
  · exact fun q text lifted => lifted.trans (kept rfl ⟨rfl, rfl, Iff.rfl⟩ rfl)
  · exact fun q lifted => lifted.trans (kept rfl (dismissKeypad_kept q.ov) rfl)
  · exact fun q fans lifted => lifted
  · exact kept rfl (BusyKept.refl p.ov) rfl

/-- The event ends what a calibration put the overlay up for: the panel tracks its overlay
and the delta, read through, leaves no active calibration. -/
def endsCalibration (p : Panel L) (j : J) : Prop :=
  p.track.calOverlay = true ∧ Returns (consume j) p ∧
    ((p.dash.core.next j).calibrating && !p.track.promptShowing) = false

/-- The event takes the overlay down. -/
def TakesDown (p : Panel L) : Event J → Prop
  | .actionDone id => id ∈ p.waits.actions
  | .updateFinished _ _ => p.waits.updateRuns ≠ 0
  | .delta j => endsCalibration p j
  | .linkLost | .promptShow => True
  | .watchdog id => ∃ t ∈ p.ov.busy.timers, t.id = id ∧ t.due ≤ p.ov.clock
  | _ => False

theorem logbookStage_busy (printing : Bool) (p : Panel L) :
    Stayed p.ov (logbookStage printing p).ov := by
  refine Stayed.of_busy (logbookStage_kept printing p) ?_
  unfold logbookStage
  split
  · split <;> rfl
  · split <;> rfl

theorem calOverlayStage_moves (printing : Bool) (p : Panel L) :
    let q := calOverlayStage printing p
    if p.track.calOverlay = true ∧ calActive printing p = false then Lowered p.ov q.ov
    else Stayed p.ov q.ov ∨ Raised p.ov q.ov := by
  intro q
  unfold q calOverlayStage
  cases active : calActive printing p with
  | true =>
    rw [if_neg (by simp), if_pos rfl]
    split
    · exact Or.inr (busyShow_raised p.ov _)
    · exact Or.inl (Stayed.refl p.ov)
  | false =>
    rw [if_neg Bool.false_ne_true]
    by_cases flag : p.track.calOverlay = true
    · rw [if_pos ⟨flag, rfl⟩, if_pos flag]
      exact busyHide_lowered p.ov
    · rw [if_neg fun both => flag both.1, if_neg flag]
      exact Or.inl (Stayed.refl p.ov)

theorem delta_moves (p : Panel L) (j : J) :
    (endsCalibration p j → Lowered p.ov (step p (.delta j)).ov) ∧
      (¬ endsCalibration p j →
        Stayed p.ov (step p (.delta j)).ov ∨ Raised p.ov (step p (.delta j)).ov) := by
  have ended : endsCalibration p j ↔ p.track.calOverlay = true ∧ Returns (consume j) p ∧
      ((p.dash.core.next j).calibrating && !p.track.promptShowing) = false := Iff.rfl
  rcases consume_cases p j with ⟨d, printing, -, core, ran⟩ | ⟨d, thrown, -, ran⟩
  · have returns : Returns (consume j) p := ⟨⟨⟩, congrArg Prod.fst ran⟩
    have reached : (step p (.delta j)).ov = (overlayStages { p with dash := d }).ov :=
      congrArg (fun out => out.2.ov) ran
    have moves := calOverlayStage_moves d.printing { p with dash := d }
    have kept := logbookStage_busy d.printing (calOverlayStage d.printing { p with dash := d })
    rw [calActive_eq { p with dash := d }, core] at moves
    rw [reached, ended]
    constructor
    · rintro ⟨flag, -, inactive⟩
      rw [if_pos ⟨flag, inactive⟩] at moves
      exact moves.kept kept
    · intro standing
      rw [if_neg fun both => standing ⟨both.1, returns, both.2⟩] at moves
      rcases moves with same | raised
      · exact Or.inl ⟨kept.shown.trans same.shown, kept.serial.trans same.serial,
          fun armed => kept.armed (same.armed armed)⟩
      · exact Or.inr ⟨kept.shown.mpr raised.shown, kept.serial ▸ raised.serial,
          fun armed => kept.armed (raised.armed armed)⟩
  · have reached : (step p (.delta j)).ov = p.ov := congrArg (fun out => out.2.ov) ran
    rw [reached]
    refine ⟨fun both => ?_, fun _ => Or.inl (Stayed.refl p.ov)⟩
    obtain ⟨⟨⟩, returned⟩ := both.2.1
    rw [ran] at returned
    cases returned

theorem fireWatchdog_idle {o : Overlays L} {id : Nat}
    (idle : ¬ ∃ t ∈ o.busy.timers, t.id = id ∧ t.due ≤ o.clock) : fireWatchdog id o = o := by
  rw [fireWatchdog, if_neg]
  simpa using idle

theorem fireWatchdog_lowered {o : Overlays L} {id : Nat}
    (due : ∃ t ∈ o.busy.timers, t.id = id ∧ t.due ≤ o.clock) : Lowered o (fireWatchdog id o) := by
  have fires : o.busy.timers.any (fun t => t.id = id ∧ t.due ≤ o.clock) = true := by
    simpa using due
  rw [fireWatchdog, if_pos fires]
  obtain ⟨t, member, rfl, -⟩ := due
  refine ⟨by simp [busyWatchdogCb], by simp [busyWatchdogCb, busyHide], fun armed => ?_⟩
  have current := (armed t member).1
  refine armed_of_none (List.filter_eq_nil_iff.mpr fun other listed => ?_)
  have own : other ∈ o.busy.timers := by simpa [busyWatchdogCb, busyHide, busyCancelWatchdog] using listed
  have same := Option.some.inj (current.symm.trans (armed other own).1)
  simp [same]

theorem checkStale_busy (p : Panel L) (between : List Tick) :
    (checkStale between p).ov.busy = p.ov.busy := by
  have clock : ∀ (q : Panel L) (t : Tick), (tick q t).ov.busy = q.ov.busy := by
    intro q t
    cases t <;> rfl
  have waited := ticks_view (fun q : Panel L => q.ov.busy) clock between (checkReadout p)
  have contact : ∀ q : Panel L, (checkContact q).ov.busy = q.ov.busy := by
    intro q
    unfold checkContact
    split
    · simp only
      split
      · rfl
      · split <;> rfl
    · rfl
  rw [checkStale, contact, waited, (checkReadout_ov p).1]

theorem updateFinished_lowered (p : Panel L) (rc : Int) (refused : String) :
    Lowered p.ov (updateFinished rc refused p).ov := by
  have down := busyHide_lowered p.ov
  simp only [updateFinished]
  by_cases named : (if rc = 0 then "" else refused) = ""
  · rw [if_pos named]
    exact down
  · rw [if_neg named]
    exact down.kept (Stayed.of_busy (notice_kept _ _) rfl)

/-- An event takes the overlay down, or leaves it alone, or puts it up. -/
theorem step_moves (p : Panel L) (event : Event J) :
    (TakesDown p event → Lowered p.ov (step p event).ov) ∧
      (¬ TakesDown p event → Stayed p.ov (step p event).ov ∨ Raised p.ov (step p event).ov) := by
  have stays : ∀ {q : Panel L}, Stayed p.ov q.ov →
      (False → Lowered p.ov q.ov) ∧ (¬ False → Stayed p.ov q.ov ∨ Raised p.ov q.ov) :=
    fun kept => ⟨False.elim, fun _ => Or.inl kept⟩
  have same : Stayed p.ov p.ov := Stayed.refl p.ov
  cases handled : event.isHandled with
  | true =>
    have lifted := (handled_lifted p event handled).moved
    cases event <;> first | exact ⟨False.elim, fun _ => lifted⟩ | cases handled
  | false =>
    cases event with
    | homeTap _ | subTap _ | fileRow _ | slider _ _ | estopTap | callogStop | confirmTap _
    | key _ => cases handled
    | delta j => exact delta_moves p j
    | actionDone id =>
      simp only [step, TakesDown]
      constructor
      · intro waits
        rw [if_pos waits]
        exact busyHide_lowered p.ov
      · intro stray
        rw [if_neg stray]
        exact Or.inl same
    | updateFinished rc refused =>
      simp only [step, TakesDown]
      constructor
      · intro running
        rw [if_neg running]
        exact updateFinished_lowered { p with
          waits := { p.waits with updateRuns := p.waits.updateRuns - 1 } } rc refused
      · intro idle
        rw [if_pos (not_not.mp idle)]
        exact Or.inl same
    | promptShow => exact ⟨fun _ => busyHide_lowered p.ov, fun never => absurd trivial never⟩
    | linkLost =>
      refine ⟨fun _ => ?_, fun never => absurd trivial never⟩
      exact (busyHide_lowered p.ov).kept (Stayed.of_busy (calLogHide_kept _) rfl)
    | watchdog id =>
      refine ⟨fireWatchdog_lowered, fun idle => Or.inl ?_⟩
      show Stayed p.ov (fireWatchdog id p.ov)
      rw [fireWatchdog_idle idle]
      exact same
    | staleTick between =>
      exact stays (Stayed.of_busy (checkStale_kept p between).1 (checkStale_busy p between))
    | filesReply j =>
      have ov : (step p (.filesReply j)).ov = p.ov :=
        filesReply_view Panel.ov (fun _ _ _ _ => rfl) j p
      exact stays (by rw [ov]; exact same)
    | metadataReply i s j =>
      have ov : (step p (.metadataReply i s j)).ov = p.ov :=
        metadataReply_view Panel.ov (fun _ _ _ => rfl) i s j p
      exact stays (by rw [ov]; exact same)
    | loopPass inactive =>
      have ov : (step p (.loopPass inactive : Event J)).ov = p.ov :=
        loopPass_view Panel.ov (fun _ _ _ => rfl) inactive p
      exact stays (by rw [ov]; exact same)
    | printStartReply j =>
      apply stays
      simp only [step]
      split
      · exact same
      · have reply := printStartReply_kept { p with
          waits := { p.waits with printStarts := p.waits.printStarts - 1 } } j
        refine Stayed.of_busy reply.1 ?_
        unfold printStartReply
        split
        · split <;> rfl
        · rfl
    | noticeTap => exact stays (Stayed.of_busy (noticeTap_kept p.ov) rfl)
    | keypadScrim => exact stays (Stayed.of_busy (dismissKeypad_kept p.ov) rfl)
    | estopKeepalive =>
      refine stays (Stayed.of_busy (estopKeepalive_kept p.ov) ?_)
      simp only [step, estopKeepalive]
      split
      · rfl
      · split <;> rfl
    | tick t =>
      cases t
      · exact stays ⟨Iff.rfl, rfl, id⟩
      · exact stays same
    | updateChecked avail latest status =>
      apply stays
      simp only [step]
      split <;> exact same
    | _ => exact stays same

theorem comes_down_iff (p : Panel L) (event : Event J) :
    (p.ov.layer.Shown .busy ∧ ¬ (step p event).ov.layer.Shown .busy) ↔
      p.ov.layer.Shown .busy ∧ TakesDown p event := by
  obtain ⟨takes, leaves⟩ := step_moves p event
  refine and_congr_right fun shown => ⟨fun hidden => ?_, fun down => (takes down).hidden⟩
  by_contra spared
  rcases leaves spared with kept | raised
  · exact hidden (kept.shown.mpr shown)
  · exact hidden raised.shown

/-- Who an event would put the overlay up for. -/
def raiser (p : Panel L) : Event J → Owner
  | .delta _ => .calibration
  | event =>
    if (event.effects p).any Effect.acts then .action p.waits.nextAction
    else if (event.effects p).any Effect.spawns then .update
    else .other

/-- The holder once the event is over: a newer watchdog is a newer holder. -/
def Holder.watch (h : Holder) (p : Panel L) (event : Event J) : Holder :=
  if (step p event).ov.busy.fresh = p.ov.busy.fresh then h
  else { owner := raiser p event, raisedAt := p.ov.clock }

/-- The event is the end of what the overlay stands for; of two update runs it may be
the end of the other one. -/
def Holder.Completes (h : Holder) (p : Panel L) : Event J → Prop
  | .actionDone id => h.owner = .action id
  | .updateFinished _ _ => h.owner = .update ∧ p.waits.updateRuns = 1
  | .delta _ => h.owner = .calibration
  | _ => False

/-- A lost link, a prompt, or a watchdog three minutes after the overlay went up. -/
def Holder.Revokes (h : Holder) (p : Panel L) : Event J → Prop
  | .linkLost | .promptShow => True
  | .watchdog _ => h.raisedAt + 180000 ≤ p.ov.clock
  | _ => False

/-- An end of something that would take the overlay down while it is up is the end of
what it stands for. -/
def Holder.Spared (h : Holder) (p : Panel L) (event : Event J) : Prop :=
  p.ov.layer.Shown .busy →
    match event with
    | .actionDone id => id ∈ p.waits.actions → h.owner = .action id
    | .updateFinished _ _ => p.waits.updateRuns ≠ 0 → h.owner = .update ∧ p.waits.updateRuns = 1
    | .delta j => endsCalibration p j → h.owner = .calibration
    | _ => True

/-- The overlay comes down for what completes its holder or revokes it. -/
def Holder.Fair (h : Holder) (p : Panel L) (event : Event J) : Prop :=
  p.ov.layer.Shown .busy → ¬ (step p event).ov.layer.Shown .busy →
    h.Completes p event ∨ h.Revokes p event

theorem watch_armed {h : Holder} {p : Panel L} (event : Event J)
    (armed : Armed h.raisedAt p.ov.busy) :
    Armed (h.watch p event).raisedAt (step p event).ov.busy := by
  obtain ⟨takes, leaves⟩ := step_moves p event
  unfold Holder.watch
  by_cases down : TakesDown p event
  · rw [if_pos (takes down).serial]
    exact (takes down).armed armed
  · rcases leaves down with kept | raised
    · rw [if_pos kept.serial]
      exact kept.armed armed
    · rw [if_neg (Nat.ne_of_gt raised.serial)]
      exact raised.armed armed

theorem fair_iff_spared {h : Holder} {p : Panel L} (event : Event J)
    (armed : Armed h.raisedAt p.ov.busy) : h.Fair p event ↔ h.Spared p event := by
  have down := comes_down_iff p event
  have fair : h.Fair p event ↔ (p.ov.layer.Shown .busy → TakesDown p event →
      h.Completes p event ∨ h.Revokes p event) := by
    constructor
    · exact fun fair shown takes => fair shown (down.mpr ⟨shown, takes⟩).2
    · exact fun fair shown hidden => fair shown (down.mp ⟨shown, hidden⟩).2
  have completes : ∀ {takes ends : Prop}, (takes → ends ∨ False) ↔ (takes → ends) := by
    intro takes ends
    rw [or_false]
  rw [fair]
  cases event with
  | actionDone id => exact forall_congr' fun _ => completes
  | updateFinished rc refused => exact forall_congr' fun _ => completes
  | delta j => exact forall_congr' fun _ => completes
  | watchdog id =>
    refine iff_of_true (fun _ takes => ?_) (fun _ => trivial)
    obtain ⟨t, member, -, due⟩ := takes
    rw [(armed t member).2] at due
    exact Or.inr due
  | linkLost => exact iff_of_true (fun _ _ => Or.inr trivial) (fun _ => trivial)
  | promptShow => exact iff_of_true (fun _ _ => Or.inr trivial) (fun _ => trivial)
  | _ => exact iff_of_true (fun _ => False.elim) (fun _ => trivial)

/-- Who holds the overlay after the events of a run. -/
def holderAfter (L : Type → Type) [Layer L] [LawfulLayer L] (events : List (Event J)) : Holder :=
  (run (observed Holder.watch step) ({}, (Panel.initial : Panel L)) events).1

/-- In a run the overlay comes down only for its last holder, a lost link, a prompt or its
watchdog, exactly if no end of anything else arrives while it is up. -/
theorem overlay_held (L : Type → Type) [Layer L] [LawfulLayer L] (events : List (Event J)) :
    (∀ before event, before ++ [event] <+: events →
      (holderAfter L before).Fair (after before : Panel L) event) ↔
    ∀ before event, before ++ [event] <+: events →
      (holderAfter L before).Spared (after before : Panel L) event := by
  have stepwise : ∀ watched : Holder → Panel L → Event J → Prop,
      (∀ before event, before ++ [event] <+: events →
        watched (holderAfter L before) (after before) event) ↔
      Along (observed Holder.watch step) (fun pair event => watched pair.1 pair.2 event)
        ({}, Panel.initial) events :=
    fun watched => (along_observed_iff_forall _ Panel.initial events).symm
  rw [stepwise Holder.Fair, stepwise Holder.Spared]
  have kept : ∀ (pair : Holder × Panel L) (event : Event J),
      Armed pair.1.raisedAt pair.2.ov.busy →
        Armed (observed Holder.watch step pair event).1.raisedAt
          (observed Holder.watch step pair event).2.ov.busy :=
    fun pair event armed => watch_armed event armed
  apply along_congr_of_invariant kept
  · exact fun pair event armed => fair_iff_spared event armed
  · exact armed_of_none rfl

end Step

/-- Home all, three silent minutes, the watchdog, and a load. -/
def lateLoad : List (Event Json) :=
  [.subTap (.move .homeAll), .tick (.elapse 180000), .watchdog 0, .subTap .load]

/-- Only the load ends in that run, and its own reply takes its overlay down. -/
theorem overlay_held_load :
    (holderAfter ZStack lateLoad).Fair (after lateLoad : Panel ZStack)
      (.actionDone 1 : Event Json) := by
  apply (overlay_held ZStack (lateLoad ++ [.actionDone 1])).mpr ?_ lateLoad (.actionDone 1)
  · exact List.prefix_rfl
  intro before event isPrefix
  rcases List.prefix_concat_iff.mp isPrefix with whole | earlier
  · obtain ⟨rfl, same⟩ := List.append_inj' whole rfl
    cases same
    have own : (holderAfter ZStack lateLoad).owner = .action 1 := by decide
    exact fun _ _ => own
  · have member : event ∈ lateLoad :=
      earlier.subset (List.mem_append_right before List.mem_cons_self)
    simp only [lateLoad, List.mem_cons, List.not_mem_nil, or_false] at member
    rcases member with rfl | rfl | rfl | rfl <;> exact fun _ => trivial

/-- The reply of the homing takes the overlay of the load down. -/
theorem load_uncovered :
    ¬ ∀ (events before : List (Event Json)) (event : Event Json),
      before ++ [event] <+: events →
        (holderAfter ZStack before).Fair (after before : Panel ZStack) event := by
  intro always
  have fair := always (lateLoad ++ [.actionDone 0]) lateLoad (.actionDone 0) List.prefix_rfl
  rcases fair (by decide) (by decide) with own | revoked
  · have homing : (holderAfter ZStack lateLoad).owner = .action 0 := own
    exact absurd homing (by decide)
  · exact revoked

end GrumpyScreen
