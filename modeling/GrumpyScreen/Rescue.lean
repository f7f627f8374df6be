import GrumpyScreen.BusyWatchdog
import GrumpyScreen.EstopReach
import GrumpyScreen.OverlayRule

/-! The stop action from every state: by waiting for the busy watchdog at most, and by
touches on what the glass then shows, the emergency stop is sent. -/

namespace GrumpyScreen

open Lib Lib.Exec

def Rect.holds (r : Rect) (x y : Int) : Bool :=
  r.x ≤ x && x < r.x + r.w && r.y ≤ y && y < r.y + r.h

/-- The overlays that cover the glass. -/
def fullScreens : List TopObj := [.numScrim, .confirmScrim, .noticeScrim, .busy]

theorem mem_fullScreens {o : TopObj} (full : o.fullScreen = true) : o ∈ fullScreens := by
  cases o <;> first | exact absurd full (by decide) | simp [fullScreens]

section Layer

variable {L : Type → Type} [Layer L]

/-- Some point of the glass shows the object with nothing over it, so that a touch there is
its own. -/
def Touchable (t : TopLayer L) (o : TopObj) : Prop :=
  t.Shown o ∧ ∃ x y, Rect.screen.holds x y = true ∧ (TopObj.rect o).holds x y = true ∧
    ∀ upper, t.Above o upper → t.Shown upper → (TopObj.rect upper).holds x y = false

theorem touchable_of_last {t : TopLayer L} {o : TopObj} (full : o.fullScreen = true)
    (shown : t.Shown o)
    (last : ∀ upper, t.Above o upper → t.Shown upper → upper.fullScreen = false) :
    Touchable t o := by
  have edge : ∀ other : TopObj, (TopObj.rect other).holds 5 100 = other.fullScreen := by
    intro other
    cases other <;> rfl
  refine ⟨shown, 5, 100, rfl, (edge o).trans full, fun upper above visible => ?_⟩
  exact (edge upper).trans (last upper above visible)

/-- What holds of the overlays in every run: each scrim is up exactly with its card, the
button is shown, and a busy overlay has its timer armed within 180 seconds. -/
structure Orderly (o : Overlays L) : Prop where
  keypad : o.layer.Shown .numScrim ↔ o.layer.Shown .numCard
  dialog : o.layer.Shown .confirmScrim ↔ o.layer.Shown .confirmCard
  notice : o.layer.Shown .noticeScrim ↔ o.layer.Shown .noticeCard
  estop : o.layer.Shown .estop
  watched : Watched o
  due : ∀ t ∈ o.busy.timers, t.due ≤ o.clock + 180000

end Layer

section Invariant

variable {L : Type → Type} [Layer L] [LawfulLayer L] {o : Overlays L}

omit [LawfulLayer L] in
theorem Orderly.layered {q : Overlays L} (orderly : Orderly o) (timer : q.busy = o.busy)
    (clock : q.clock = o.clock) (keypad : q.layer.Shown .numScrim ↔ q.layer.Shown .numCard)
    (dialog : q.layer.Shown .confirmScrim ↔ q.layer.Shown .confirmCard)
    (notice : q.layer.Shown .noticeScrim ↔ q.layer.Shown .noticeCard)
    (estop : q.layer.Shown .estop) (busy : q.layer.Shown .busy ↔ o.layer.Shown .busy) :
    Orderly q where
  keypad := keypad
  dialog := dialog
  notice := notice
  estop := estop
  watched := by
    refine ⟨?_, ?_, ?_⟩
    · rw [timer]
      exact busy.trans orderly.watched.visible
    · rw [timer]
      exact fun down => orderly.watched.hidden fun up => down (busy.mpr up)
    · rw [timer]
      exact orderly.watched.pointer
  due := by
    rw [timer, clock]
    exact orderly.due

theorem Orderly.busyShow (orderly : Orderly o) (text : String) :
    Orderly (GrumpyScreen.busyShow text o) := by
  obtain ⟨-, watched, armed⟩ := show_watched orderly.watched text
  refine ⟨?_, ?_, ?_, ?_, watched, ?_⟩
  · simpa using orderly.keypad
  · simpa using orderly.dialog
  · simpa using orderly.notice
  · simpa using orderly.estop
  · intro t member
    rw [armed] at member
    cases List.mem_singleton.mp member
    exact le_rfl

theorem Orderly.busyHide (orderly : Orderly o) : Orderly (GrumpyScreen.busyHide o) := by
  have watched := (hide_watched orderly.watched).2
  refine ⟨?_, ?_, ?_, ?_, watched, ?_⟩
  · simpa using orderly.keypad
  · simpa using orderly.dialog
  · simpa using orderly.notice
  · simpa using orderly.estop
  · intro t member
    rw [watched.hidden (by simp)] at member
    cases member

theorem Orderly.expire (orderly : Orderly o) (id : Nat) : Orderly (fireWatchdog id o) := by
  have watched := (expire_watched orderly.watched id).2
  have hidden : Orderly (GrumpyScreen.busyHide o) := orderly.busyHide
  unfold fireWatchdog at watched ⊢
  split at watched
  · next fires =>
    rw [if_pos fires]
    refine ⟨hidden.keypad, hidden.dialog, hidden.notice, hidden.estop, watched, fun t member => ?_⟩
    exact orderly.due t (List.mem_of_mem_filter member)
  · next waits =>
    rw [if_neg waits]
    exact orderly

theorem Orderly.logbookShow (orderly : Orderly o) (view : CalLogView) :
    Orderly (calLogShow view o) :=
  orderly.layered rfl rfl (by simpa [calLogShow] using orderly.keypad)
    (by simpa [calLogShow] using orderly.dialog)
    (by simpa [calLogShow] using orderly.notice)
    (by simpa [calLogShow] using orderly.estop) (by simp [calLogShow])

theorem Orderly.logbookHide (orderly : Orderly o) :
    Orderly (calLogHide o) :=
  orderly.layered rfl rfl (by simpa [calLogHide] using orderly.keypad)
    (by simpa [calLogHide] using orderly.dialog)
    (by simpa [calLogHide] using orderly.notice)
    (by simpa [calLogHide] using orderly.estop) (by simp [calLogHide])

theorem Orderly.keepalive (orderly : Orderly o) : Orderly (estopKeepalive o) := by
  unfold estopKeepalive
  split
  · exact orderly
  · split
    · exact orderly
    · exact orderly.layered rfl rfl (by simpa using orderly.keypad) (by simpa using orderly.dialog)
        (by simpa using orderly.notice) (by simpa using orderly.estop) (by simp)

theorem Orderly.openNotice (orderly : Orderly o) (msg : String) :
    Orderly (GrumpyScreen.notice msg o) :=
  orderly.layered rfl rfl (by simpa [GrumpyScreen.notice] using orderly.keypad)
    (by simpa [GrumpyScreen.notice] using orderly.dialog)
    (by simp [GrumpyScreen.notice])
    (by simpa [GrumpyScreen.notice] using orderly.estop) (by simp [GrumpyScreen.notice])

theorem Orderly.openDialog (orderly : Orderly o) (msg : String) (action : Action) :
    Orderly (confirm msg action o) :=
  orderly.layered rfl rfl (by simpa [confirm] using orderly.keypad)
    (by simp [confirm])
    (by simpa [confirm] using orderly.notice)
    (by simpa [confirm] using orderly.estop) (by simp [confirm])

theorem Orderly.openKeypad (orderly : Orderly o) (use : KeypadUse) :
    Orderly (GrumpyScreen.openKeypad use o) :=
  orderly.layered rfl rfl (by simp [GrumpyScreen.openKeypad])
    (by simpa [GrumpyScreen.openKeypad] using orderly.dialog)
    (by simpa [GrumpyScreen.openKeypad] using orderly.notice)
    (by simpa [GrumpyScreen.openKeypad] using orderly.estop) (by simp [GrumpyScreen.openKeypad])

theorem Orderly.hideDialog (orderly : Orderly o) :
    Orderly (hideConfirm o) :=
  orderly.layered rfl rfl (by simpa [hideConfirm] using orderly.keypad)
    (by simp [hideConfirm])
    (by simpa [hideConfirm] using orderly.notice)
    (by simpa [hideConfirm] using orderly.estop) (by simp [hideConfirm])

theorem Orderly.hideNotice (orderly : Orderly o) :
    Orderly (noticeTap o) :=
  orderly.layered rfl rfl (by simpa [noticeTap] using orderly.keypad)
    (by simpa [noticeTap] using orderly.dialog)
    (by simp [noticeTap])
    (by simpa [noticeTap] using orderly.estop) (by simp [noticeTap])

theorem Orderly.hideKeypad (orderly : Orderly o) :
    Orderly (dismissKeypad o) :=
  orderly.layered rfl rfl (by simp [dismissKeypad])
    (by simpa [dismissKeypad] using orderly.dialog)
    (by simpa [dismissKeypad] using orderly.notice)
    (by simpa [dismissKeypad] using orderly.estop) (by simp [dismissKeypad])

theorem orderly_background : KeptInBackground (Orderly (L := L)) where
  busyShow _ text orderly := orderly.busyShow text
  busyHide _ orderly := orderly.busyHide
  logbookShow _ view orderly := orderly.logbookShow view
  logbookHide _ orderly := orderly.logbookHide
  expire _ id orderly := orderly.expire id
  keepalive _ orderly := orderly.keepalive
  elapse o ms orderly :=
    { orderly with
      watched := ⟨orderly.watched.visible, orderly.watched.hidden, orderly.watched.pointer⟩
      due := fun t member => (orderly.due t member).trans (by
        show o.clock + 180000 ≤ o.clock + ms + 180000
        omega) }
  notice _ msg orderly := orderly.openNotice msg
  refusal _ msg orderly := orderly.openDialog msg .acknowledge

theorem orderly_taps : KeptByTaps (Orderly (L := L)) where
  answer _ orderly := orderly.hideDialog
  empty _ orderly :=
    orderly.layered rfl rfl orderly.keypad orderly.dialog orderly.notice orderly.estop Iff.rfl
  read _ orderly := orderly.hideNotice
  type _ _ orderly :=
    orderly.layered rfl rfl orderly.keypad orderly.dialog orderly.notice orderly.estop Iff.rfl
  dismiss _ orderly := orderly.hideKeypad

theorem orderly_initial : Orderly (Overlays.initial : Overlays L) where
  keypad := by simp [Overlays.initial, TopLayer.shown_initial]
  dialog := by simp [Overlays.initial, TopLayer.shown_initial]
  notice := by simp [Overlays.initial, TopLayer.shown_initial]
  estop := (TopLayer.shown_initial .estop).mpr rfl
  watched := watched_initial
  due := by
    intro t member
    cases member

variable {J : Type} [JsonLib J]

theorem step_orderly (p : Panel L) (event : Event J) (orderly : Orderly p.ov) :
    Orderly (step p event).ov := by
  refine step_overlays orderly_background orderly_taps p event ?_ orderly
  intro q effect _ orderly
  rw [perform_ov]
  cases effect with
  | act text script => exact orderly.busyShow text
  | busy text => exact orderly.busyShow text
  | confirm msg action => exact orderly.openDialog msg action
  | notice msg => exact orderly.openNotice msg
  | keypad use => exact orderly.openKeypad use
  | _ => exact orderly

theorem run_orderly {p : Panel L} (orderly : Orderly p.ov) (events : List (Event J)) :
    Orderly (run step p events).ov := by
  induction events generalizing p with
  | nil => exact orderly
  | cons event rest ih => exact ih (step_orderly p event orderly)

omit [JsonLib J] in
theorem fire_armed {t : Watchdog} (armed : o.busy.timers = [t]) (due : t.due ≤ o.clock) :
    (fireWatchdog t.id o).layer = o.layer.conceal .busy := by
  have fires : o.busy.timers.any (fun s => s.id = t.id ∧ s.due ≤ o.clock) = true := by
    simp [armed, due]
  unfold fireWatchdog
  rw [if_pos fires]
  rfl

end Invariant

section Rescue

variable {L : Type → Type} [Layer L] {J : Type}

/-- What is left to the operator: time that passes with the timers that come due, and
touches on what the glass shows. -/
def Possible (p : Panel L) : Event J → Prop
  | .tick (.elapse _) | .watchdog _ | .estopKeepalive => True
  | .keypadScrim => Touchable p.ov.layer .numScrim
  | .noticeTap => Touchable p.ov.layer .noticeScrim
  | .confirmTap .scrim => Touchable p.ov.layer .confirmScrim
  | .estopTap => Touchable p.ov.layer .estop
  | .confirmTap .confirm => ConfirmReachable p.ov.layer
  | _ => False

/-- The milliseconds an event waits. -/
def Event.waits : Event J → Nat
  | .tick (.elapse ms) => ms
  | _ => 0

def waited (events : List (Event J)) : Nat := (events.map Event.waits).sum

theorem waited_append (first second : List (Event J)) :
    waited (first ++ second) = waited first + waited second := by
  simp [waited]

variable [LawfulLayer L] [JsonLib J]

/-- What uncovers the object: the full screens shown afterwards were shown before, without
it. -/
structure Uncovers (p : Panel L) (o : TopObj) (events : List (Event J)) : Prop where
  few : events.length ≤ 2
  possible : Along step Possible p events
  fewer : ∀ other, other.fullScreen = true → (run step p events).ov.layer.Shown other →
    other ≠ o ∧ p.ov.layer.Shown other
  soon : waited events ≤ if o = .busy then 180000 else 0

/-- A full screen with none over it goes down: a scrim by a touch beside its card, the busy
overlay when its timer comes due. -/
theorem uncover_last {p : Panel L} (orderly : Orderly p.ov) {o : TopObj}
    (full : o.fullScreen = true) (shown : p.ov.layer.Shown o)
    (last : ∀ upper, p.ov.layer.Above o upper → p.ov.layer.Shown upper →
      upper.fullScreen = false) : ∃ events : List (Event J), Uncovers p o events := by
  have touch := touchable_of_last full shown last
  cases o with
  | numScrim =>
    refine ⟨[.keypadScrim], Nat.le_succ 1, ⟨touch, trivial⟩, fun other _ visible => ?_, le_rfl⟩
    have left : (dismissKeypad p.ov).layer.Shown other := visible
    simp only [dismissKeypad, Stack.shown_drop] at left
    exact ⟨left.1, left.2.2⟩
  | confirmScrim =>
    refine ⟨[.confirmTap .scrim], Nat.le_succ 1, ⟨touch, trivial⟩, fun other _ visible => ?_, le_rfl⟩
    have left : (hideConfirm p.ov).layer.Shown other := visible
    simp only [hideConfirm, Stack.shown_drop] at left
    exact ⟨left.1, left.2.2⟩
  | noticeScrim =>
    refine ⟨[.noticeTap], Nat.le_succ 1, ⟨touch, trivial⟩, fun other _ visible => ?_, le_rfl⟩
    have left : (noticeTap p.ov).layer.Shown other := visible
    simp only [noticeTap, Stack.shown_drop] at left
    exact ⟨left.1, left.2.2⟩
  | busy =>
    obtain ⟨t, armed⟩ := orderly.watched.visible.mp shown
    have due : t.due ≤ p.ov.clock + 180000 := orderly.due t (by simp [armed])
    refine ⟨[.tick (.elapse 180000), .watchdog t.id], le_rfl, ⟨trivial, trivial, trivial⟩,
      fun other _ visible => ?_, le_rfl⟩
    have left : (fireWatchdog t.id { p.ov with clock := p.ov.clock + 180000 }).layer.Shown other :=
      visible
    rw [fire_armed (o := { p.ov with clock := p.ov.clock + 180000 }) armed due,
      Stack.shown_conceal] at left
    exact left
  | _ => cases full

theorem uncover (n : Nat) {p : Panel L} (orderly : Orderly p.ov) (covers : List TopObj)
    (count : covers.length = n) (distinct : covers.Nodup)
    (among : ∀ o, o.fullScreen = true → p.ov.layer.Shown o → o ∈ covers) :
    ∃ events : List (Event J), events.length ≤ 2 * n ∧ Along step Possible p events ∧
      (∀ o, o.fullScreen = true → ¬ (run step p events).ov.layer.Shown o) ∧
      waited events ≤ if .busy ∈ covers then 180000 else 0 := by
  induction n generalizing p covers with
  | zero =>
    rw [List.length_eq_zero_iff] at count
    subst count
    refine ⟨[], le_rfl, trivial, fun o full shown => ?_, Nat.zero_le _⟩
    exact (List.not_mem_nil (among o full shown)).elim
  | succ n ih =>
    by_cases covered : ∃ o ∈ Layer.children p.ov.layer.raw,
        o.fullScreen = true ∧ p.ov.layer.Shown o
    · obtain ⟨o, -, ⟨full, shown⟩, top⟩ := Layer.exists_topmost p.ov.layer.distinct covered
      have last : ∀ upper, p.ov.layer.Above o upper → p.ov.layer.Shown upper →
          upper.fullScreen = false := fun upper above visible =>
        Bool.eq_false_iff.mpr fun wide => top upper above ⟨wide, visible⟩
      obtain ⟨first, uncovers⟩ := uncover_last (J := J) orderly full shown last
      have member := among o full shown
      have shorter : (covers.erase o).length = n := by
        rw [List.length_erase_of_mem member, count]
        rfl
      obtain ⟨rest, few, possible, clear, soon⟩ := ih (run_orderly orderly first) _ shorter
        (distinct.erase o) fun other wide visible => by
          obtain ⟨apart, before⟩ := uncovers.fewer other wide visible
          exact (List.mem_erase_of_ne apart).mpr (among other wide before)
      refine ⟨first ++ rest, ?_, ?_, ?_, ?_⟩
      · have two := uncovers.few
        rw [List.length_append]
        omega
      · exact (along_append _ _ _).mpr ⟨uncovers.possible, possible⟩
      · rw [run_append]
        exact clear
      · have now := uncovers.soon
        rw [waited_append]
        by_cases busy : o = .busy
        · -- the timer is waited for once: the busy overlay is not among the rest
          subst busy
          rw [if_neg distinct.not_mem_erase] at soon
          rw [if_pos rfl] at now
          rw [if_pos member]
          omega
        · rw [if_neg busy] at now
          have kept : (.busy ∈ covers.erase o) ↔ .busy ∈ covers :=
            List.mem_erase_of_ne fun same => busy same.symm
          simp only [kept] at soon
          omega
    · refine ⟨[], Nat.zero_le _, trivial, fun o full shown => ?_, Nat.zero_le _⟩
      exact covered ⟨o, shown.1, full, shown⟩

/-- Where no full screen is up, the keepalive timer brings the button to the front, and two
touches send the emergency stop. -/
theorem stop_uncovered {p : Panel L} (orderly : Orderly p.ov)
    (clear : ∀ o : TopObj, o.fullScreen = true → ¬ p.ov.layer.Shown o) :
    let rescue : List (Event J) := [.estopKeepalive, .estopTap, .confirmTap .confirm]
    Along step Possible p rescue ∧ .emergencyStop ∈ (run step p rescue).sent := by
  intro rescue
  have closed : ¬ p.ov.layer.Shown .confirmCard := fun card =>
    clear .confirmScrim rfl (orderly.dialog.mpr card)
  have order : StopOrder p.ov.layer := ⟨orderly.estop, fun card => absurd card closed⟩
  let ticked : Panel L := step p (.estopKeepalive : Event J)
  have front : StopOrder ticked.ov.layer := estopKeepalive_order p.ov order
  have down : ¬ ticked.ov.layer.Shown .confirmCard :=
    (estopKeepalive_same p.ov).2.not.mpr closed
  have touch : Touchable ticked.ov.layer .estop := by
    refine ⟨front.estop, 404, 10, rfl, rfl, fun upper above shown => ?_⟩
    rcases estopKeepalive_reachable p.ov order with top | dialog
    · have hidden := top.2.2 upper shown.1 above
      exact absurd (shown.2.symm.trans hidden) Bool.false_ne_true
    · exact absurd dialog.card down
  let asked : Panel L := step ticked (.estopTap : Event J)
  have opened : StopOrder asked.ov.layer := front.openDialog
  have card : asked.ov.layer.Shown .confirmCard := Stack.shown_raise.mpr (Or.inl rfl)
  have pending : asked.ov.pending = some .emergencyStop := rfl
  refine ⟨⟨trivial, touch, opened.reachable card, trivial⟩, ?_⟩
  have sent : (step asked (.confirmTap .confirm : Event J)).sent = _ :=
    confirmTap_sent (J := J) asked .confirm
  show .emergencyStop ∈ (step asked (.confirmTap .confirm : Event J)).sent
  rw [sent]
  simp [Event.effects, pending, runAction, commandsOf, Effect.commands]

/-- From every state of every run the emergency stop can be sent, whatever lies over the
button and the dialog then: within 180 seconds, by at most eleven timers and touches, each
touch on what the glass shows when it is made. -/
theorem stop_always_possible (events : List (Event J)) :
    ∃ rescue : List (Event J), rescue.length ≤ 11 ∧ waited rescue ≤ 180000 ∧
      Along step Possible (after events : Panel L) rescue ∧
      .emergencyStop ∈ (run step (after events : Panel L) rescue).sent := by
  have orderly : Orderly (after events : Panel L).ov :=
    run_orderly (p := (Panel.initial : Panel L)) orderly_initial events
  obtain ⟨first, few, possible, clear, soon⟩ :=
    uncover (J := J) 4 orderly fullScreens rfl (by decide) fun o full _ => mem_fullScreens full
  obtain ⟨touches, sent⟩ := stop_uncovered (J := J) (run_orderly orderly first) clear
  refine ⟨first ++ [.estopKeepalive, .estopTap, .confirmTap .confirm], ?_, ?_, ?_, ?_⟩
  · rw [List.length_append]
    exact Nat.add_le_add_right few 3
  · rw [waited_append]
    exact soon
  · exact (along_append _ _ _).mpr ⟨possible, touches⟩
  · rw [run_append]
    exact sent

end Rescue

/-- A calibration step covers the open dialog. -/
theorem stop_always_possible_covered :
    let events : List (Event Json) := [.estopTap, .delta calibrationStarted]
    ∃ rescue : List (Event Json), rescue.length ≤ 11 ∧ waited rescue ≤ 180000 ∧
      Along step Possible (after events : Panel ZStack) rescue ∧
      .emergencyStop ∈ (run step (after events : Panel ZStack) rescue).sent :=
  stop_always_possible _

end GrumpyScreen
