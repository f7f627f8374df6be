import GrumpyScreen.Lib.Run
import GrumpyScreen.Overlay

/-! The busy overlay and its watchdog with every `lv_timer_del` checked: who owns
the one timer over any order of shows, hides and expiries. -/

namespace GrumpyScreen

open Lib

variable {L : Type → Type} [Layer L]

/-- The overlay is up exactly with one timer armed, and the pointer names it. -/
structure Watched (o : Overlays L) : Prop where
  visible : o.layer.Shown .busy ↔ ∃ t, o.busy.timers = [t]
  hidden : ¬ o.layer.Shown .busy → o.busy.timers = []
  pointer : o.busy.watchdog = o.busy.timers.head?.map (·.id)

section Down

variable {o : Overlays L}

theorem Watched.few (watched : Watched o) : o.busy.timers = [] ∨ ∃ t, o.busy.timers = [t] := by
  by_cases up : o.layer.Shown .busy
  · exact Or.inr (watched.visible.mp up)
  · exact Or.inl (watched.hidden up)

theorem watched_down (down : ¬ o.layer.Shown .busy) (none : o.busy.timers = [])
    (pointer : o.busy.watchdog = Option.none) : Watched o where
  visible := by simp [down, none]
  hidden _ := none
  pointer := by simp [none, pointer]

end Down

variable [LawfulLayer L]

namespace Checked

/-- `lv_timer_del`; none on a timer that was freed before. -/
def lvTimerDel (id : Nat) (b : Busy) : Option Busy :=
  if b.timers.any (·.id = id) then some { b with timers := b.timers.filter (·.id ≠ id) } else none

def busyCancelWatchdog (b : Busy) : Option Busy :=
  match b.watchdog with
  | some id => (lvTimerDel id b).map fun freed => { freed with watchdog := none }
  | none => some b

def busyShow (text : String) (o : Overlays L) : Option (Overlays L) :=
  (busyCancelWatchdog { o.busy with text := cStr text }).map fun busy =>
    { o with layer := o.layer.raise .busy, busy := busy.arm o.clock }

def busyHide (o : Overlays L) : Option (Overlays L) :=
  (busyCancelWatchdog o.busy).map fun busy =>
    { o with layer := o.layer.conceal .busy, busy := busy }

def busyWatchdogCb (o : Overlays L) : Option (Overlays L) :=
  busyHide { o with busy := { o.busy with watchdog := none } }

/-- A live timer that is due runs its callback once, then the toolkit frees it. -/
def fireWatchdog (id : Nat) (o : Overlays L) : Option (Overlays L) :=
  if o.busy.timers.any (fun t => t.id = id ∧ t.due ≤ o.clock) then
    (busyWatchdogCb o).bind fun fired =>
      (lvTimerDel id fired.busy).map fun busy => { fired with busy := busy }
  else some o

end Checked

/-- What can happen to the overlay. -/
inductive BusyEvent where
  | shown (text : String)
  | hidden
  | expired (id : Nat)
  | elapsed (ms : Nat)
deriving DecidableEq, Repr

def BusyEvent.check (o : Overlays L) : BusyEvent → Option (Overlays L)
  | .shown text => Checked.busyShow text o
  | .hidden => Checked.busyHide o
  | .expired id => Checked.fireWatchdog id o
  | .elapsed ms => some { o with clock := o.clock + ms }

def BusyEvent.take (o : Overlays L) : BusyEvent → Overlays L
  | .shown text => busyShow text o
  | .hidden => busyHide o
  | .expired id => fireWatchdog id o
  | .elapsed ms => { o with clock := o.clock + ms }

section Timer

variable {b : Busy} {t : Watchdog}

theorem lvTimerDel_live (live : b.timers = [t]) :
    Checked.lvTimerDel t.id b = some { b with timers := [] } := by
  simp [Checked.lvTimerDel, live]

/-- With the pointer on the one live timer, or on none, the cancel is sound and
leaves no timer. -/
theorem cancel_sound (few : b.timers = [] ∨ ∃ t, b.timers = [t])
    (pointer : b.watchdog = b.timers.head?.map (·.id)) :
    Checked.busyCancelWatchdog b = some (busyCancelWatchdog b) ∧
      (busyCancelWatchdog b).timers = [] := by
  rcases few with none | ⟨t, one⟩
  · rw [none, List.head?_nil, Option.map_none] at pointer
    rw [Checked.busyCancelWatchdog, busyCancelWatchdog, pointer]
    exact ⟨rfl, none⟩
  · rw [one, List.head?_cons, Option.map_some] at pointer
    rw [Checked.busyCancelWatchdog, busyCancelWatchdog, pointer]
    simp [lvTimerDel_live one, one]

end Timer

section Step

variable {o : Overlays L}

theorem watched_initial : Watched (Overlays.initial : Overlays L) :=
  watched_down (by simp [Overlays.initial, TopLayer.shown_initial]) rfl rfl

theorem show_watched (watched : Watched o) (text : String) :
    Checked.busyShow text o = some (busyShow text o) ∧ Watched (busyShow text o) ∧
      (busyShow text o).busy.timers = [⟨o.busy.fresh, o.clock + 180000⟩] := by
  obtain ⟨sound, cleared⟩ :=
    cancel_sound (b := { o.busy with text := cStr text }) watched.few watched.pointer
  have armed : (busyShow text o).busy.timers = [⟨o.busy.fresh, o.clock + 180000⟩] := by
    simp [busyShow, Busy.arm, cleared]
  refine ⟨?_, ?_, armed⟩
  · rw [Checked.busyShow, sound]
    rfl
  · refine ⟨by simp [armed], by simp, ?_⟩
    rw [armed]
    simp [busyShow, Busy.arm]

theorem hide_watched (watched : Watched o) :
    Checked.busyHide o = some (busyHide o) ∧ Watched (busyHide o) := by
  obtain ⟨sound, cleared⟩ := cancel_sound watched.few watched.pointer
  refine ⟨?_, watched_down (by simp) cleared (by simp [busyHide])⟩
  rw [Checked.busyHide, sound]
  rfl

/-- An expiry clears the pointer first, so the hide it calls frees nothing and the
toolkit frees the timer that ran. -/
theorem expire_watched (watched : Watched o) (id : Nat) :
    Checked.fireWatchdog id o = some (fireWatchdog id o) ∧ Watched (fireWatchdog id o) := by
  by_cases fires : o.busy.timers.any (fun t => t.id = id ∧ t.due ≤ o.clock) = true
  · obtain ⟨t, one⟩ : ∃ t, o.busy.timers = [t] := by
      rcases watched.few with none | one
      · simp [none] at fires
      · exact one
    obtain ⟨rfl, -⟩ : t.id = id ∧ t.due ≤ o.clock := by simpa [one] using fires
    rw [Checked.fireWatchdog, fireWatchdog, if_pos fires, if_pos fires]
    have ran : Checked.busyWatchdogCb o = some (busyWatchdogCb o) := rfl
    have live : (busyWatchdogCb o).busy.timers = [t] := one
    refine ⟨?_, watched_down (by simp [busyWatchdogCb]) (by simp [live]) ?_⟩
    · rw [ran, Option.bind_some, lvTimerDel_live live]
      simp [live]
    · simp [busyWatchdogCb, busyHide]
  · rw [Checked.fireWatchdog, fireWatchdog, if_neg fires, if_neg fires]
    exact ⟨rfl, watched⟩

theorem take_watched (watched : Watched o) (event : BusyEvent) :
    event.check o = some (event.take o) ∧ Watched (event.take o) := by
  cases event with
  | shown text => exact ⟨(show_watched watched text).1, (show_watched watched text).2.1⟩
  | hidden => exact hide_watched watched
  | expired id => exact expire_watched watched id
  | elapsed ms => exact ⟨rfl, watched.visible, watched.hidden, watched.pointer⟩

/-- Over any order of shows, hides and expiries no timer is freed twice, the overlay is
up exactly with one timer armed, which the pointer names, none is left once it is down,
and each show arms a new one for the full time. -/
theorem busy_watchdog_owned (events : List BusyEvent) :
    ∃ o : Overlays L, events.foldlM BusyEvent.check .initial = some o ∧ Watched o ∧
      ∀ text, ∃ up, Checked.busyShow text o = some up ∧
        up.busy.timers = [⟨o.busy.fresh, o.clock + 180000⟩] := by
  have steps : ∀ (o : Overlays L) (event : BusyEvent), Watched o → Watched (event.take o) :=
    fun _ event watched => (take_watched watched event).2
  have watched := run_invariant steps (watched_initial (L := L)) events
  refine ⟨_, run_faultless steps ?_ watched_initial events, watched, ?_⟩
  · intro o event watched
    exact (take_watched watched event).1
  · intro text
    obtain ⟨shown, -, armed⟩ := show_watched watched text
    exact ⟨_, shown, armed⟩

/-- Shown twice, expired on the second timer and hidden again. -/
theorem busy_watchdog_owned_expiry :
    ∃ o : Overlays ZStack, [BusyEvent.shown "Loading", .elapsed 60000, .shown "Loading",
        .elapsed 180000, .expired 1, .hidden].foldlM BusyEvent.check .initial = some o ∧ Watched o ∧
      ∀ text, ∃ up, Checked.busyShow text o = some up ∧
        up.busy.timers = [⟨o.busy.fresh, o.clock + 180000⟩] :=
  busy_watchdog_owned _

end Step

end GrumpyScreen
