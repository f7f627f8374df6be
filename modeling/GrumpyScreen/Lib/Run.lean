import Mathlib.Data.List.Basic

/-! Runs of a deterministic machine over a list of events, the induction that carries an
invariant along the runs whose every step meets a condition, and the one that carries a
refinement along. -/

namespace GrumpyScreen.Lib

variable {σ ε ω : Type*}

/-- The state after the events, first to last. -/
def run (step : σ → ε → σ) (start : σ) (events : List ε) : σ := events.foldl step start

/-- Every event of the run meets the condition in the state it is taken in. -/
def Along (step : σ → ε → σ) (allowed : σ → ε → Prop) : σ → List ε → Prop
  | _, [] => True
  | s, event :: rest => allowed s event ∧ Along step allowed (step s event) rest

section Run

variable {step : σ → ε → σ} {allowed : σ → ε → Prop}

@[simp] theorem run_nil (s : σ) : run step s [] = s := rfl

@[simp] theorem run_cons (s : σ) (event : ε) (rest : List ε) :
    run step s (event :: rest) = run step (step s event) rest := rfl

theorem run_append (s : σ) (first second : List ε) :
    run step s (first ++ second) = run step (run step s first) second :=
  List.foldl_append

@[simp] theorem run_snoc (s : σ) (events : List ε) (event : ε) :
    run step s (events ++ [event]) = step (run step s events) event := by
  rw [run_append]
  rfl

@[simp] theorem along_nil (s : σ) : Along step allowed s [] := trivial

@[simp] theorem along_cons (s : σ) (event : ε) (rest : List ε) :
    Along step allowed s (event :: rest) ↔
      allowed s event ∧ Along step allowed (step s event) rest := Iff.rfl

theorem along_append (s : σ) (first second : List ε) :
    Along step allowed s (first ++ second) ↔
      Along step allowed s first ∧ Along step allowed (run step s first) second := by
  induction first generalizing s with
  | nil => simp
  | cons event rest ih => simp [ih, and_assoc]

theorem Along.mono {stricter : σ → ε → Prop}
    (weaken : ∀ s event, stricter s event → allowed s event)
    {s : σ} {events : List ε} (along : Along step stricter s events) :
    Along step allowed s events := by
  induction events generalizing s with
  | nil => trivial
  | cons event rest ih => exact ⟨weaken s event along.1, ih along.2⟩

theorem along_congr {other : σ → ε → Prop} {events : List ε}
    (same : ∀ s, ∀ event ∈ events, allowed s event ↔ other s event) (s : σ) :
    Along step allowed s events ↔ Along step other s events := by
  induction events generalizing s with
  | nil => exact Iff.rfl
  | cons event rest ih =>
    rw [along_cons, along_cons, same s event List.mem_cons_self]
    exact and_congr_right fun _ => ih (fun s later member =>
      same s later (List.mem_cons_of_mem event member)) (step s event)

/-- Conditions that agree under an invariant allow the same runs. -/
theorem along_congr_of_invariant {other : σ → ε → Prop} {Inv : σ → Prop}
    (preserved : ∀ s event, Inv s → Inv (step s event))
    (same : ∀ s event, Inv s → (allowed s event ↔ other s event)) {s : σ} (holds : Inv s)
    (events : List ε) : Along step allowed s events ↔ Along step other s events := by
  induction events generalizing s with
  | nil => exact Iff.rfl
  | cons event rest ih =>
    rw [along_cons, along_cons, same s event holds, ih (preserved s event holds)]

theorem along_iff_forall (s : σ) (events : List ε) :
    Along step allowed s events ↔
      ∀ before event, before ++ [event] <+: events → allowed (run step s before) event := by
  constructor
  · rintro along before event ⟨rest, rfl⟩
    have first := ((along_append s (before ++ [event]) rest).mp along).1
    exact ((along_append s before [event]).mp first).2.1
  · intro each
    induction events generalizing s with
    | nil => trivial
    | cons event rest ih =>
      refine ⟨each [] event ⟨rest, rfl⟩, ih (step s event) fun before later isPrefix => ?_⟩
      exact each (event :: before) later (List.cons_prefix_cons.mpr ⟨rfl, isPrefix⟩)

theorem along_of_forall (always : ∀ s event, allowed s event) (s : σ) (events : List ε) :
    Along step allowed s events := by
  induction events generalizing s with
  | nil => trivial
  | cons event rest ih => exact ⟨always s event, ih _⟩

/-- What every allowed step preserves holds at the end of an allowed run. -/
theorem Along.invariant {Inv : σ → Prop}
    (preserved : ∀ s event, Inv s → allowed s event → Inv (step s event))
    {s : σ} {events : List ε} (along : Along step allowed s events) (initial : Inv s) :
    Inv (run step s events) := by
  induction events generalizing s with
  | nil => exact initial
  | cons event rest ih => exact ih along.2 (preserved s event initial along.1)

/-- What every step preserves holds at the end of every run. -/
theorem run_invariant {Inv : σ → Prop}
    (preserved : ∀ s event, Inv s → Inv (step s event))
    {s : σ} (initial : Inv s) (events : List ε) : Inv (run step s events) := by
  have along : Along step (fun _ _ => True) s events :=
    along_of_forall (fun _ _ => trivial) s events
  exact along.invariant (fun s event holds _ => preserved s event holds) initial

/-- A machine whose steps can fail never does where an invariant keeps each of its
steps to the one of a total machine. -/
theorem run_faultless {checked : σ → ε → Option σ} {Inv : σ → Prop}
    (preserved : ∀ s event, Inv s → Inv (step s event))
    (agrees : ∀ s event, Inv s → checked s event = some (step s event))
    {s : σ} (initial : Inv s) (events : List ε) :
    events.foldlM checked s = some (run step s events) := by
  induction events generalizing s with
  | nil => rfl
  | cons event rest ih =>
    rw [List.foldlM_cons, agrees s event initial]
    exact ih (preserved s event initial)

/-- Two machines that take the same events: where a step keeps what relates them
exactly if the condition allows it, the runs that keep it throughout are the
allowed ones. -/
theorem related_iff_along {τ : Type*} {other : τ → ε → τ} {Base : σ → Prop} {Rel : σ → τ → Prop}
    (based : ∀ s t event, Base s → Rel s t → allowed s event → Base (step s event))
    (exact : ∀ s t event, Base s → Rel s t → (Rel (step s event) (other t event) ↔ allowed s event))
    {s : σ} {t : τ} (base : Base s) (holds : Rel s t) (events : List ε) :
    (∀ before, before <+: events → Rel (run step s before) (run other t before)) ↔
      Along step allowed s events := by
  induction events generalizing s t with
  | nil =>
    refine iff_of_true (fun before isPrefix => ?_) trivial
    rw [List.prefix_nil.mp isPrefix]
    exact holds
  | cons event rest ih =>
    rw [along_cons, ← exact s t event base holds]
    constructor
    · intro always
      have next : Rel (step s event) (other t event) := always [event] ⟨rest, rfl⟩
      have kept := based s t event base holds ((exact s t event base holds).mp next)
      refine ⟨next, (ih kept next).mp fun before isPrefix => ?_⟩
      exact always (event :: before) (List.cons_prefix_cons.mpr ⟨rfl, isPrefix⟩)
    · rintro ⟨next, along⟩ before isPrefix
      cases before with
      | nil => exact holds
      | cons first others =>
        obtain ⟨rfl, later⟩ := List.cons_prefix_cons.mp isPrefix
        have kept := based s t first base holds ((exact s t first base holds).mp next)
        exact (ih kept next).mpr along others later

/-- Where a step keeps the invariant exactly if the condition allows it, the runs
that keep it throughout are the allowed ones. -/
theorem invariant_iff_along {Base Inv : σ → Prop}
    (based : ∀ s event, Base s → Base (step s event))
    (exact : ∀ s event, Base s → Inv s → (Inv (step s event) ↔ allowed s event))
    {s : σ} (base : Base s) (holds : Inv s) (events : List ε) :
    (∀ before, before <+: events → Inv (run step s before)) ↔ Along step allowed s events :=
  @related_iff_along σ ε step allowed Unit (fun t _ => t) Base (fun s _ => Inv s)
    (fun s _ event base _ _ => based s event base)
    (fun s _ event base holds => exact s event base holds) s () base holds events

end Run

section Observer

/-- The machine with an observer that sees the state an event is taken in. -/
def observed (watch : ω → σ → ε → ω) (step : σ → ε → σ) (pair : ω × σ) (event : ε) : ω × σ :=
  (watch pair.1 pair.2 event, step pair.2 event)

variable {watch : ω → σ → ε → ω} {step : σ → ε → σ} {allowed : σ → ε → Prop}

/-- An observer does not disturb what it observes. -/
@[simp] theorem run_observed_snd (pair : ω × σ) (events : List ε) :
    (run (observed watch step) pair events).2 = run step pair.2 events := by
  induction events generalizing pair with
  | nil => rfl
  | cons event rest ih => exact ih (observed watch step pair event)

theorem along_observed_iff_forall {watched : ω → σ → ε → Prop} (o : ω) (s : σ)
    (events : List ε) :
    Along (observed watch step) (fun pair event => watched pair.1 pair.2 event) (o, s) events ↔
      ∀ before event, before ++ [event] <+: events →
        watched (run (observed watch step) (o, s) before).1 (run step s before) event := by
  rw [along_iff_forall]
  simp only [run_observed_snd]

/-- What every allowed step preserves of the observer and the machine together
holds at the end of an allowed run. -/
theorem Along.invariant_observed {Inv : ω → σ → Prop}
    (preserved : ∀ o s event, Inv o s → allowed s event → Inv (watch o s event) (step s event))
    {o : ω} {s : σ} {events : List ε} (along : Along step allowed s events) (initial : Inv o s) :
    Inv (run (observed watch step) (o, s) events).1 (run step s events) := by
  induction events generalizing o s with
  | nil => exact initial
  | cons event rest ih => exact ih along.2 (preserved o s event initial along.1)

/-- The same where the condition looks at the observer as well. -/
theorem Along.invariant_watched {Inv : ω → σ → Prop} {watched : ω × σ → ε → Prop}
    (preserved : ∀ o s event, Inv o s → watched (o, s) event → Inv (watch o s event) (step s event))
    {o : ω} {s : σ} {events : List ε} (along : Along (observed watch step) watched (o, s) events)
    (initial : Inv o s) : Inv (run (observed watch step) (o, s) events).1 (run step s events) := by
  induction events generalizing o s with
  | nil => exact initial
  | cons event rest ih => exact ih along.2 (preserved o s event initial along.1)

theorem run_invariant_observed {Inv : ω → σ → Prop}
    (preserved : ∀ o s event, Inv o s → Inv (watch o s event) (step s event))
    {o : ω} {s : σ} (initial : Inv o s) (events : List ε) :
    Inv (run (observed watch step) (o, s) events).1 (run step s events) := by
  have along : Along (observed watch step) (fun _ _ => True) (o, s) events :=
    along_of_forall (fun _ _ => trivial) (o, s) events
  exact along.invariant_watched (fun o s event holds _ => preserved o s event holds) initial

end Observer

section Refinement

variable {τ η : Type*} {step : σ → ε → σ}

/-- What the steps of a run are to another machine. -/
def traced (shown : σ → ε → List η) (step : σ → ε → σ) : σ → List ε → List η
  | _, [] => []
  | s, event :: rest => shown s event ++ traced shown step (step s event) rest

/-- Where every step of a machine is a run of another under an invariant, so is every run. -/
theorem run_traced {abstract : τ → η → τ} {view : σ → τ} {shown : σ → ε → List η} {Inv : σ → Prop}
    (preserved : ∀ s event, Inv s → Inv (step s event))
    (refined : ∀ s event, Inv s →
      view (step s event) = run abstract (view s) (shown s event))
    {s : σ} (initial : Inv s) (events : List ε) :
    view (run step s events) = run abstract (view s) (traced shown step s events) := by
  induction events generalizing s with
  | nil => rfl
  | cons event rest ih =>
    rw [run_cons, traced, run_append, ← refined s event initial]
    exact ih (preserved s event initial)

end Refinement

end GrumpyScreen.Lib
