import Mathlib.Control.Monad.Basic

/-! Computations that may throw and keep the state they had reached when they
did, with the rules by which a field of that state is seen to be untouched. -/

namespace GrumpyScreen.Lib

/-- A computation over a state that survives a throw. -/
abbrev Exec (ε σ : Type) := ExceptT ε (StateM σ)

namespace Exec

/-- Outcome and final state of a computation. -/
def exec (m : Exec ε σ α) (s : σ) : Except ε α × σ := m.run.run s

/-- The state a computation leaves, whether it returned or threw. -/
def final (m : Exec ε σ α) (s : σ) : σ := (exec m s).2

@[simp] theorem exec_pure (value : α) (s : σ) :
    exec (pure value : Exec ε σ α) s = (.ok value, s) := rfl

theorem exec_bind (m : Exec ε σ α) (next : α → Exec ε σ β) (s : σ) :
    exec (m >>= next) s =
      match exec m s with
      | (.ok value, reached) => exec (next value) reached
      | (.error thrown, reached) => (.error thrown, reached) := by
  simp only [exec, bind, ExceptT.bind, ExceptT.mk, ExceptT.run, StateT.bind, StateT.run]
  rcases outcome : m s with ⟨result, reached⟩
  cases result <;> rfl

theorem exec_bind_ok {m : Exec ε σ α} {next : α → Exec ε σ β} {s reached : σ}
    {value : α} (ran : exec m s = (.ok value, reached)) :
    exec (m >>= next) s = exec (next value) reached := by
  rw [exec_bind, ran]

theorem exec_bind_returned {m : Exec ε σ α} {next : α → Exec ε σ β} {s final : σ} {value : β}
    (ran : exec (m >>= next) s = (.ok value, final)) :
    ∃ first reached, exec m s = (.ok first, reached) ∧
      exec (next first) reached = (.ok value, final) := by
  rw [exec_bind] at ran
  rcases outcome : exec m s with ⟨result, reached⟩
  rw [outcome] at ran
  cases result with
  | error thrown => cases ran
  | ok first => exact ⟨first, reached, rfl, ran⟩

@[simp] theorem exec_modify (update : σ → σ) (s : σ) :
    exec (modify update : Exec ε σ PUnit) s = (.ok ⟨⟩, update s) := rfl

@[simp] theorem exec_get (s : σ) :
    exec (get : Exec ε σ σ) s = (.ok s, s) := rfl

@[simp] theorem exec_set (next s : σ) :
    exec (set next : Exec ε σ PUnit) s = (.ok ⟨⟩, next) := rfl

@[simp] theorem exec_throw (thrown : ε) (s : σ) :
    exec (throw thrown : Exec ε σ α) s = (.error thrown, s) := rfl

/-- A pure result that may have thrown, lifted without touching the state. -/
def ofExcept (result : Except ε α) : Exec ε σ α := fun s => (result, s)

@[simp] theorem exec_ofExcept (result : Except ε α) (s : σ) :
    exec (ofExcept result) s = (result, s) := rfl

section Final

theorem final_ofExcept_bind (result : Except ε α) (next : α → Exec ε σ β) (s : σ) :
    final (ofExcept result >>= next) s =
      match result with
      | .ok value => final (next value) s
      | .error _ => s := by
  cases result <;> rfl

theorem final_get_bind (next : σ → Exec ε σ β) (s : σ) :
    final (get >>= next) s = final (next s) s := rfl

theorem final_skip {condition : Prop} [Decidable condition] (rest : Exec ε σ PUnit) (s : σ) :
    final (if condition then pure ⟨⟩ else rest) s = if condition then s else final rest s :=
  apply_ite (final · s) _ _ _

end Final

/-- Run a computation on one part of a larger state. -/
def zoom (view : τ → σ) (put : σ → τ → τ) (m : Exec ε σ α) : Exec ε τ α :=
  fun t =>
    let (result, reached) := exec m (view t)
    (result, put reached t)

@[simp] theorem exec_zoom (view : τ → σ) (put : σ → τ → τ) (m : Exec ε σ α) (t : τ) :
    exec (zoom view put m) t = ((exec m (view t)).1, put (exec m (view t)).2 t) := rfl

/-- A triple with two postconditions: `Q` of the value and state where `m`
returns, `E` of the state where it throws. -/
def Triple (P : σ → Prop) (m : Exec ε σ α) (Q : α → σ → Prop) (E : σ → Prop) : Prop :=
  ∀ s, P s → match exec m s with
    | (.ok value, reached) => Q value reached
    | (.error _, reached) => E reached

/-- `I` holds after `m`, returned or thrown, where it held before. -/
def Preserves (I : σ → Prop) (m : Exec ε σ α) : Prop := Triple I m (fun _ => I) I

/-- `m` never moves the part of the state that `view` reads. -/
def Keeps (view : σ → β) (m : Exec ε σ α) : Prop := ∀ seen, Preserves (view · = seen) m

section Triple

variable {P : σ → Prop} {Q : α → σ → Prop} {E : σ → Prop}

theorem Triple.ok (triple : Triple P m Q E) (holds : P s)
    (ran : exec m s = (.ok value, reached)) : Q value reached := by
  have post := triple s holds
  rwa [ran] at post

theorem Triple.error (triple : Triple P m Q E) (holds : P s)
    (ran : exec m s = (.error thrown, reached)) : E reached := by
  have post := triple s holds
  rwa [ran] at post

theorem Triple.pure (value : α) : Triple (Q value) (pure value : Exec ε σ α) Q E :=
  fun _ holds => holds

theorem Triple.get : Triple P (get : Exec ε σ σ) (fun value s => P s ∧ value = s) E :=
  fun _ holds => ⟨holds, rfl⟩

theorem Triple.modify {Q : PUnit → σ → Prop} (update : σ → σ) :
    Triple (fun s => Q ⟨⟩ (update s)) (modify update : Exec ε σ PUnit) Q E :=
  fun _ holds => holds

theorem Triple.ofExcept (result : Except ε α) (thrown : ∀ s, P s → E s)
    (returned : ∀ value s, result = .ok value → P s → Q value s) :
    Triple P (ofExcept result) Q E := by
  intro s holds
  cases result with
  | ok value => exact returned value s rfl holds
  | error e => exact thrown s holds

theorem Triple.ofOk {result : Except ε α} {value : α} (found : result = .ok value) :
    Triple (Q value) (Exec.ofExcept result) Q E := by
  subst found
  exact fun _ holds => holds

theorem Triple.bind {m : Exec ε σ α} {next : α → Exec ε σ β} {R : β → σ → Prop}
    (first : Triple P m Q E) (rest : ∀ value, Triple (Q value) (next value) R E) :
    Triple P (m >>= next) R E := by
  intro s holds
  have post := first s holds
  rw [exec_bind]
  rcases outcome : exec m s with ⟨result, reached⟩
  rw [outcome] at post
  cases result with
  | error thrown => exact post
  | ok value => exact rest value reached post

theorem Triple.weaken {P' : σ → Prop} {Q' : α → σ → Prop} {E' : σ → Prop}
    (triple : Triple P m Q E) (pre : ∀ s, P' s → P s) (post : ∀ value s, Q value s → Q' value s)
    (thrown : ∀ s, E s → E' s) : Triple P' m Q' E' := by
  intro s holds
  have reached := triple s (pre s holds)
  rcases outcome : exec m s with ⟨result, final⟩
  rw [outcome] at reached
  cases result with
  | error e => exact thrown final reached
  | ok value => exact post value final reached

theorem Triple.returns (triple : Triple P m Q E) : Triple P m Q (fun _ => True) :=
  triple.weaken (fun _ holds => holds) (fun _ _ holds => holds) (fun _ _ => trivial)

theorem Triple.ite {condition : Prop} [Decidable condition] {yes no : Exec ε σ α}
    (taken : condition → Triple P yes Q E) (skipped : ¬ condition → Triple P no Q E) :
    Triple P (if condition then yes else no) Q E := by
  split
  · next holds => exact taken holds
  · next fails => exact skipped fails

theorem Triple.forM {I : σ → Prop} {items : List ι} {body : ι → Exec ε σ PUnit}
    (each : ∀ item ∈ items, Triple I (body item) (fun _ => I) E) :
    Triple I (items.forM body) (fun _ => I) E := by
  induction items with
  | nil => exact Triple.pure (Q := fun _ => I) _
  | cons item rest ih =>
    refine Triple.bind (each item (List.mem_cons_self ..)) fun _ => ih fun next member => ?_
    exact each next (List.mem_cons_of_mem item member)

theorem Triple.zoom {m : Exec ε σ α} {view : τ → σ} {put : σ → τ → τ} {P : τ → Prop}
    {Q : α → τ → Prop} {E : τ → Prop}
    (inner : ∀ t, P t →
      Triple (· = view t) m (fun value s => Q value (put s t)) (fun s => E (put s t))) :
    Triple P (Exec.zoom view put m) Q E := by
  intro t holds
  have post := inner t holds (view t) rfl
  rw [exec_zoom]
  rcases outcome : exec m (view t) with ⟨result, reached⟩
  rw [outcome] at post
  cases result with
  | ok value => exact post
  | error thrown => exact post

theorem Triple.returned (triple : Triple P m Q (fun _ => False)) (holds : P s) :
    ∃ value reached, exec m s = (.ok value, reached) ∧ Q value reached := by
  have post := triple s holds
  rcases outcome : exec m s with ⟨result, reached⟩
  rw [outcome] at post
  cases result with
  | ok value => exact ⟨value, reached, rfl, post⟩
  | error thrown => exact post.elim

end Triple

theorem exec_forM {body : ι → Exec ε σ PUnit} {update : σ → ι → σ} {items : List ι}
    (each : ∀ item ∈ items, ∀ s, exec (body item) s = (.ok ⟨⟩, update s item)) (s : σ) :
    exec (items.forM body) s = (.ok ⟨⟩, items.foldl update s) := by
  induction items generalizing s with
  | nil => rfl
  | cons item rest ih =>
    have first := each item (List.mem_cons_self ..) s
    refine (exec_bind_ok first).trans (ih (fun next member => ?_) (update s item))
    exact each next (List.mem_cons_of_mem item member)

section Returns

/-- The computation returns from `s`. -/
def Returns (m : Exec ε σ α) (s : σ) : Prop := ∃ value, (exec m s).1 = .ok value

theorem returns_bind {m : Exec ε σ α} {next : α → Exec ε σ β} {s : σ} :
    Returns (m >>= next) s ↔
      ∃ value reached, exec m s = (.ok value, reached) ∧ Returns (next value) reached := by
  unfold Returns
  rw [exec_bind]
  rcases exec m s with ⟨result, reached⟩
  cases result with
  | error thrown =>
    constructor
    · rintro ⟨value, no⟩
      cases no
    · rintro ⟨value, reached', no, _⟩
      cases no
  | ok value =>
    constructor
    · exact fun returned => ⟨value, reached, rfl, returned⟩
    · rintro ⟨value', reached', same, returned⟩
      cases same
      exact returned

theorem returns_bind_ok {m : Exec ε σ α} {next : α → Exec ε σ β} {s reached : σ} {value : α}
    (ran : exec m s = (.ok value, reached)) :
    Returns (m >>= next) s ↔ Returns (next value) reached := by
  unfold Returns
  rw [exec_bind_ok ran]

theorem returns_seq {m : Exec ε σ α} {rest : α → Exec ε σ β} {s : σ} {P : Prop}
    (uniform : ∀ value t, Returns (rest value) t ↔ P) :
    Returns (m >>= rest) s ↔ Returns m s ∧ P := by
  rw [returns_bind]
  constructor
  · rintro ⟨value, reached, ran, later⟩
    exact ⟨⟨value, by rw [ran]⟩, (uniform value reached).mp later⟩
  · rintro ⟨⟨value, returned⟩, holds⟩
    exact ⟨value, (exec m s).2, Prod.ext returned rfl, (uniform value _).mpr holds⟩

theorem returns_forM {read : ι → Except ε β} {update : ι → β → σ → σ} {items : List ι} {s : σ} :
    Returns (items.forM fun item => do
        let value ← ofExcept (read item)
        modify (update item value)) s ↔
      ∀ item ∈ items, ∃ value, read item = .ok value := by
  induction items generalizing s with
  | nil =>
    constructor
    · exact fun _ item member => nomatch member
    · exact fun _ => ⟨⟨⟩, rfl⟩
  | cons item rest ih =>
    refine Iff.trans returns_bind ?_
    constructor
    · rintro ⟨value, reached, ran, later⟩ other member
      have first : ∃ value, read item = .ok value := by
        rw [exec_bind, exec_ofExcept] at ran
        cases outcome : read item with
        | ok value => exact ⟨value, rfl⟩
        | error thrown =>
          rw [outcome] at ran
          cases ran
      rcases List.mem_cons.mp member with same | tail
      · exact same ▸ first
      · exact ih.mp later other tail
    · intro each
      obtain ⟨value, outcome⟩ := each item (List.mem_cons_self ..)
      refine ⟨⟨⟩, update item value s, ?_, ih.mpr fun other tail => ?_⟩
      · rw [exec_bind, exec_ofExcept, outcome]
        rfl
      · exact each other (List.mem_cons_of_mem item tail)

end Returns

section Preserves

variable {I : σ → Prop}

theorem Preserves.final (kept : Preserves I m) (holds : I s) : I (Exec.final m s) := by
  have reached := kept s holds
  unfold Exec.final
  rcases outcome : exec m s with ⟨result, final⟩
  rw [outcome] at reached
  cases result <;> exact reached

theorem Preserves.pure (value : α) : Preserves I (pure value : Exec ε σ α) := fun _ holds => holds

theorem Preserves.get : Preserves I (get : Exec ε σ σ) := fun _ holds => holds

theorem Preserves.ofExcept (result : Except ε α) : Preserves I (ofExcept result) :=
  Triple.ofExcept result (fun _ holds => holds) (fun _ _ _ holds => holds)

theorem Preserves.modify {update : σ → σ} (kept : ∀ s, I s → I (update s)) :
    Preserves I (modify update : Exec ε σ PUnit) := kept

theorem Preserves.bind {m : Exec ε σ α} {next : α → Exec ε σ β}
    (first : Preserves I m) (rest : ∀ value, Preserves I (next value)) :
    Preserves I (m >>= next) := Triple.bind first rest

theorem Preserves.ite {condition : Prop} [Decidable condition] {yes no : Exec ε σ α}
    (taken : Preserves I yes) (skipped : Preserves I no) :
    Preserves I (if condition then yes else no) := Triple.ite (fun _ => taken) (fun _ => skipped)

theorem Preserves.forM {items : List ι} {body : ι → Exec ε σ PUnit}
    (each : ∀ item, Preserves I (body item)) : Preserves I (items.forM body) :=
  Triple.forM fun item _ => each item

theorem Triple.forM_ladder {rung : Nat → σ → Prop} {items : List ι} {body : ι → Exec ε σ PUnit}
    (higher : ∀ n s, rung n s → rung (n + 1) s)
    (each : ∀ n, ∀ item ∈ items, Triple (rung n) (body item) (fun _ => rung (n + 1)) (rung (n + 1)))
    (n : Nat) : Triple (rung n) (items.forM body) (fun _ => rung (n + items.length))
      (rung (n + items.length)) := by
  induction items generalizing n with
  | nil => exact fun _ holds => holds
  | cons item rest ih =>
    have climb : ∀ k s, rung (n + 1) s → rung (n + 1 + k) s := by
      intro k s low
      induction k with
      | zero => exact low
      | succ k reached => exact higher _ s reached
    have total : n + (item :: rest).length = n + 1 + rest.length := by
      rw [List.length_cons]
      omega
    rw [total]
    have first := (each n item (List.mem_cons_self ..)).weaken (fun _ low => low) (fun _ _ up => up)
      (climb rest.length)
    refine Triple.bind first fun _ => ih (fun m next member => ?_) (n + 1)
    exact each m next (List.mem_cons_of_mem item member)

theorem Preserves.zoom {m : Exec ε σ α} {view : τ → σ} {put : σ → τ → τ} {I : τ → Prop}
    (kept : ∀ s t, I t → I (put s t)) : Preserves I (Exec.zoom view put m) := by
  intro t holds
  rw [exec_zoom]
  rcases exec m (view t) with ⟨result, reached⟩
  cases result with
  | ok value => exact kept reached t holds
  | error thrown => exact kept reached t holds

theorem Keeps.final {view : σ → β} (kept : Keeps view m) (s : σ) :
    view (Exec.final m s) = view s := Preserves.final (kept (view s)) rfl

theorem Keeps.final_bind {view : σ → β} {first : Exec ε σ α} {rest : α → Exec ε σ γ}
    (kept : ∀ value, Keeps view (rest value)) (s : σ) :
    view (Exec.final (first >>= rest) s) = view (Exec.final first s) := by
  unfold Exec.final
  rw [exec_bind]
  rcases exec first s with ⟨result, reached⟩
  cases result with
  | error thrown => rfl
  | ok value => exact (kept value).final reached

end Preserves

end Exec

end GrumpyScreen.Lib
