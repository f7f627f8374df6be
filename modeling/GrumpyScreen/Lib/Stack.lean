import GrumpyScreen.Lib.Layer

/-! A toolkit parent that carries its own well-formedness, and the operations
overlays use on it: raise, conceal, drop, foreground and background. -/

namespace GrumpyScreen.Lib

/-- Which children are built with their parent; the others wait for first use. -/
class Staged (O : Type) where
  eager : O → Bool

/-- A parent on which no child is listed twice and the eager ones exist. -/
structure Stack (L : Type → Type) [Layer L] (O : Type) [Staged O] where
  raw : L O
  distinct : (Layer.children raw).Nodup
  built : ∀ o : O, Staged.eager o = true → o ∈ Layer.children raw

namespace Stack

variable {L : Type → Type} [Layer L] {O : Type} [Staged O]

/-- `o` exists and is not hidden. -/
def Shown (t : Stack L O) (o : O) : Prop :=
  o ∈ Layer.children t.raw ∧ Layer.hidden t.raw o = false

instance [DecidableEq O] (t : Stack L O) (o : O) : Decidable (t.Shown o) :=
  inferInstanceAs (Decidable (_ ∧ _))

/-- `upper` is drawn over `lower`. -/
def Above (t : Stack L O) (lower upper : O) : Prop := Layer.Above t.raw lower upper

instance [DecidableEq O] (t : Stack L O) (lower upper : O) : Decidable (t.Above lower upper) :=
  inferInstanceAs (Decidable (Layer.Above t.raw lower upper))

theorem not_above_last {t : Stack L O} {o upper : O}
    (last : (Layer.children t.raw).getLast? = some o) : ¬ t.Above o upper :=
  Layer.not_above_last t.distinct last

variable [DecidableEq O] [LawfulLayer L]

private theorem mem_raised (t : Stack L O) (o other : O) :
    other ∈ Layer.children (Layer.moveForeground o (Layer.clearHidden o (Layer.ensure o t.raw))) ↔
      other = o ∨ other ∈ Layer.children t.raw := by
  have child : o ∈ Layer.children (Layer.clearHidden o (Layer.ensure o t.raw)) := by
    simpa using Layer.mem_children_ensure
  rw [LawfulLayer.children_moveForeground _ _ child]
  by_cases same : other = o
  · simp [same]
  · have kept : other ∈ Layer.children (Layer.ensure o t.raw) ↔
        other ∈ Layer.children t.raw := by
      unfold Layer.ensure
      split <;> simp [same]
    simp [List.mem_erase_of_ne same, same, kept]

/-- Build on first use, clear the hidden flag and move to the foreground. -/
def raise (o : O) (t : Stack L O) : Stack L O where
  raw := Layer.moveForeground o (Layer.clearHidden o (Layer.ensure o t.raw))
  distinct := by
    have child : o ∈ Layer.children (Layer.clearHidden o (Layer.ensure o t.raw)) := by
      simpa using Layer.mem_children_ensure
    rw [LawfulLayer.children_moveForeground _ _ child, LawfulLayer.children_clearHidden]
    have ensured : (Layer.children (Layer.ensure o t.raw)).Nodup :=
      Layer.nodup_children_ensure t.distinct
    exact List.Nodup.append (ensured.erase o) (List.nodup_singleton o)
      (by simpa using ensured.not_mem_erase)
  built other eager := (mem_raised t o other).mpr (Or.inr (t.built other eager))

/-- Set the hidden flag of a child, if it was ever built. -/
def conceal (o : O) (t : Stack L O) : Stack L O where
  raw := if o ∈ Layer.children t.raw then Layer.addHidden o t.raw else t.raw
  distinct := by split <;> simp [t.distinct]
  built other eager := by split <;> simp [t.built other eager]

/-- Hide an eager child and move it to the background. -/
def drop (o : O) (t : Stack L O) (eager : Staged.eager o = true := by exact Eq.refl true) : Stack L O where
  raw := Layer.moveBackground o (Layer.addHidden o t.raw)
  distinct := by
    rw [LawfulLayer.children_moveBackground _ _ (by simpa using t.built o eager),
      LawfulLayer.children_addHidden]
    exact List.nodup_cons.mpr ⟨t.distinct.not_mem_erase, t.distinct.erase o⟩
  built other present := by
    rw [LawfulLayer.children_moveBackground _ _ (by simpa using t.built o eager),
      LawfulLayer.children_addHidden]
    by_cases same : other = o
    · simp [same]
    · simp [same, List.mem_erase_of_ne same, t.built other present]

/-- Move a child to the foreground without touching its flag. -/
def foreground (o : O) (t : Stack L O) (eager : Staged.eager o = true := by exact Eq.refl true) :
    Stack L O where
  raw := Layer.moveForeground o t.raw
  distinct := by
    rw [LawfulLayer.children_moveForeground _ _ (t.built o eager)]
    exact List.Nodup.append (t.distinct.erase o) (List.nodup_singleton o)
      (by simpa using t.distinct.not_mem_erase)
  built other present := by
    rw [LawfulLayer.children_moveForeground _ _ (t.built o eager)]
    by_cases same : other = o
    · simp [same]
    · simp [same, List.mem_erase_of_ne same, t.built other present]

/-- Move a child to the background without touching its flag. -/
def background (o : O) (t : Stack L O) (eager : Staged.eager o = true := by exact Eq.refl true) :
    Stack L O where
  raw := Layer.moveBackground o t.raw
  distinct := by
    rw [LawfulLayer.children_moveBackground _ _ (t.built o eager)]
    exact List.nodup_cons.mpr ⟨t.distinct.not_mem_erase, t.distinct.erase o⟩
  built other present := by
    rw [LawfulLayer.children_moveBackground _ _ (t.built o eager)]
    by_cases same : other = o
    · simp [same]
    · simp [same, List.mem_erase_of_ne same, t.built other present]

section Shown

variable {t : Stack L O} {o other lower upper : O}

@[simp] theorem shown_raise : (t.raise o).Shown other ↔ other = o ∨ t.Shown other := by
  have member := mem_raised t o other
  by_cases same : other = o
  · subst same
    simp [Shown, raise, member]
  · have flag : Layer.hidden (t.raise o).raw other = Layer.hidden t.raw other := by
      simp only [raise, LawfulLayer.hidden_moveForeground, LawfulLayer.hidden_clearHidden,
        Function.update_of_ne same]
      unfold Layer.ensure
      split
      · rfl
      · simp [Function.update_of_ne same]
    unfold Shown
    rw [flag]
    simp [raise, member, same]

@[simp] theorem shown_conceal : (t.conceal o).Shown other ↔ other ≠ o ∧ t.Shown other := by
  unfold Shown conceal
  by_cases child : o ∈ Layer.children t.raw
  · by_cases same : other = o
    · simp [child, same]
    · simp [child, same]
  · simp only [child, if_false, ne_eq]
    constructor
    · rintro ⟨member, flag⟩
      exact ⟨fun same => child (same ▸ member), member, flag⟩
    · exact fun ⟨_, shown⟩ => shown

@[simp] theorem shown_drop {eager : Staged.eager o = true} :
    (t.drop o eager).Shown other ↔ other ≠ o ∧ t.Shown other := by
  have child : o ∈ Layer.children (Layer.addHidden o t.raw) := by simpa using t.built o eager
  unfold Shown drop
  rw [LawfulLayer.children_moveBackground _ _ child]
  by_cases same : other = o
  · simp [same]
  · simp [same, List.mem_erase_of_ne same]

@[simp] theorem shown_foreground {eager : Staged.eager o = true} :
    (t.foreground o eager).Shown other ↔ t.Shown other := by
  unfold Shown foreground
  rw [LawfulLayer.children_moveForeground _ _ (t.built o eager)]
  by_cases same : other = o
  · simp [same, t.built o eager]
  · simp [same, List.mem_erase_of_ne same]

@[simp] theorem shown_background {eager : Staged.eager o = true} :
    (t.background o eager).Shown other ↔ t.Shown other := by
  unfold Shown background
  rw [LawfulLayer.children_moveBackground _ _ (t.built o eager)]
  by_cases same : other = o
  · simp [same, t.built o eager]
  · simp [same, List.mem_erase_of_ne same]

theorem above_raise (kept : lower ≠ o) :
    (t.raise o).Above lower upper ↔
      (t.Above lower upper ∧ upper ≠ o) ∨ (upper = o ∧ lower ∈ Layer.children t.raw) := by
  have child : o ∈ Layer.children (Layer.clearHidden o (Layer.ensure o t.raw)) := by
    simpa using Layer.mem_children_ensure
  have distinct : (Layer.children (Layer.clearHidden o (Layer.ensure o t.raw))).Nodup := by
    simpa using Layer.nodup_children_ensure t.distinct
  unfold Above raise
  rw [Layer.above_moveForeground child distinct kept, Layer.above_clearHidden,
    LawfulLayer.children_clearHidden]
  unfold Layer.ensure
  split
  · rfl
  · rw [Layer.above_create kept, LawfulLayer.children_create]
    simp only [List.mem_append, List.mem_singleton, kept, or_false]
    tauto

theorem not_above_raise_self : ¬ (t.raise o).Above o upper := by
  have child : o ∈ Layer.children (Layer.clearHidden o (Layer.ensure o t.raw)) := by
    simpa using Layer.mem_children_ensure
  have distinct : (Layer.children (Layer.clearHidden o (Layer.ensure o t.raw))).Nodup := by
    simpa using Layer.nodup_children_ensure t.distinct
  exact Layer.not_above_moveForeground_self child distinct

@[simp] theorem above_conceal : (t.conceal o).Above lower upper ↔ t.Above lower upper := by
  unfold Above conceal
  split <;> simp

theorem above_drop {eager : Staged.eager o = true} (kept : lower ≠ o) :
    (t.drop o eager).Above lower upper ↔ t.Above lower upper ∧ upper ≠ o := by
  unfold Above drop
  rw [Layer.above_moveBackground (by simpa using t.built o eager) (by simpa using t.distinct) kept,
    Layer.above_addHidden]

theorem above_foreground {eager : Staged.eager o = true} (kept : lower ≠ o) :
    (t.foreground o eager).Above lower upper ↔
      (t.Above lower upper ∧ upper ≠ o) ∨ (upper = o ∧ lower ∈ Layer.children t.raw) :=
  Layer.above_moveForeground (t.built o eager) t.distinct kept

theorem above_background {eager : Staged.eager o = true} (kept : lower ≠ o) :
    (t.background o eager).Above lower upper ↔ t.Above lower upper ∧ upper ≠ o :=
  Layer.above_moveBackground (t.built o eager) t.distinct kept

theorem above_background_self {eager : Staged.eager o = true} :
    (t.background o eager).Above o upper ↔ upper ∈ Layer.children t.raw ∧ upper ≠ o :=
  Layer.above_moveBackground_self (t.built o eager) t.distinct

theorem not_above_foreground_self {eager : Staged.eager o = true} :
    ¬ (t.foreground o eager).Above o upper :=
  Layer.not_above_moveForeground_self (t.built o eager) t.distinct

end Shown

end Stack

end GrumpyScreen.Lib
