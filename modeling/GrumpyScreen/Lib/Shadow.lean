import Mathlib.Logic.Basic

/-! A label that is redrawn only when its value moved away from the shadow kept of
it. A reset puts the shadow to a value of its own, so that the next refresh draws. -/

namespace GrumpyScreen.Lib

/-- What a label was last drawn from, and what it shows. -/
structure Shadowed (α β : Type) where
  shadow : α
  shown : β

namespace Shadowed

variable {α β : Type} [DecidableEq α] {draw : α → β} {unset v : α} {s : Shadowed α β}

/-- Draw the value unless the shadow says that it is drawn. -/
def refresh (draw : α → β) (v : α) (s : Shadowed α β) : Shadowed α β :=
  if v = s.shadow then s else ⟨v, draw v⟩

/-- The shadow is reset, or says what is shown. -/
def Honest (draw : α → β) (unset : α) (s : Shadowed α β) : Prop :=
  s.shadow = unset ∨ s.shown = draw s.shadow

omit [DecidableEq α] in
theorem honest_reset (shown : β) : Honest draw unset ⟨unset, shown⟩ := Or.inl rfl

@[simp] theorem refresh_shadow (draw : α → β) (v : α) (s : Shadowed α β) :
    (s.refresh draw v).shadow = v := by
  unfold refresh
  split
  · next same => exact same.symm
  · rfl

theorem Honest.refresh (honest : Honest draw unset s) (v : α) :
    Honest draw unset (s.refresh draw v) := by
  unfold Shadowed.refresh
  split
  · exact honest
  · exact Or.inr rfl

theorem Honest.refresh_shown (honest : Honest draw unset s)
    (apart : ¬ (v = unset ∧ s.shadow = unset)) : (s.refresh draw v).shown = draw v := by
  unfold Shadowed.refresh
  split
  · next same =>
    rcases honest with reset | shown
    · exact absurd ⟨same.trans reset, reset⟩ apart
    · rw [shown, same]
  · rfl

end Shadowed

section Family

variable {σ ι β : Type} {view : σ → ι → β} {update : σ → ι → σ} {new : β → ι → β}

end Family

end GrumpyScreen.Lib
