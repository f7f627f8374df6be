import Mathlib.Data.List.Infix

/-! Relative paths as lists of components, and where they lead from a base. -/

namespace GrumpyScreen.Lib.Path

variable {α : Type} [DecidableEq α]

/-- One component, over the directories entered so far, innermost first. An empty
component and `here` stay, `up` leaves the innermost, and nothing leaves the base. -/
def enter (here up : List α) (entered : List (List α)) (component : List α) :
    Option (List (List α)) :=
  if component = [] ∨ component = here then some entered
  else if component = up then
    match entered with
    | [] => none
    | _ :: outer => some outer
  else some (component :: entered)

/-- The directories entered once all components are resolved; none if they rise
above the base on the way. -/
def resolve (here up : List α) (entered : List (List α)) (components : List (List α)) :
    Option (List (List α)) := components.foldlM (enter here up) entered

variable (here : List α) {up : List α}

theorem enter_of_ne_up {component : List α} (other : component ≠ up) (entered : List (List α)) :
    ∃ next, enter here up entered component = some next ∧ entered <:+ next := by
  by_cases stays : component = [] ∨ component = here
  · exact ⟨entered, if_pos stays, List.suffix_refl entered⟩
  · refine ⟨component :: entered, ?_, List.suffix_cons component entered⟩
    simp only [enter, if_neg stays, if_neg other]

theorem resolve_of_up_absent {components : List (List α)} (absent : up ∉ components)
    (entered : List (List α)) :
    ∃ reached, resolve here up entered components = some reached ∧ entered <:+ reached := by
  induction components generalizing entered with
  | nil => exact ⟨entered, rfl, List.suffix_refl entered⟩
  | cons component rest ih =>
    have other : component ≠ up := fun same => absent (same ▸ List.mem_cons_self ..)
    obtain ⟨next, first, inside⟩ := enter_of_ne_up here other entered
    obtain ⟨reached, later, deeper⟩ := ih (fun member => absent (List.mem_cons_of_mem _ member)) next
    refine ⟨reached, ?_, inside.trans deeper⟩
    rw [resolve, List.foldlM_cons, first]
    exact later

end GrumpyScreen.Lib.Path
