import Mathlib.Data.List.Nodup
import Mathlib.Data.List.Lattice
import Mathlib.Logic.Function.Basic

/-! A toolkit parent: its children from back to front and their hidden flags.
The toolkit itself is a parameter; what is relied on is stated as laws. -/

namespace GrumpyScreen.Lib

/-- The operations a screen calls on one parent of the toolkit. -/
class Layer (L : Type → Type) where
  bare : L O
  children : L O → List O
  hidden : L O → O → Bool
  create [DecidableEq O] : O → L O → L O
  moveForeground [DecidableEq O] : O → L O → L O
  moveBackground [DecidableEq O] : O → L O → L O
  addHidden [DecidableEq O] : O → L O → L O
  clearHidden [DecidableEq O] : O → L O → L O

/-- A created child is appended and visible, moves touch one child's position
and the flag operations one child's flag. -/
class LawfulLayer (L : Type → Type) [Layer L] : Prop where
  children_bare {O : Type} : Layer.children (Layer.bare : L O) = []
  children_create {O : Type} [DecidableEq O] (o : O) (l : L O) :
    Layer.children (Layer.create o l) = Layer.children l ++ [o]
  hidden_create {O : Type} [DecidableEq O] (o : O) (l : L O) :
    Layer.hidden (Layer.create o l) = Function.update (Layer.hidden l) o false
  children_moveForeground {O : Type} [DecidableEq O] (o : O) (l : L O)
    (child : o ∈ Layer.children l) :
    Layer.children (Layer.moveForeground o l) = (Layer.children l).erase o ++ [o]
  children_moveBackground {O : Type} [DecidableEq O] (o : O) (l : L O)
    (child : o ∈ Layer.children l) :
    Layer.children (Layer.moveBackground o l) = o :: (Layer.children l).erase o
  hidden_moveForeground {O : Type} [DecidableEq O] (o : O) (l : L O) :
    Layer.hidden (Layer.moveForeground o l) = Layer.hidden l
  hidden_moveBackground {O : Type} [DecidableEq O] (o : O) (l : L O) :
    Layer.hidden (Layer.moveBackground o l) = Layer.hidden l
  children_addHidden {O : Type} [DecidableEq O] (o : O) (l : L O) :
    Layer.children (Layer.addHidden o l) = Layer.children l
  hidden_addHidden {O : Type} [DecidableEq O] (o : O) (l : L O) :
    Layer.hidden (Layer.addHidden o l) = Function.update (Layer.hidden l) o true
  children_clearHidden {O : Type} [DecidableEq O] (o : O) (l : L O) :
    Layer.children (Layer.clearHidden o l) = Layer.children l
  hidden_clearHidden {O : Type} [DecidableEq O] (o : O) (l : L O) :
    Layer.hidden (Layer.clearHidden o l) = Function.update (Layer.hidden l) o false

/-- The child list kept as a list and the flags as a function. -/
structure ZStack (O : Type) where
  order : List O
  hid : O → Bool

instance : Layer ZStack where
  bare := ⟨[], fun _ => false⟩
  children := ZStack.order
  hidden := ZStack.hid
  create o l := ⟨l.order ++ [o], Function.update l.hid o false⟩
  moveForeground o l := { l with order := l.order.erase o ++ [o] }
  moveBackground o l := { l with order := o :: l.order.erase o }
  addHidden o l := { l with hid := Function.update l.hid o true }
  clearHidden o l := { l with hid := Function.update l.hid o false }

instance : LawfulLayer ZStack where
  children_bare := rfl
  children_create _ _ := rfl
  hidden_create _ _ := rfl
  children_moveForeground _ _ _ := rfl
  children_moveBackground _ _ _ := rfl
  hidden_moveForeground _ _ := rfl
  hidden_moveBackground _ _ := rfl
  children_addHidden _ _ := rfl
  hidden_addHidden _ _ := rfl
  children_clearHidden _ _ := rfl
  hidden_clearHidden _ _ := rfl

namespace Layer

variable {L : Type → Type} [Layer L] {O : Type}

attribute [simp] LawfulLayer.children_bare LawfulLayer.children_create
  LawfulLayer.hidden_create LawfulLayer.hidden_moveForeground
  LawfulLayer.hidden_moveBackground LawfulLayer.children_addHidden
  LawfulLayer.hidden_addHidden LawfulLayer.children_clearHidden
  LawfulLayer.hidden_clearHidden

/-- `upper` is drawn over `lower`. -/
def Above (l : L O) (lower upper : O) : Prop := [lower, upper].Sublist (children l)

instance [DecidableEq O] (l : L O) (lower upper : O) : Decidable (Above l lower upper) :=
  inferInstanceAs (Decidable ([lower, upper].Sublist (children l)))

/-- `o` is the top-most visible child. -/
def TopVisible (l : L O) (o : O) : Prop :=
  o ∈ children l ∧ hidden l o = false ∧
    ∀ other ∈ children l, Above l o other → hidden l other = true

instance [DecidableEq O] (l : L O) (o : O) : Decidable (TopVisible l o) :=
  inferInstanceAs (Decidable (_ ∧ _ ∧ _))

/-- A lazily built child: created on its first use. -/
def ensure [DecidableEq O] (o : O) (l : L O) : L O := if o ∈ children l then l else create o l

theorem not_above_last {l : L O} {o upper : O} (distinct : (children l).Nodup)
    (last : (children l).getLast? = some o) : ¬ Above l o upper := by
  intro drawn
  obtain ⟨below, split⟩ := List.getLast?_eq_some_iff.mp last
  have absent : o ∉ below := by
    rw [split] at distinct
    exact fun member => (List.nodup_append.mp distinct).2.2 o member o (by simp) rfl
  rw [Above, split] at drawn
  obtain ⟨first, second, pair, inFirst, inLast⟩ := List.sublist_append_iff.mp drawn
  cases first with
  | nil =>
    have shape : [o, upper] = second := pair
    subst shape
    simpa using inLast.length_le
  | cons head tail =>
    obtain ⟨rfl, -⟩ := List.cons.inj pair
    exact absent (inFirst.subset (List.mem_cons_self ..))

theorem exists_topmost {l : L O} (distinct : (children l).Nodup) {P : O → Prop}
    (some : ∃ o ∈ children l, P o) :
    ∃ o ∈ children l, P o ∧ ∀ upper, Above l o upper → ¬ P upper := by
  unfold Above
  generalize children l = items at distinct some ⊢
  induction items with
  | nil =>
    obtain ⟨o, member, -⟩ := some
    cases member
  | cons first rest ih =>
    obtain ⟨absent, distinct⟩ := List.nodup_cons.mp distinct
    by_cases later : ∃ o ∈ rest, P o
    · obtain ⟨o, member, holds, last⟩ := ih distinct later
      refine ⟨o, List.mem_cons_of_mem first member, holds, fun upper drawn => last upper ?_⟩
      have other : o ≠ first := fun same => absent (same ▸ member)
      cases drawn with
      | cons _ inRest => exact inRest
      | cons_cons _ _ => exact absurd rfl other
    · obtain ⟨o, member, holds⟩ := some
      have same : o = first := by
        rcases List.mem_cons.mp member with same | inRest
        · exact same
        · exact absurd ⟨o, inRest, holds⟩ later
      subst same
      refine ⟨o, List.mem_cons_self, holds, fun upper drawn above => later ⟨upper, ?_, above⟩⟩
      cases drawn with
      | cons _ inRest => exact inRest.subset (by simp)
      | cons_cons _ inRest => exact List.singleton_sublist.mp inRest

/-- In a list that ends in a fresh element, what follows `lower` is what
followed it before and the new end. -/
private theorem pair_sublist_snoc {items : List O} {lower upper last : O}
    (fresh : lower ≠ last) :
    [lower, upper].Sublist (items ++ [last]) ↔
      [lower, upper].Sublist items ∨ (upper = last ∧ lower ∈ items) := by
  constructor
  · intro sub
    obtain ⟨first, second, split, inItems, inLast⟩ := List.sublist_append_iff.mp sub
    rcases List.sublist_singleton.mp inLast with rfl | rfl
    · left
      simpa [split] using inItems
    · right
      have shape : [lower] ++ [upper] = first ++ [last] := split
      obtain ⟨same, ends⟩ := List.append_inj' shape rfl
      subst same
      exact ⟨by simpa using ends, by simpa using inItems⟩
  · rintro (sub | ⟨rfl, member⟩)
    · exact sub.trans (List.sublist_append_left _ _)
    · exact List.Sublist.append (List.singleton_sublist.mpr member) (List.Sublist.refl _)

private theorem pair_sublist_erase [DecidableEq O] {items : List O} {lower upper gone : O}
    (kept : lower ≠ gone) (distinct : items.Nodup) :
    [lower, upper].Sublist (items.erase gone) ↔
      [lower, upper].Sublist items ∧ upper ≠ gone := by
  constructor
  · intro sub
    refine ⟨sub.trans List.erase_sublist, ?_⟩
    rintro rfl
    have member : upper ∈ items.erase upper := sub.subset (by simp)
    exact distinct.not_mem_erase member
  · rintro ⟨sub, other⟩
    have erased := sub.erase gone
    simpa [List.erase_cons, kept, other] using erased

section Laws

variable [DecidableEq O] {l : L O} {lower upper o : O}

variable [LawfulLayer L]

@[simp] theorem above_addHidden : Above (addHidden o l) lower upper ↔ Above l lower upper := by
  simp [Above]

@[simp] theorem above_clearHidden :
    Above (clearHidden o l) lower upper ↔ Above l lower upper := by
  simp [Above]

theorem above_create (kept : lower ≠ o) :
    Above (create o l) lower upper ↔
      Above l lower upper ∨ (upper = o ∧ lower ∈ children l) := by
  rw [Above, LawfulLayer.children_create, pair_sublist_snoc kept]
  rfl

theorem above_moveForeground (child : o ∈ children l) (distinct : (children l).Nodup)
    (kept : lower ≠ o) :
    Above (moveForeground o l) lower upper ↔
      (Above l lower upper ∧ upper ≠ o) ∨ (upper = o ∧ lower ∈ children l) := by
  rw [Above, LawfulLayer.children_moveForeground o l child, pair_sublist_snoc kept,
    pair_sublist_erase kept distinct, List.mem_erase_of_ne kept]
  rfl

theorem not_above_moveForeground_self (child : o ∈ children l)
    (distinct : (children l).Nodup) : ¬ Above (moveForeground o l) o upper := by
  have raised := LawfulLayer.children_moveForeground o l child
  refine not_above_last ?_ (by simp [raised])
  rw [raised]
  exact List.Nodup.append (distinct.erase o) (List.nodup_singleton o)
    (by simpa using distinct.not_mem_erase)

theorem above_moveBackground (child : o ∈ children l) (distinct : (children l).Nodup)
    (kept : lower ≠ o) :
    Above (moveBackground o l) lower upper ↔ Above l lower upper ∧ upper ≠ o := by
  rw [Above, LawfulLayer.children_moveBackground o l child,
    List.sublist_cons_iff, pair_sublist_erase kept distinct]
  simp only [List.cons.injEq, Above, or_iff_left_iff_imp]
  rintro ⟨rest, ⟨same, -⟩, -⟩
  exact absurd same kept

theorem above_moveBackground_self (child : o ∈ children l) (distinct : (children l).Nodup) :
    Above (moveBackground o l) o upper ↔ upper ∈ children l ∧ upper ≠ o := by
  rw [Above, LawfulLayer.children_moveBackground o l child, List.cons_sublist_cons,
    List.singleton_sublist, distinct.mem_erase_iff]
  exact and_comm

theorem mem_children_ensure : o ∈ children (ensure o l) := by
  unfold ensure
  split
  · assumption
  · simp

theorem nodup_children_ensure (distinct : (children l).Nodup) :
    (children (ensure o l)).Nodup := by
  unfold ensure
  split
  · exact distinct
  · next absent =>
    rw [LawfulLayer.children_create]
    refine List.nodup_append.mpr ⟨distinct, List.nodup_singleton o, ?_⟩
    rintro older member newer same rfl
    exact absent (List.mem_singleton.mp same ▸ member)

end Laws

end Layer

end GrumpyScreen.Lib
