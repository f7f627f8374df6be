import Mathlib.Data.List.Basic

/-! Escapings: codes that write a symbol as itself or as a longer word. A text
survives one exactly if it has no symbol that is written longer. -/

namespace GrumpyScreen.Lib

theorem forall_mem_of_all {α : Type*} {p : α → Prop} [DecidablePred p] {s : List α}
    (all : s.all (fun a => p a) = true) : ∀ a ∈ s, p a := fun a member =>
  of_decide_eq_true (List.all_eq_true.mp all a member)

/-- Every symbol is written as itself or as a longer word. -/
structure Escaping (α : Type*) where
  code : α → List α
  longer : ∀ a, code a = [a] ∨ 1 < (code a).length

namespace Escaping

variable {α : Type*} (e f : Escaping α)

/-- The symbol is written as itself. -/
def Plain (a : α) : Prop := e.code a = [a]

def encode (s : List α) : List α := s.flatMap e.code

@[simp] theorem encode_nil : e.encode [] = [] := rfl

@[simp] theorem encode_cons (a : α) (s : List α) : e.encode (a :: s) = e.code a ++ e.encode s :=
  List.flatMap_cons

theorem code_length (a : α) : 1 ≤ (e.code a).length := by
  rcases e.longer a with plain | longer
  · rw [plain]
    exact Nat.le_refl 1
  · exact Nat.le_of_lt longer

theorem length_le_encode (s : List α) : s.length ≤ (e.encode s).length := by
  induction s with
  | nil => exact Nat.le_refl 0
  | cons a rest ih =>
    have word := e.code_length a
    rw [encode_cons, List.length_append, List.length_cons]
    omega

variable {e f} {s : List α}

theorem encode_of_plain (plain : ∀ a ∈ s, e.Plain a) : e.encode s = s := by
  induction s with
  | nil => rfl
  | cons a rest ih =>
    have word : e.code a = [a] := plain a List.mem_cons_self
    rw [encode_cons, word, ih fun b member => plain b (List.mem_cons_of_mem a member)]
    rfl

theorem plain_of_length (same : (e.encode s).length ≤ s.length) : ∀ a ∈ s, e.Plain a := by
  induction s with
  | nil => exact List.forall_mem_nil _
  | cons a rest ih =>
    have word := e.code_length a
    have tail := e.length_le_encode rest
    rw [encode_cons, List.length_append, List.length_cons] at same
    refine List.forall_mem_cons.mpr ⟨?_, ih (by omega)⟩
    rcases e.longer a with plain | longer
    · exact plain
    · omega

theorem encode_eq_self_iff : e.encode s = s ↔ ∀ a ∈ s, e.Plain a := by
  refine ⟨fun same => ?_, encode_of_plain⟩
  exact plain_of_length (Nat.le_of_eq (congrArg List.length same))

theorem encode_encode_eq_self_iff :
    f.encode (e.encode s) = s ↔ (∀ a ∈ s, e.Plain a) ∧ ∀ a ∈ s, f.Plain a := by
  constructor
  · intro same
    have inner := e.length_le_encode s
    have outer := f.length_le_encode (e.encode s)
    rw [same] at outer
    have plain : ∀ a ∈ s, e.Plain a := plain_of_length outer
    rw [encode_of_plain plain] at same
    exact ⟨plain, encode_eq_self_iff.mp same⟩
  · rintro ⟨inner, outer⟩
    rw [encode_of_plain inner, encode_of_plain outer]

theorem forall_mem_encode {p : α → Prop} (words : ∀ a ∈ s, ∀ b ∈ e.code a, p b) :
    ∀ b ∈ e.encode s, p b := by
  intro b member
  obtain ⟨a, listed, word⟩ := List.mem_flatMap.mp member
  exact words a listed b word

end Escaping

end GrumpyScreen.Lib
