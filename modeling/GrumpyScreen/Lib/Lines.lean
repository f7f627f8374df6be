import Mathlib.Data.List.Basic

/-! Texts of closed lines, and a history kept to its last lines. -/

namespace GrumpyScreen.Lib.Lines

variable {α : Type} [DecidableEq α]

/-- Empty, or with its last line ended. -/
def Closed (delim : α) (text : List α) : Prop := ∀ c, text.getLast? = some c → c = delim

/-- What is left past that many delimiters. -/
def skip (delim : α) : Nat → List α → List α
  | 0, text => text
  | _ + 1, [] => []
  | n + 1, c :: rest => if c = delim then skip delim n rest else skip delim (n + 1) rest

/-- The text is what is left of the history: whole lines went, and only as many as
the limit asks for. -/
structure Kept (delim : α) (limit : Nat) (history text : List α) : Prop where
  cut : ∃ dropped, history = dropped ++ text ∧ Closed delim dropped ∧
    (dropped ≠ [] → text.count delim = limit)
  closed : Closed delim text
  few : text.count delim ≤ limit

section Closed

omit [DecidableEq α]

variable {delim : α} {text more : List α}

theorem closed_nil (delim : α) : Closed delim [] := by
  intro c last
  cases last

theorem Closed.append (first : Closed delim text) (second : Closed delim more) :
    Closed delim (text ++ more) := by
  intro c last
  rw [List.getLast?_append] at last
  cases tail : more.getLast? with
  | none =>
    rw [tail, Option.none_or] at last
    exact first c last
  | some d =>
    rw [tail, Option.some_or] at last
    exact second c (tail.trans last)

theorem Closed.cons (closed : Closed delim text) (some : text ≠ []) (c : α) :
    Closed delim (c :: text) := by
  cases text with
  | nil => exact absurd rfl some
  | cons head rest =>
    intro d last
    rw [List.getLast?_cons_cons] at last
    exact closed d last

theorem closed_snoc (delim : α) (text : List α) : Closed delim (text ++ [delim]) := by
  intro c last
  rw [List.getLast?_append, List.getLast?_singleton, Option.some_or] at last
  exact (Option.some.inj last).symm

theorem Closed.behind (closed : Closed delim (text ++ more)) : Closed delim more := by
  intro c last
  apply closed c
  rw [List.getLast?_append, last, Option.some_or]

end Closed

theorem Closed.count_pos {delim : α} {text : List α} (closed : Closed delim text)
    (some : text ≠ []) : 0 < text.count delim := by
  apply List.count_pos_iff.mpr
  have last := closed _ (List.getLast?_eq_getLast_of_ne_nil some)
  exact last ▸ List.getLast_mem some

section Skip

variable {delim : α}

theorem skip_split {n : Nat} {text : List α} (enough : n ≤ text.count delim) :
    ∃ dropped, text = dropped ++ skip delim n text ∧ Closed delim dropped ∧
      dropped.count delim = n := by
  induction text generalizing n with
  | nil =>
    have zero : n = 0 := Nat.le_zero.mp enough
    subst zero
    exact ⟨[], rfl, closed_nil delim, rfl⟩
  | cons c rest ih =>
    cases n with
    | zero => exact ⟨[], rfl, closed_nil delim, rfl⟩
    | succ n =>
      by_cases ends : c = delim
      · subst ends
        rw [List.count_cons_self] at enough
        obtain ⟨dropped, whole, closed, count⟩ := ih (Nat.le_of_succ_le_succ enough)
        refine ⟨c :: dropped, ?_, (closed_snoc c []).append closed, ?_⟩
        · rw [skip, if_pos rfl, List.cons_append, ← whole]
        · rw [List.count_cons_self, count]
      · rw [List.count_cons_of_ne ends] at enough
        obtain ⟨dropped, whole, closed, count⟩ := ih enough
        refine ⟨c :: dropped, ?_, ?_, ?_⟩
        · rw [skip, if_neg ends, List.cons_append, ← whole]
        · apply closed.cons
          rintro rfl
          cases count
        · rw [List.count_cons_of_ne ends, count]

end Skip

section Kept

variable {delim : α} {limit : Nat} {history text more : List α}

theorem kept_nil (delim : α) (limit : Nat) : Kept delim limit [] [] :=
  ⟨⟨[], rfl, closed_nil delim, fun grown => absurd rfl grown⟩, closed_nil delim, Nat.zero_le limit⟩

theorem Kept.append (kept : Kept delim limit history text) (closed : Closed delim more)
    (line : 0 < more.count delim) (fits : (text ++ more).count delim ≤ limit) :
    Kept delim limit (history ++ more) (text ++ more) := by
  obtain ⟨dropped, whole, left, full⟩ := kept.cut
  have sum : (text ++ more).count delim = text.count delim + more.count delim := List.count_append
  refine ⟨⟨dropped, by rw [whole, List.append_assoc], left, fun some => ?_⟩,
    kept.closed.append closed, fits⟩
  have count := full some
  omega

theorem Kept.trim (kept : Kept delim limit history text) (closed : Closed delim more)
    (past : limit < (text ++ more).count delim) :
    Kept delim limit (history ++ more)
      (skip delim ((text ++ more).count delim - limit) (text ++ more)) := by
  obtain ⟨dropped, whole, left, -⟩ := kept.cut
  obtain ⟨gone, split, ended, count⟩ :=
    skip_split (Nat.sub_le ((text ++ more).count delim) limit)
  have sum := (congrArg (List.count delim) split).trans List.count_append
  have rest : (skip delim ((text ++ more).count delim - limit) (text ++ more)).count delim =
      limit := by omega
  refine ⟨⟨dropped ++ gone, ?_, left.append ended, fun _ => rest⟩, ?_, Nat.le_of_eq rest⟩
  · rw [List.append_assoc, ← split, whole, List.append_assoc]
  · have whole := kept.closed.append closed
    rw [split] at whole
    exact whole.behind

end Kept

end GrumpyScreen.Lib.Lines
