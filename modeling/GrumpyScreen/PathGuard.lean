import GrumpyScreen.Thumbnail

/-! `safe_thumb_path` with every access to the path checked. -/

namespace GrumpyScreen

open Lib

/-- `p.compare(pos, count, text) == 0`; none past the end, where it throws. -/
def comparesTo (text : Bytes) (pos count : Nat) (p : Bytes) : Option Bool :=
  (Text.substr pos count p).map (· = text)

/-- The loop over the components, from `start` on. -/
def safeComponents (p : Bytes) (start : Nat) : Option Bool :=
  if start ≤ p.length then
    match found : Text.findFirstOf isSeparator start p with
    | some sep =>
      (comparesTo upDir start (sep - start) p).bind fun up =>
        if up then some false else safeComponents p (sep + 1)
    | none => (comparesTo upDir start (p.length - start) p).map (!·)
  else some true
termination_by p.length + 1 - start
decreasing_by
  have later := Text.findFirstOf_ge found
  omega

/-- The whole guard; `front` needs a first byte. -/
def guardThumbPath (p : Bytes) : Option Bool :=
  if p.isEmpty || 512 < p.length then some false
  else
    p.head?.bind fun front =>
      if isSeparator front then some false
      else if 0 ∈ p then some false
      else safeComponents p 0

theorem comparesTo_of_le {p : Bytes} {pos : Nat} (within : pos ≤ p.length) (text : Bytes)
    (count : Nat) :
    comparesTo text pos count p = some (decide ((p.drop pos).take count = text)) := by
  rw [comparesTo, Text.substr_of_le within]
  rfl

theorem safeComponents_eq (p : Bytes) (start : Nat) :
    safeComponents p start = some (noUpDir p start) := by
  fun_induction noUpDir p start with
  | case1 start within sep found ih =>
    rw [safeComponents, if_pos within]
    split
    · rename_i place again
      obtain rfl : sep = place := Option.some.inj (found.symm.trans again)
      rw [comparesTo_of_le within, ih, Option.bind_some]
      by_cases up : (p.drop start).take (sep - start) = upDir <;> simp [up]
    · rename_i absent
      cases found.symm.trans absent
  | case2 start within absent =>
    rw [safeComponents, if_pos within]
    split
    · rename_i place found
      cases absent.symm.trans found
    · have whole : (p.drop start).take (p.length - start) = p.drop start :=
        List.take_of_length_le (List.length_drop ..).le
      rw [comparesTo_of_le within, whole]
      simp
  | case3 start past => rw [safeComponents, if_neg past]

theorem guardThumbPath_eq (p : Bytes) : guardThumbPath p = some (safeThumbPath p) := by
  unfold guardThumbPath safeThumbPath
  split
  · rfl
  next sized =>
  cases p with
  | nil => simp at sized
  | cons front rest =>
    rw [List.head?_cons, Option.bind_some, Option.any_some, safeComponents_eq]
    split
    · rfl
    · split <;> rfl

theorem relative_iff (p : Bytes) :
    ¬ p.head?.any isSeparator = true ↔ ∀ front, p.head? = some front → front ≠ 47 ∧ front ≠ 92 := by
  cases p with
  | nil => simp
  | cons first rest => simp [isSeparator]

/-- For every string the guard comes to an answer without leaving the string, and
accepts exactly the short relative paths without a NUL and without a component "..". -/
theorem thumb_path_accepted_iff (p : Bytes) :
    ∃ safe, guardThumbPath p = some safe ∧
      (safe = true ↔ p ≠ [] ∧ p.length ≤ 512 ∧
        (∀ front, p.head? = some front → front ≠ 47 ∧ front ≠ 92) ∧
        0 ∉ p ∧ upDir ∉ p.splitOnP fun c => c = 47 || c = 92) := by
  refine ⟨safeThumbPath p, guardThumbPath_eq p, ?_⟩
  have components : noUpDir p 0 = true ↔ upDir ∉ p.splitOnP isSeparator :=
    noUpDir_iff p 0 (Nat.zero_le p.length)
  have sized : ¬ (p.isEmpty || decide (512 < p.length)) = true ↔ p ≠ [] ∧ p.length ≤ 512 := by
    simp [List.isEmpty_iff]
  rw [← relative_iff, ← and_assoc, ← sized, safeThumbPath]
  split
  next wrong => simp [wrong]
  next fits =>
  split
  next leads => simp [leads]
  next relative =>
  split
  next nul => simp [nul]
  next plain =>
  rw [components]
  constructor
  · intro inside
    exact ⟨fits, relative, plain, inside⟩
  · intro accepted
    exact accepted.2.2.2

end GrumpyScreen
