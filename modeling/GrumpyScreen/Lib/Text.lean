import Mathlib.Data.List.TakeWhile

/-! Searching and cutting the way `std::string` does, on lists of characters of
any type. -/

namespace GrumpyScreen.Lib.Text

variable {α : Type} [DecidableEq α]

/-- The first place the pattern stands at. -/
def search (pat : List α) : List α → Option Nat
  | [] => if pat.isEmpty then some 0 else none
  | c :: rest => if pat.isPrefixOf (c :: rest) then some 0 else (search pat rest).map (· + 1)

/-- `find`, from a position on. -/
def find (pat : List α) (pos : Nat) (s : List α) : Option Nat :=
  if pos ≤ s.length then (search pat (s.drop pos)).map (· + pos) else none

/-- `substr` to the end; it throws past the end. -/
def suffix (pos : Nat) (s : List α) : Option (List α) :=
  if pos ≤ s.length then some (s.drop pos) else none

/-- `substr` of at most `count` characters. -/
def substr (pos count : Nat) (s : List α) : Option (List α) :=
  (suffix pos s).map (List.take count)

/-- `find_first_of`, from a position on. -/
def findFirstOf (set : α → Bool) (pos : Nat) (s : List α) : Option Nat :=
  ((s.drop pos).findIdx? set).map (pos + ·)

/-- `find_last_of`. -/
def findLastOf (set : α → Bool) (s : List α) : Option Nat :=
  (s.reverse.findIdx? set).map (s.length - 1 - ·)

/-- `getline` until the end, some of the line being read. -/
def getlinesFrom (delim : α) (line : List α) : List α → List (List α)
  | [] => if line = [] then [] else [line]
  | c :: rest =>
    if c = delim then line :: getlinesFrom delim [] rest
    else getlinesFrom delim (line ++ [c]) rest

/-- `getline` until the end: nothing after the last delimiter is no line. -/
def getlines (delim : α) (s : List α) : List (List α) := getlinesFrom delim [] s

theorem search_absent {c : α} {s : List α} (absent : c ∉ s) : search [c] s = none := by
  induction s with
  | nil => rfl
  | cons head rest ih =>
    have differ := List.ne_of_not_mem_cons absent
    have later := List.not_mem_of_not_mem_cons absent
    simp [search, differ, ih later]

theorem search_first {c : α} {before : List α} (absent : c ∉ before) (after : List α) :
    search [c] (before ++ c :: after) = some before.length := by
  induction before with
  | nil => simp [search]
  | cons head rest ih =>
    have differ := List.ne_of_not_mem_cons absent
    have later := List.not_mem_of_not_mem_cons absent
    simp [search, differ, ih later]

theorem find_absent {c : α} (seen : List α) {rest : List α} (absent : c ∉ rest) :
    find [c] seen.length (seen ++ rest) = none := by
  simp [find, search_absent absent]

theorem find_first {c : α} (seen : List α) {before : List α} (absent : c ∉ before)
    (after : List α) :
    find [c] seen.length (seen ++ (before ++ c :: after)) = some (seen.length + before.length) := by
  simp [find, search_first absent, Nat.add_comm]

theorem search_within {pat s : List α} {place : Nat} (found : search pat s = some place) :
    place + pat.length ≤ s.length := by
  induction s generalizing place with
  | nil =>
    unfold search at found
    split at found
    · rename_i empty
      cases found
      simp [List.isEmpty_iff.mp empty]
    · cases found
  | cons head rest ih =>
    unfold search at found
    split at found
    · rename_i starts
      cases found
      have fits := (List.isPrefixOf_iff_prefix.mp starts).length_le
      omega
    · obtain ⟨later, inRest, rfl⟩ := Option.map_eq_some_iff.mp found
      have fits := ih inRest
      rw [List.length_cons]
      omega

theorem search_isSome_iff {pat s : List α} : (search pat s).isSome = true ↔ pat <:+: s := by
  induction s with
  | nil =>
    rw [search, List.infix_nil, ← List.isEmpty_iff]
    cases pat.isEmpty <;> simp
  | cons c rest ih =>
    rw [search, List.infix_cons_iff, ← List.isPrefixOf_iff_prefix, ← ih]
    cases pat.isPrefixOf (c :: rest) <;> simp

omit [DecidableEq α] in
theorem infix_cut_iff {c : α} {pat : List α} (absent : c ∉ pat) (before after : List α) :
    pat <:+: before ++ c :: after ↔ pat <:+: before ∨ pat <:+: after := by
  have upTo : ∀ before : List α, pat <+: before ++ c :: after → pat <+: before := by
    intro before starts
    have whole : before ++ [c] <+: before ++ c :: after := ⟨after, by simp⟩
    rcases List.prefix_or_prefix_of_prefix starts whole with short | long
    · rcases List.prefix_concat_iff.mp short with same | within
      · exact absurd (same ▸ by simp) absent
      · exact within
    · exact absurd (long.subset (by simp)) absent
  induction before with
  | nil =>
    rw [List.nil_append, List.infix_cons_iff]
    constructor
    · rintro (starts | later)
      · exact Or.inl (upTo [] starts).isInfix
      · exact Or.inr later
    · rintro (empty | later)
      · rw [List.infix_nil.mp empty]
        exact Or.inl List.nil_prefix
      · exact Or.inr later
  | cons d rest ih =>
    have first : pat <+: d :: (rest ++ c :: after) ↔ pat <+: d :: rest :=
      ⟨upTo (d :: rest), fun starts => starts.trans (List.prefix_append (d :: rest) (c :: after))⟩
    rw [List.cons_append, List.infix_cons_iff, List.infix_cons_iff, first, or_assoc]
    exact or_congr_right ih

theorem find_within {pat s : List α} {pos place : Nat} (found : find pat pos s = some place) :
    pos ≤ place ∧ place + pat.length ≤ s.length := by
  unfold find at found
  split at found
  · obtain ⟨later, inRest, rfl⟩ := Option.map_eq_some_iff.mp found
    have fits := search_within inRest
    rw [List.length_drop] at fits
    omega
  · cases found

section UpTo

variable {c : α} {before : List α}

theorem differs_of_absent (absent : c ∉ before) : ∀ d ∈ before, decide (d ≠ c) = true := by
  intro d member
  have other : d ≠ c := fun same => absent (same ▸ member)
  exact decide_eq_true other

theorem takeWhile_upTo (absent : c ∉ before) (after : List α) :
    (before ++ c :: after).takeWhile (· ≠ c) = before := by
  rw [List.takeWhile_append_of_pos (differs_of_absent absent),
    List.takeWhile_cons_of_neg (by simp), List.append_nil]

theorem dropWhile_upTo (absent : c ∉ before) (after : List α) :
    (before ++ c :: after).dropWhile (· ≠ c) = c :: after := by
  rw [List.dropWhile_append_of_pos (differs_of_absent absent),
    List.dropWhile_cons_of_neg (by simp)]

theorem takeWhile_absent (absent : c ∉ before) : before.takeWhile (· ≠ c) = before :=
  List.takeWhile_eq_self_iff.mpr (differs_of_absent absent)

theorem cut_at_first {s : List α} (member : c ∈ s) :
    ∃ before after, s = before ++ c :: after ∧ c ∉ before := by
  induction s with
  | nil => cases member
  | cons head rest ih =>
    by_cases same : head = c
    · exact ⟨[], rest, by rw [same]; rfl, List.not_mem_nil⟩
    · obtain ⟨before, after, whole, absent⟩ := ih (List.mem_of_ne_of_mem (Ne.symm same) member)
      refine ⟨head :: before, after, by rw [whole]; rfl, ?_⟩
      exact List.not_mem_cons_of_ne_of_not_mem (Ne.symm same) absent

end UpTo

section Lines

variable {delim : α} {line : List α}

theorem getlinesFrom_append (absent : delim ∉ line) (read rest : List α) :
    getlinesFrom delim read (line ++ rest) = getlinesFrom delim (read ++ line) rest := by
  induction line generalizing read with
  | nil => simp
  | cons c others ih =>
    have differ : c ≠ delim := Ne.symm (List.ne_of_not_mem_cons absent)
    rw [List.cons_append, getlinesFrom, if_neg differ, ih (List.not_mem_of_not_mem_cons absent),
      List.append_assoc, List.singleton_append]

theorem getlines_line (absent : delim ∉ line) (rest : List α) :
    getlines delim (line ++ delim :: rest) = line :: getlines delim rest := by
  rw [getlines, getlinesFrom_append absent, List.nil_append, getlinesFrom, if_pos rfl]
  rfl

theorem getlines_last (absent : delim ∉ line) :
    getlines delim line = if line = [] then [] else [line] := by
  have read := getlinesFrom_append absent [] []
  rw [List.append_nil, List.nil_append] at read
  exact read

end Lines

omit [DecidableEq α]

theorem takeWhile_stop {p : α → Bool} {rest : List α}
    (stop : ∀ c, rest.head? = some c → ¬ p c) : rest.takeWhile p = [] := by
  cases rest with
  | nil => rfl
  | cons head tail => exact List.takeWhile_cons_of_neg (stop head rfl)

theorem findFirstOf_ge {set : α → Bool} {pos place : Nat} {s : List α}
    (found : findFirstOf set pos s = some place) : pos ≤ place := by
  obtain ⟨later, -, rfl⟩ := Option.map_eq_some_iff.mp found
  exact Nat.le_add_right pos later

theorem findFirstOf_lt {set : α → Bool} {pos place : Nat} {s : List α}
    (found : findFirstOf set pos s = some place) : place < s.length := by
  obtain ⟨later, first, rfl⟩ := Option.map_eq_some_iff.mp found
  have inside := (List.findIdx?_eq_some_iff_findIdx_eq.mp first).1
  rw [List.length_drop] at inside
  omega

theorem splitOnP_findFirstOf_none {set : α → Bool} {pos : Nat} {s : List α}
    (none : findFirstOf set pos s = none) : (s.drop pos).splitOnP set = [s.drop pos] := by
  have absent : (s.drop pos).findIdx? set = Option.none := Option.map_eq_none_iff.mp none
  exact List.splitOnP_eq_singleton (List.findIdx?_eq_none_iff.mp absent)

theorem splitOnP_findFirstOf_some {set : α → Bool} {pos place : Nat} {s : List α}
    (found : findFirstOf set pos s = some place) :
    (s.drop pos).splitOnP set =
      (s.drop pos).take (place - pos) :: (s.drop (place + 1)).splitOnP set := by
  obtain ⟨later, first, rfl⟩ := Option.map_eq_some_iff.mp found
  obtain ⟨inside, closes, before⟩ := List.findIdx?_eq_some_iff_getElem.mp first
  have plain : ∀ c ∈ (s.drop pos).take later, set c = false := by
    intro c member
    obtain ⟨i, bound, rfl⟩ := List.mem_take_iff_getElem.mp member
    exact Bool.not_eq_true _ ▸ before i (Nat.lt_of_lt_of_le bound (Nat.min_le_left ..))
  have parts : s.drop pos =
      (s.drop pos).take later ++ (s.drop pos)[later] :: (s.drop pos).drop (later + 1) := by
    rw [List.getElem_cons_drop, List.take_append_drop]
  have rest : s.drop (pos + later + 1) = (s.drop pos).drop (later + 1) := by
    rw [List.drop_drop, Nat.add_assoc]
  rw [Nat.add_sub_cancel_left, rest]
  exact (congrArg (List.splitOnP set) parts).trans
    (List.splitOnP_append_cons_of_forall_mem plain _ closes _)

@[simp] theorem suffix_append (seen rest : List α) : suffix seen.length (seen ++ rest) = some rest := by
  simp [suffix]

theorem substr_append (seen part rest : List α) :
    substr seen.length part.length (seen ++ (part ++ rest)) = some part := by
  simp [substr]

omit [DecidableEq α] in
theorem suffix_of_le {pos : Nat} {s : List α} (within : pos ≤ s.length) :
    suffix pos s = some (s.drop pos) := if_pos within

omit [DecidableEq α] in
theorem suffix_of_lt {pos : Nat} {s : List α} (past : s.length < pos) : suffix pos s = none :=
  if_neg (Nat.not_le_of_lt past)

omit [DecidableEq α] in
theorem substr_of_le {pos : Nat} {s : List α} (within : pos ≤ s.length) (count : Nat) :
    substr pos count s = some ((s.drop pos).take count) := by
  rw [substr, suffix_of_le within]
  rfl

end GrumpyScreen.Lib.Text
