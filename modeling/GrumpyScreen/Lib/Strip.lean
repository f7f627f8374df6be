import Mathlib.Data.List.DropRight

/-! What is left of a list when the padding at both its ends is cut off. -/

namespace GrumpyScreen.Lib

variable {α : Type} (pad : α → Bool)

def strip (s : List α) : List α := (s.dropWhile pad).rdropWhile pad

namespace Strip

variable {pad} {before s after : List α}

theorem rdropWhile_padded (padding : ∀ c ∈ after, pad c) :
    (s ++ after).rdropWhile pad = s.rdropWhile pad := by
  have behind : ∀ c ∈ after.reverse, pad c := fun c member =>
    padding c (List.mem_reverse.mp member)
  rw [List.rdropWhile, List.reverse_append, List.dropWhile_append_of_pos behind, List.rdropWhile]

theorem rdropWhile_append (text : ∃ c ∈ after, ¬ pad c) :
    (s ++ after).rdropWhile pad = s ++ after.rdropWhile pad := by
  obtain ⟨c, member, plain⟩ := text
  have stops : ¬ (after.reverse.dropWhile pad).isEmpty := by
    rw [List.isEmpty_iff, List.dropWhile_eq_nil_iff]
    exact fun padding => plain (padding c (List.mem_reverse.mpr member))
  rw [List.rdropWhile, List.reverse_append, List.dropWhile_append, if_neg stops,
    List.reverse_append, List.reverse_reverse, List.rdropWhile]

theorem strip_of_pad (padding : ∀ c ∈ s, pad c) : strip pad s = [] := by
  rw [strip, List.dropWhile_eq_nil_iff.mpr padding, List.rdropWhile_nil]

@[simp] theorem strip_nil : strip pad [] = [] := strip_of_pad (by simp)

theorem dropWhile_text (text : ∃ c ∈ s, ¬ pad c) : ¬ (s.dropWhile pad).isEmpty := by
  obtain ⟨c, member, plain⟩ := text
  rw [List.isEmpty_iff, List.dropWhile_eq_nil_iff]
  exact fun padding => plain (padding c member)

theorem strip_padded (front : ∀ c ∈ before, pad c) (back : ∀ c ∈ after, pad c) :
    strip pad (before ++ s ++ after) = strip pad s := by
  rw [strip, List.append_assoc, List.dropWhile_append_of_pos front, strip]
  by_cases padding : ∀ c ∈ s, pad c
  · rw [List.dropWhile_append_of_pos padding, List.dropWhile_eq_nil_iff.mpr padding,
      List.dropWhile_eq_nil_iff.mpr back]
  · push Not at padding
    have text : ∃ c ∈ s, ¬ pad c := by simpa using padding
    rw [List.dropWhile_append, if_neg (dropWhile_text text), rdropWhile_padded back]

theorem strip_front (front : ∀ c ∈ before, pad c) : strip pad (before ++ s) = strip pad s := by
  have padded := strip_padded (s := s) front (List.forall_mem_nil (pad ·))
  rw [List.append_nil] at padded
  exact padded

theorem strip_behind (back : ∀ c ∈ after, pad c) : strip pad (s ++ after) = strip pad s :=
  strip_padded (s := s) (List.forall_mem_nil (pad ·)) back

theorem strip_rdropWhile : strip pad (s.rdropWhile pad) = strip pad s := by
  have parts : s.rdropWhile pad ++ s.rtakeWhile pad = s := List.rdropWhile_append_rtakeWhile ..
  have padding : ∀ c ∈ s.rtakeWhile pad, pad c := fun _ member => List.mem_rtakeWhile_imp member
  calc strip pad (s.rdropWhile pad)
      = strip pad ([] ++ s.rdropWhile pad ++ s.rtakeWhile pad) :=
        (strip_padded (by simp) padding).symm
    _ = strip pad s := by rw [List.nil_append, parts]

theorem head?_dropWhile_text {c : α} (first : (s.dropWhile pad).head? = some c) : ¬ pad c := by
  have stopped := List.head?_dropWhile_not pad s
  rw [first] at stopped
  simp [stopped]

theorem getLast?_rdropWhile_text {c : α} (last : (s.rdropWhile pad).getLast? = some c) :
    ¬ pad c := by
  rw [List.rdropWhile, List.getLast?_reverse] at last
  exact head?_dropWhile_text last

theorem strip_head {c : α} {rest : List α} (left : strip pad s = c :: rest) : ¬ pad c := by
  obtain ⟨more, whole⟩ : strip pad s <+: s.dropWhile pad := List.rdropWhile_prefix ..
  rw [left, List.cons_append] at whole
  have first := List.head_dropWhile_not pad (l := s) (by rw [← whole]; simp)
  simpa [← whole] using first

theorem rdropWhile_cons {c : α} {rest : List α} (text : ¬ pad c) :
    (c :: rest).rdropWhile pad = c :: rest.rdropWhile pad := by
  by_cases padding : ∀ d ∈ rest, pad d
  · rw [List.rdropWhile_eq_nil_iff.mpr padding]
    exact (rdropWhile_padded (s := [c]) padding).trans
      (List.rdropWhile_concat_neg pad [] c text)
  · push Not at padding
    exact rdropWhile_append (s := [c]) (by simpa using padding)

theorem strip_cons {c : α} {rest : List α} (text : ¬ pad c) :
    strip pad (c :: rest) = c :: rest.rdropWhile pad := by
  rw [strip, List.dropWhile_cons_of_neg text, rdropWhile_cons text]

theorem strip_dropWhile : strip pad (s.dropWhile pad) = strip pad s := by
  rw [strip, List.dropWhile_idempotent, strip]

theorem head?_strip : (strip pad s).head? = (s.dropWhile pad).head? := by
  cases left : s.dropWhile pad with
  | nil => rw [strip, left, List.rdropWhile_nil]
  | cons c rest =>
    have first := List.head_dropWhile_not pad (l := s) (by rw [left]; simp)
    have text : ¬ pad c := by simpa [left] using first
    rw [strip, left, rdropWhile_cons text, List.head?_cons, List.head?_cons]

theorem getLast?_strip : (strip pad s).getLast? = (s.rdropWhile pad).getLast? := by
  have parts : s.takeWhile pad ++ s.dropWhile pad = s := List.takeWhile_append_dropWhile
  cases left : s.dropWhile pad with
  | nil =>
    have padding : ∀ c ∈ s, pad c := List.dropWhile_eq_nil_iff.mp left
    rw [strip_of_pad padding, List.rdropWhile_eq_nil_iff.mpr padding]
  | cons c rest =>
    have first := List.head_dropWhile_not pad (l := s) (by rw [left]; simp)
    have text : ¬ pad c := by simpa [left] using first
    rw [strip, left, rdropWhile_cons text]
    rw [left] at parts
    rw [← parts, rdropWhile_append ⟨c, List.mem_cons_self, text⟩, rdropWhile_cons text,
      List.getLast?_append_of_ne_nil _ (List.cons_ne_nil c _)]

/-- A word followed by a separator that counts as padding: the padding behind
the word goes, with the word alone where nothing else follows. -/
theorem strip_word {c : α} {word rest : List α} (nonempty : word ≠ [])
    (trimmed : strip pad word = word) (separator : pad c) :
    strip pad (word ++ c :: rest) =
      if rest.all pad then word else word ++ c :: rest.rdropWhile pad := by
  split
  · rename_i padding
    have behind : ∀ d ∈ c :: rest, pad d := by
      intro d member
      rcases List.mem_cons.mp member with rfl | later
      · exact separator
      · exact List.all_eq_true.mp padding d later
    exact (strip_behind behind).trans trimmed
  · rename_i more
    have text : ∃ d ∈ rest, ¬ pad d := by simpa using more
    obtain ⟨head, tail, rfl⟩ := List.exists_cons_of_ne_nil nonempty
    obtain ⟨d, member, stops⟩ := text
    have behind : (c :: rest).rdropWhile pad = c :: rest.rdropWhile pad :=
      rdropWhile_append (s := [c]) ⟨d, member, stops⟩
    rw [List.cons_append, strip_cons (strip_head trimmed),
      rdropWhile_append ⟨d, List.mem_cons_of_mem c member, stops⟩, behind, List.cons_append]

end Strip

end GrumpyScreen.Lib
