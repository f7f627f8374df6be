import GrumpyScreen.ConfigGet

/-! A configuration file written out again: what the loader keeps of a file has a text of
its own, and the text reads as the file does. -/

namespace GrumpyScreen

namespace Config

open Lib

/-- A heading as it is written: the id in quotes. -/
def Heading.line : Heading → Bytes
  | .plain name => 91 :: name ++ [93]
  | .entry group id => 91 :: (group ++ 32 :: (34 :: (id ++ [34]))) ++ [93]

/-- A block as it is written: one line a pair, the value in quotes. -/
def Block.lines (b : Block) : List Bytes :=
  b.heading.line :: b.pairs.map fun pair => quotedLine pair.1 34 pair.2

/-- The file that says this; every line is ended. -/
def written (bs : List Block) : Bytes := [10].intercalate (bs.flatMap Block.lines ++ [[]])

/-- It fits on a line, without a comment. -/
def OneLine (s : Bytes) : Prop := ∀ c ∈ s, plain c ∧ c ≠ 10

/-- A heading that a line can give. -/
inductive Heading.Writable : Heading → Prop
  | plain {name : Bytes} (line : OneLine name) (trimmed : trim name = name)
      (word : ∀ c ∈ name, ¬ isBlank c) : Writable (.plain name)
  | entry {c : UInt8} {rest id : Bytes} (line : OneLine (c :: rest)) (text : ¬ isSpace c)
      (word : ∀ d ∈ c :: rest, ¬ isBlank d) (idLine : OneLine id) : Writable (.entry (c :: rest) id)

/-- A block that lines can give. -/
structure Block.Writable (b : Block) : Prop where
  heading : b.heading.Writable
  key : ∀ pair ∈ b.pairs, OneLine pair.1 ∧ IsKey pair.1
  value : ∀ pair ∈ b.pairs, OneLine pair.2

/-- What a block says. -/
def Block.said (b : Block) : List Item :=
  .heading b.heading :: b.pairs.map fun pair => .pair pair.1 pair.2

section Read

variable {b : Block} {bs : List Block} {h : Heading}

theorem OneLine.plain {s : Bytes} (line : OneLine s) : ∀ c ∈ s, plain c :=
  fun c member => (line c member).1

theorem OneLine.append {s t : Bytes} (first : OneLine s) (second : OneLine t) : OneLine (s ++ t) :=
  List.forall_mem_append.mpr ⟨first, second⟩

theorem OneLine.cons {c : UInt8} {s : Bytes} (first : Config.plain c ∧ c ≠ 10) (rest : OneLine s) :
    OneLine (c :: s) := List.forall_mem_cons.mpr ⟨first, rest⟩

theorem OneLine.nil : OneLine [] := List.forall_mem_nil _

theorem OneLine.quoted {id : Bytes} (line : OneLine id) : OneLine (32 :: (34 :: (id ++ [34]))) :=
  .cons (by decide) (.cons (by decide) (line.append (.cons (by decide) .nil)))

theorem headingOf_word {name : Bytes} (word : ∀ c ∈ name, ¬ isBlank c) :
    headingOf name = .plain name := by
  have letters : name.dropWhile (!isBlank ·) = [] :=
    List.dropWhile_eq_nil_iff.mpr (by simpa using word)
  rw [headingOf, letters]
  rfl

theorem headingOf_quoted {group id : Bytes} (word : ∀ c ∈ group, ¬ isBlank c) :
    headingOf (group ++ 32 :: (34 :: (id ++ [34]))) = .entry group id := by
  have letters : ∀ c ∈ group, (!isBlank c) = true := by simpa using word
  have behind : (group ++ 32 :: (34 :: (id ++ [34]))).dropWhile (!isBlank ·) =
      32 :: (34 :: (id ++ [34])) := by
    rw [List.dropWhile_append_of_pos letters]
    rfl
  have front : (group ++ 32 :: (34 :: (id ++ [34]))).takeWhile (!isBlank ·) = group := by
    rw [List.takeWhile_append_of_pos letters]
    exact List.append_nil group
  have trimmed : trim (34 :: (id ++ [34])) = 34 :: (id ++ [34]) := by
    rw [trim_strip, Strip.strip_cons (by decide), List.rdropWhile_concat_neg _ _ _ (by decide)]
  rw [headingOf, behind, front]
  simp only [List.isEmpty_cons, Bool.false_eq_true, if_false, List.tail_cons]
  rw [trimmed, unquote_quoted (.inl rfl)]

theorem item_line (writable : h.Writable) :
    itemIn (Loader.content h.line) = some (.heading h) := by
  cases writable with
  | plain line trimmed word =>
    rw [Heading.line, item_heading line.plain, trimmed, headingOf_word word]
  | @entry c rest id line text word idLine =>
    have whole : OneLine ((c :: rest) ++ 32 :: (34 :: (id ++ [34]))) := line.append idLine.quoted
    have trimmed : trim ((c :: rest) ++ 32 :: (34 :: (id ++ [34]))) =
        (c :: rest) ++ 32 :: (34 :: (id ++ [34])) := by
      have closed : rest ++ 32 :: (34 :: (id ++ [34])) = (rest ++ 32 :: 34 :: id) ++ [34] := by simp
      rw [trim_strip, List.cons_append, Strip.strip_cons text, closed,
        List.rdropWhile_concat_neg _ _ _ (by decide)]
    rw [Heading.line, item_heading whole.plain, trimmed, headingOf_quoted word]

theorem items_lines (writable : b.Writable) : items b.lines = b.said := by
  have pairs : items (b.pairs.map fun pair => quotedLine pair.1 34 pair.2) =
      b.pairs.map fun pair => .pair pair.1 pair.2 := by
    rw [items, List.filterMap_map, ← List.filterMap_eq_map]
    refine List.filterMap_congr fun pair member => ?_
    exact item_quoted (writable.key pair member).2 (.inl rfl) (writable.value pair member).plain
  rw [Block.lines, items, List.filterMap_cons, item_line writable.heading]
  exact congrArg _ pairs

theorem items_flatMap (writable : ∀ b ∈ bs, b.Writable) :
    items (bs.flatMap Block.lines) = bs.flatMap Block.said := by
  induction bs with
  | nil => rfl
  | cons b rest ih =>
    obtain ⟨first, later⟩ := List.forall_mem_cons.mp writable
    rw [List.flatMap_cons, List.flatMap_cons, items_append, items_lines first, ih later]

theorem lead_pairs (pairs : List (Bytes × Bytes)) (its : List Item) :
    lead (pairs.map (fun pair => .pair pair.1 pair.2) ++ its) = pairs ++ lead its ∧
      blocks (pairs.map (fun pair => .pair pair.1 pair.2) ++ its) = blocks its := by
  induction pairs with
  | nil => exact ⟨rfl, rfl⟩
  | cons pair rest ih => exact ⟨congrArg (pair :: ·) ih.1, ih.2⟩

theorem blocks_said (bs : List Block) :
    lead (bs.flatMap Block.said) = [] ∧ blocks (bs.flatMap Block.said) = bs := by
  induction bs with
  | nil => exact ⟨rfl, rfl⟩
  | cons b rest ih =>
    obtain ⟨own, behind⟩ := lead_pairs b.pairs (rest.flatMap Block.said)
    refine ⟨rfl, ?_⟩
    rw [List.flatMap_cons, Block.said, List.cons_append, blocks, own, behind, ih.1, ih.2,
      List.append_nil]

theorem Heading.Writable.oneLine (writable : h.Writable) : OneLine h.line := by
  have close : OneLine [93] := .cons (by decide) .nil
  cases writable with
  | plain line _ _ => exact (OneLine.cons (by decide) line).append close
  | entry line _ _ idLine =>
    exact (OneLine.cons (by decide) (line.append idLine.quoted)).append close

theorem lines_unbroken (writable : b.Writable) : ∀ line ∈ b.lines, 10 ∉ line := by
  have oneLine : ∀ line ∈ b.lines, OneLine line := by
    refine List.forall_mem_cons.mpr ⟨writable.heading.oneLine, fun line member => ?_⟩
    obtain ⟨pair, within, rfl⟩ := List.mem_map.mp member
    have key : OneLine pair.1 := (writable.key pair within).1
    exact key.append (.cons (by decide) (writable.value pair within).quoted)
  intro line member broken
  exact (oneLine line member 10 broken).2 rfl

theorem blocksOf_written (writable : ∀ b ∈ bs, b.Writable) : blocksOf (written bs) = bs := by
  have unbroken : ∀ line ∈ bs.flatMap Block.lines ++ [[]], 10 ∉ line := by
    refine List.forall_mem_append.mpr ⟨fun line member => ?_, by simp⟩
    obtain ⟨b, known, own⟩ := List.mem_flatMap.mp member
    exact lines_unbroken (writable b known) line own
  have silent : items [[]] = [] := rfl
  rw [blocksOf, written, List.splitOn_intercalate 10 unbroken (by simp), items_append, silent,
    List.append_nil, items_flatMap writable, (blocks_said bs).2]

end Read

section Kept

variable {s : Bytes} {b : Block}

theorem mem_of_mem_trim {c : UInt8} (member : c ∈ trim s) : c ∈ s := by
  rw [trim_strip] at member
  exact (List.dropWhile_suffix _).subset ((List.rdropWhile_prefix _ _).subset member)

theorem mem_of_mem_unquote {c : UInt8} (member : c ∈ unquote s) : c ∈ s := by
  unfold unquote at member
  split at member
  · exact List.mem_of_mem_tail (List.dropLast_subset _ member)
  · exact member

theorem OneLine.mono {s t : Bytes} (line : OneLine t) (within : ∀ c ∈ s, c ∈ t) : OneLine s :=
  fun c member => line c (within c member)

theorem trim_trim (s : Bytes) : trim (trim s) = trim s := by
  simp only [trim_strip]
  calc strip isSpace (strip isSpace s)
      = strip isSpace (s.dropWhile isSpace) := Strip.strip_rdropWhile
    _ = strip isSpace s := Strip.strip_dropWhile

theorem headingOf_writable (line : OneLine s) : (headingOf (trim s)).Writable := by
  have inner : OneLine (trim s) := line.mono fun _ => mem_of_mem_trim
  rw [headingOf]
  split
  · next none =>
    refine .plain inner (trim_trim s) fun c member => ?_
    simpa using List.dropWhile_eq_nil_iff.mp (List.isEmpty_iff.mp none) c member
  · next more =>
    cases left : trim s with
    | nil => simp [left] at more
    | cons c rest =>
      have text : ¬ isSpace c := Strip.strip_head left
      have letter : (!isBlank c) = true := by
        simpa using fun blank => text (space_of_blank blank)
      have kept : (c :: rest).takeWhile (!isBlank ·) = c :: rest.takeWhile (!isBlank ·) :=
        List.takeWhile_cons_of_pos letter
      rw [left] at inner
      rw [kept]
      refine .entry ?_ text ?_ ?_
      · rw [← kept]
        exact inner.mono fun _ member => (List.takeWhile_prefix _).subset member
      · intro d member
        rw [← kept] at member
        simpa using List.mem_takeWhile_imp member
      · refine inner.mono fun d member => ?_
        have behind := mem_of_mem_trim (mem_of_mem_unquote member)
        exact (List.dropWhile_suffix _).subset (List.mem_of_mem_tail behind)

theorem itemIn_writable {h : Heading} (line : OneLine s) (item : itemIn s = some (.heading h)) :
    h.Writable := by
  unfold itemIn at item
  split at item
  · cases item
  · split at item
    · rw [← Item.heading.inj (Option.some.inj item)]
      exact headingOf_writable
        (line.mono fun _ member => List.mem_of_mem_tail (List.dropLast_subset _ member))
    · unfold pairOf at item
      split at item <;> cases item

theorem itemIn_pair {key val : Bytes} (line : OneLine s) (item : itemIn s = some (.pair key val)) :
    (OneLine key ∧ IsKey key) ∧ OneLine val := by
  unfold itemIn at item
  split at item
  · cases item
  split at item
  · cases item
  unfold pairOf at item
  split at item
  · cases item
  next delimiter behind split =>
  obtain ⟨rfl, rfl⟩ := Item.pair.inj (Option.some.inj item)
  have front : OneLine (trim (s.takeWhile (!isDelimiter ·))) :=
    line.mono fun _ member => (List.takeWhile_prefix _).subset (mem_of_mem_trim member)
  refine ⟨⟨front, fun c member => ⟨front.plain c member, ?_⟩, trim_trim _⟩,
    line.mono fun c member => ?_⟩
  · simpa using List.mem_takeWhile_imp (mem_of_mem_trim member)
  · have within : c ∈ delimiter :: behind :=
      List.mem_cons_of_mem _ (mem_of_mem_trim (mem_of_mem_unquote member))
    rw [← split] at within
    exact (List.dropWhile_suffix _).subset within

theorem unbroken_of_mem_splitOn {file line : Bytes} (member : line ∈ file.splitOn 10) :
    10 ∉ line := by
  induction file generalizing line with
  | nil =>
    rw [List.splitOn_nil] at member
    simp [List.mem_singleton.mp member]
  | cons c rest ih =>
    rw [List.splitOn_cons_eq_if_modifyHead] at member
    split at member
    · rcases List.mem_cons.mp member with rfl | later
      · exact List.not_mem_nil
      · exact ih later
    · next other =>
      cases lines : rest.splitOn 10 with
      | nil => exact absurd lines (List.splitOn_ne_nil 10 rest)
      | cons first more =>
        rw [lines] at ih member
        rcases List.mem_cons.mp member with rfl | later
        · have apart : (10 : UInt8) ≠ c := by
            rintro rfl
            exact other (beq_self_eq_true _)
          simp [apart, ih List.mem_cons_self]
        · exact ih (List.mem_cons_of_mem _ later)

theorem content_oneLine {text : Bytes} (unbroken : 10 ∉ text) : OneLine (Loader.content text) := by
  intro c member
  rw [content_strip, ← trim_strip] at member
  have within := mem_of_mem_trim member
  refine ⟨List.mem_takeWhile_imp within, ?_⟩
  rintro rfl
  exact unbroken ((List.takeWhile_prefix _).subset within)

theorem mem_blocks_pairs {its : List Item} {pair : Bytes × Bytes} (member : b ∈ blocks its)
    (own : pair ∈ b.pairs) : .pair pair.1 pair.2 ∈ its := by
  induction its with
  | nil => cases member
  | cons item rest ih =>
    cases item with
    | pair key val => exact List.mem_cons_of_mem _ (ih member)
    | heading h =>
      rcases List.mem_cons.mp member with rfl | later
      · exact List.mem_cons_of_mem _ (mem_lead own)
      · exact List.mem_cons_of_mem _ (ih later)

theorem blocksOf_writable (file : Bytes) : ∀ b ∈ blocksOf file, b.Writable := by
  have given : ∀ item ∈ items (file.splitOn 10),
      ∃ text, OneLine text ∧ itemIn text = some item := by
    intro item member
    obtain ⟨text, known, said⟩ := List.mem_filterMap.mp member
    exact ⟨_, content_oneLine (unbroken_of_mem_splitOn known), said⟩
  intro b member
  have pairs : ∀ pair ∈ b.pairs, (OneLine pair.1 ∧ IsKey pair.1) ∧ OneLine pair.2 := by
    intro pair own
    obtain ⟨text, line, said⟩ := given _ (mem_blocks_pairs member own)
    exact itemIn_pair line said
  obtain ⟨text, line, said⟩ := given _ (mem_blocks member)
  exact ⟨itemIn_writable line said, fun pair own => (pairs pair own).1,
    fun pair own => (pairs pair own).2⟩

/-- Every file, of any bytes, loads as the text written of what it says, or is refused with
it; what is written is read back to the byte exactly where lines can give it; and a file gives
nothing else, so the text written of it is written of itself again. -/
theorem load_written :
    (∀ file, load (written (blocksOf file)) = load file) ∧
      (∀ bs, blocksOf (written bs) = bs ↔ ∀ b ∈ bs, b.Writable) ∧
      ∀ file, ∀ b ∈ blocksOf file, b.Writable := by
  refine ⟨fun file => ?_, fun bs => ⟨fun same => ?_, blocksOf_written⟩, blocksOf_writable⟩
  · have same : blocksOf (written (blocksOf file)) = blocksOf file :=
      blocksOf_written (blocksOf_writable file)
    rw [load_blocks, load_blocks]
    exact congrArg (fun bs : List Block => bs.foldlM (fun c b => b.store c) fun _ => none) same
  · exact same ▸ blocksOf_writable (written bs)

end Kept

end Config

end GrumpyScreen
