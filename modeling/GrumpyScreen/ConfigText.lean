import Mathlib.Data.List.Forall2
import Mathlib.Logic.Relation
import GrumpyScreen.ConfigBlocks

/-! A configuration file as a person writes it: comments, empty lines, blanks
and line ends say nothing, and what it does say is what the loader keeps. -/

namespace GrumpyScreen

namespace Config

open Lib

/-- No comment starts here. -/
def plain (c : UInt8) : Bool := c ≠ 35 && c ≠ 59

def IsMark (c : UInt8) : Prop := c = 35 ∨ c = 59

/-- What is left of a line is a heading. -/
def IsHeading (s : Bytes) : Prop := s.head? = some 91 ∧ s.getLast? = some 93

/-- An empty line, or one with a comment only. -/
def Silent (text : Bytes) : Prop :=
  ∃ blanks comment, (∀ c ∈ blanks, isSpace c) ∧ text = blanks ++ comment ∧
    ∀ c, comment.head? = some c → IsMark c

/-- Two spellings of one line. -/
inductive Respelled : Bytes → Bytes → Prop
  /-- A comment behind what the line says. -/
  | comment (text rest : Bytes) {mark : UInt8} (marked : IsMark mark) :
      Respelled text (text ++ mark :: rest)
  /-- Blanks around the line; a carriage return is one of them. -/
  | around (text : Bytes) {before after : Bytes} (front : ∀ c ∈ before, isSpace c)
      (back : ∀ c ∈ after, isSpace c) : Respelled text (before ++ text ++ after)
  /-- Blanks around the delimiter of a setting. -/
  | pair {key val before after : Bytes} {delimiter : UInt8} (delimits : isDelimiter delimiter)
      (first : ∀ c ∈ key, plain c ∧ ¬ isDelimiter c)
      (setting : ¬ IsHeading (Loader.content (key ++ delimiter :: val)))
      (front : ∀ c ∈ before, isSpace c) (back : ∀ c ∈ after, isSpace c) :
      Respelled (key ++ delimiter :: val) (key ++ before ++ delimiter :: (after ++ val))
  /-- Blanks inside the brackets. -/
  | inside {inside before after : Bytes} (bare : ∀ c ∈ inside, plain c)
      (front : ∀ c ∈ before, isSpace c) (back : ∀ c ∈ after, isSpace c) :
      Respelled (91 :: inside ++ [93]) (91 :: (before ++ inside ++ after) ++ [93])
  /-- Blanks between the group and the id. -/
  | between {group rest before : Bytes} {blank : UInt8} (blanks : isBlank blank)
      (named : group ≠ []) (trimmed : trim group = group)
      (word : ∀ c ∈ group, plain c ∧ ¬ isBlank c) (bare : ∀ c ∈ rest, plain c)
      (front : ∀ c ∈ before, isSpace c) :
      Respelled (91 :: (group ++ blank :: rest) ++ [93])
        (91 :: (group ++ blank :: (before ++ rest)) ++ [93])

/-- One change to the lines of a file that says nothing new. -/
inductive Edit : List Bytes → List Bytes → Prop
  | insert (before after : List Bytes) {text : Bytes} (silent : Silent text) :
      Edit (before ++ after) (before ++ text :: after)
  | respell (before after : List Bytes) {text text' : Bytes} (respelled : Respelled text text') :
      Edit (before ++ text :: after) (before ++ text' :: after)

/-- Any number of such changes, made or taken back. -/
def Edited (file file' : Bytes) : Prop :=
  Relation.EqvGen Edit (file.splitOn 10) (file'.splitOn 10)

section Content

variable {s before text after : Bytes}

theorem trim_strip (s : Bytes) : trim s = strip isSpace s := rfl

theorem ne_of_space {c d : UInt8} (space : isSpace c) (text : isSpace d = false) : c ≠ d := by
  rintro rfl
  rw [text] at space
  cases space

theorem plain_of_space {c : UInt8} (space : isSpace c) : plain c := by
  simp [plain, ne_of_space space (d := 35) (by decide), ne_of_space space (d := 59) (by decide)]

theorem not_plain {mark : UInt8} (marked : IsMark mark) : ¬ plain mark := by
  rcases marked with rfl | rfl <;> decide

theorem space_of_blank {blank : UInt8} (blanks : isBlank blank) : isSpace blank := by
  simp only [isBlank, Bool.or_eq_true, decide_eq_true_eq] at blanks
  rcases blanks with rfl | rfl <;> rfl

theorem delimiter_cases {delimiter : UInt8} (delimits : isDelimiter delimiter) :
    delimiter = 61 ∨ delimiter = 58 := by
  simpa [isDelimiter] using delimits

theorem not_space {delimiter : UInt8} (delimits : isDelimiter delimiter) : ¬ isSpace delimiter := by
  rcases delimiter_cases delimits with rfl | rfl <;> decide

theorem plain_of_delimiter {delimiter : UInt8} (delimits : isDelimiter delimiter) :
    plain delimiter := by
  rcases delimiter_cases delimits with rfl | rfl <;> decide

theorem strip_takeWhile_space (text : Bytes) {after : Bytes} (back : ∀ c ∈ after, isSpace c) :
    strip isSpace ((text ++ after).takeWhile plain) = strip isSpace (text.takeWhile plain) := by
  rw [List.takeWhile_append]
  split
  · rename_i bare
    have whole : text.takeWhile plain = text :=
      (List.takeWhile_prefix plain).eq_of_length bare
    have kept : after.takeWhile plain = after :=
      List.takeWhile_eq_self_iff.mpr fun c member => plain_of_space (back c member)
    rw [whole, kept]
    exact Strip.strip_behind back
  · rfl

theorem content_strip (text : Bytes) :
    Loader.content text = strip isSpace (text.takeWhile plain) := by
  unfold Loader.content
  simp only [trim_strip]
  split
  · rename_i ends
    obtain ⟨line, rfl⟩ := List.getLast?_eq_some_iff.mp ends
    rw [List.dropLast_concat]
    exact (strip_takeWhile_space line (List.forall_mem_singleton.mpr (by decide))).symm
  · rfl

theorem content_comment (text rest : Bytes) {mark : UInt8} (marked : IsMark mark) :
    Loader.content (text ++ mark :: rest) = Loader.content text := by
  have stops : (mark :: rest).takeWhile plain = [] := List.takeWhile_cons_of_neg (not_plain marked)
  rw [content_strip, content_strip, List.takeWhile_append, stops, List.append_nil]
  split
  · rename_i bare
    rw [(List.takeWhile_prefix plain).eq_of_length bare]
  · rfl

theorem content_around (front : ∀ c ∈ before, isSpace c) (back : ∀ c ∈ after, isSpace c) :
    Loader.content (before ++ text ++ after) = Loader.content text := by
  have bare : ∀ c ∈ before, plain c := fun c member => plain_of_space (front c member)
  rw [content_strip, content_strip, strip_takeWhile_space _ back, List.takeWhile_append_of_pos bare]
  exact Strip.strip_front front

theorem content_bare (bare : ∀ c ∈ text, plain c) : Loader.content text = strip isSpace text := by
  rw [content_strip, List.takeWhile_eq_self_iff.mpr bare]

theorem content_silent (silent : Silent text) : Loader.content text = [] := by
  obtain ⟨blanks, comment, spaces, rfl, marked⟩ := silent
  have bare : ∀ c ∈ blanks, plain c := fun c member => plain_of_space (spaces c member)
  have none : comment.takeWhile plain = [] := by
    cases comment with
    | nil => rfl
    | cons c rest => exact List.takeWhile_cons_of_neg (not_plain (marked c rfl))
  rw [content_strip, List.takeWhile_append_of_pos bare, none, List.append_nil]
  exact Strip.strip_of_pad spaces

end Content

section Lines

variable {key val group rest inside before after : Bytes} {delimiter : UInt8}

theorem item_heading (bare : ∀ c ∈ inside, plain c) :
    itemIn (Loader.content (91 :: inside ++ [93])) = some (.heading (headingOf (trim inside))) := by
  have marked : ∀ c ∈ 91 :: inside ++ [93], plain c := by
    intro c member
    rcases List.mem_append.mp member with first | last
    · rcases List.mem_cons.mp first with rfl | within
      · rfl
      · exact bare c within
    · rw [List.mem_singleton.mp last]
      rfl
  have whole : Loader.content (91 :: inside ++ [93]) = 91 :: inside ++ [93] := by
    rw [content_bare marked, List.cons_append, Strip.strip_cons (by decide),
      List.rdropWhile_concat_neg isSpace inside 93 (by decide)]
  have last : (91 :: inside ++ [93]).getLast? = some 93 := List.getLast?_concat
  rw [whole, itemIn, last]
  simp

theorem heading_between {blank : UInt8} (blanks : isBlank blank) (named : group ≠ [])
    (trimmed : trim group = group) (word : ∀ c ∈ group, ¬ isBlank c) :
    headingOf (trim (group ++ blank :: rest)) =
      if rest.all isSpace then .plain group else .entry group (unquote (trim rest)) := by
  have separator : isSpace blank := space_of_blank blanks
  have letters : ∀ c ∈ group, (!isBlank c) = true := by simpa using word
  rw [trim_strip, Strip.strip_word named trimmed separator]
  split
  · unfold headingOf
    simp [List.dropWhile_eq_nil_iff.mpr letters]
  · unfold headingOf
    rw [List.dropWhile_append_of_pos letters, List.takeWhile_append_of_pos letters]
    simp [blanks, trim_strip, Strip.strip_rdropWhile]

theorem content_pair (delimits : isDelimiter delimiter) (bare : ∀ c ∈ key, plain c) :
    Loader.content (key ++ delimiter :: val) =
      key.dropWhile isSpace ++ delimiter :: (val.takeWhile plain).rdropWhile isSpace := by
  have stop := not_space delimits
  rw [content_strip, List.takeWhile_append_of_pos bare,
    List.takeWhile_cons_of_pos (plain_of_delimiter delimits), strip, List.dropWhile_append]
  have front : (if (key.dropWhile isSpace).isEmpty then
        (delimiter :: val.takeWhile plain).dropWhile isSpace
      else key.dropWhile isSpace ++ delimiter :: val.takeWhile plain) =
      key.dropWhile isSpace ++ delimiter :: val.takeWhile plain := by
    split
    · rename_i none
      rw [List.isEmpty_iff.mp none, List.nil_append, List.dropWhile_cons_of_neg stop]
    · rfl
  rw [front, Strip.rdropWhile_append ⟨delimiter, List.mem_cons_self, stop⟩,
    Strip.rdropWhile_cons stop]

theorem isHeading_pair (delimits : isDelimiter delimiter) (bare : ∀ c ∈ key, plain c) :
    IsHeading (Loader.content (key ++ delimiter :: val)) ↔
      (trim key).head? = some 91 ∧ (trim (val.takeWhile plain)).getLast? = some 93 := by
  have open_ : delimiter ≠ 91 ∧ delimiter ≠ 93 := by
    rcases delimiter_cases delimits with rfl | rfl <;> decide
  rw [content_pair delimits bare, trim_strip, trim_strip, Strip.head?_strip, Strip.getLast?_strip,
    IsHeading]
  apply and_congr
  · cases key.dropWhile isSpace <;> simp [open_.1]
  · cases left : (val.takeWhile plain).rdropWhile isSpace <;> simp [open_.2]

theorem item_pair (delimits : isDelimiter delimiter)
    (first : ∀ c ∈ key, plain c ∧ ¬ isDelimiter c)
    (setting : ¬ IsHeading (Loader.content (key ++ delimiter :: val))) :
    itemIn (Loader.content (key ++ delimiter :: val)) =
      some (.pair (trim key) (unquote (trim (val.takeWhile plain)))) := by
  have bare : ∀ c ∈ key, plain c := fun c member => (first c member).1
  have letters : ∀ c ∈ key.dropWhile isSpace, (!isDelimiter c) = true := by
    intro c member
    simpa using (first c ((List.dropWhile_suffix _).subset member)).2
  unfold itemIn
  rw [if_neg (by simp [content_pair delimits bare]), if_neg (by simpa [IsHeading] using setting),
    content_pair delimits bare, pairOf, List.dropWhile_append_of_pos letters,
    List.takeWhile_append_of_pos letters, List.dropWhile_cons_of_neg (by simp [delimits]),
    List.takeWhile_cons_of_neg (by simp [delimits]), List.append_nil]
  simp only [trim_strip, Strip.strip_dropWhile, Strip.strip_rdropWhile]

theorem item_respelled {text text' : Bytes} (respelled : Respelled text text') :
    itemIn (Loader.content text') = itemIn (Loader.content text) := by
  cases respelled with
  | comment _ rest marked => rw [content_comment text rest marked]
  | around _ front back => rw [content_around front back]
  | @pair key val before after delimiter delimits first setting front back =>
    have bare : ∀ c ∈ key, plain c := fun c member => (first c member).1
    have spaced : ∀ c ∈ key ++ before, plain c ∧ ¬ isDelimiter c := by
      intro c member
      rcases List.mem_append.mp member with own | added
      · exact first c own
      · have space := front c added
        exact ⟨plain_of_space space, fun delimits => not_space delimits space⟩
    have spacedBare : ∀ c ∈ key ++ before, plain c := fun c member => (spaced c member).1
    have behind : (after ++ val).takeWhile plain = after ++ val.takeWhile plain :=
      List.takeWhile_append_of_pos fun c member => plain_of_space (back c member)
    have sameKey : trim (key ++ before) = trim key :=
      Strip.strip_behind front
    have sameVal : trim (after ++ val.takeWhile plain) = trim (val.takeWhile plain) :=
      Strip.strip_front back
    have still : ¬ IsHeading (Loader.content (key ++ before ++ delimiter :: (after ++ val))) := by
      rw [isHeading_pair delimits bare] at setting
      rwa [isHeading_pair delimits spacedBare, behind, sameKey, sameVal]
    rw [item_pair delimits spaced still, item_pair delimits first setting, behind, sameKey, sameVal]
  | @inside inside before after bare front back =>
    have spaced : ∀ c ∈ before ++ inside ++ after, plain c := by
      intro c member
      rw [List.append_assoc, List.mem_append, List.mem_append] at member
      rcases member with added | own | added
      · exact plain_of_space (front c added)
      · exact bare c own
      · exact plain_of_space (back c added)
    rw [item_heading spaced, item_heading bare, trim_strip, Strip.strip_padded front back,
      trim_strip]
  | @between group rest before blank blanks named trimmed word bare front =>
    have letters : ∀ c ∈ group, ¬ isBlank c := fun c member => (word c member).2
    have blankBare : plain blank := plain_of_space (space_of_blank blanks)
    have spaced : ∀ c ∈ before ++ rest, plain c := by
      intro c member
      rcases List.mem_append.mp member with added | own
      · exact plain_of_space (front c added)
      · exact bare c own
    have inside : ∀ tail : Bytes, (∀ c ∈ tail, plain c) → ∀ c ∈ group ++ blank :: tail, plain c := by
      intro tail plainTail c member
      rcases List.mem_append.mp member with name | more
      · exact (word c name).1
      · rcases List.mem_cons.mp more with rfl | later
        · exact blankBare
        · exact plainTail c later
    have sameAll : (before ++ rest).all isSpace = rest.all isSpace := by
      rw [List.all_append, List.all_eq_true.mpr front, Bool.true_and]
    have sameRest : trim (before ++ rest) = trim rest := Strip.strip_front front
    rw [item_heading (inside _ spaced), item_heading (inside _ bare),
      heading_between blanks named trimmed letters, heading_between blanks named trimmed letters,
      sameAll, sameRest]

theorem item_silent {text : Bytes} (silent : Silent text) :
    itemIn (Loader.content text) = none := by
  rw [content_silent silent]
  rfl

theorem items_append (lines later : List Bytes) :
    items (lines ++ later) = items lines ++ items later := List.filterMap_append

theorem items_edit {lines lines' : List Bytes} (edit : Edit lines lines') :
    items lines = items lines' := by
  cases edit with
  | insert before after silent =>
    rw [items_append, items_append, items, items, items, List.filterMap_cons, item_silent silent]
  | respell before after respelled =>
    rw [items_append, items_append, items, items, items, List.filterMap_cons, List.filterMap_cons,
      item_respelled respelled]

theorem items_edited {file file' : Bytes} (edited : Edited file file') :
    items (file.splitOn 10) = items (file'.splitOn 10) :=
  ((eq_equivalence.comap items).eqvGen_iff).mp (edited.mono fun _ _ => items_edit)

theorem load_edited {file file' : Bytes} (edited : Edited file file') : load file' = load file := by
  rw [load_blocks, load_blocks, items_edited edited]

end Lines

section Loaded

/-- The name a pointer to the top level gives: behind the slash, with `~1` and
`~0` for a slash and a tilde. -/
def unescapeToken : Bytes → Option Bytes
  | [] => some []
  | 126 :: 48 :: rest => (unescapeToken rest).map (126 :: ·)
  | 126 :: 49 :: rest => (unescapeToken rest).map (47 :: ·)
  | 126 :: _ => none
  | c :: rest => (unescapeToken rest).map (c :: ·)

def pointedName : Bytes → Option Bytes
  | 47 :: token => if 47 ∈ token then none else unescapeToken token
  | _ => none

/-- `get_objects` with a pointer to one name, as all of its callers have it. -/
def objectsAt (c : Config) (pointer : Bytes) : Option (List Settings) :=
  (pointedName pointer).map c.getObjects

theorem unescapeToken_plain {token : Bytes} (plain : 126 ∉ token) :
    unescapeToken token = some token := by
  induction token with
  | nil => rfl
  | cons c rest ih =>
    have other : c ≠ 126 := fun same => plain (same ▸ List.mem_cons_self)
    have later := ih fun member => plain (List.mem_cons_of_mem c member)
    rw [unescapeToken, later]
    · rfl
    all_goals simp [other]

/-- The entries under a group's name, as the file has them. -/
def entriesUnder (g : Bytes) (bs : List Block) : List (Bytes × List (Bytes × Bytes)) :=
  bs.filterMap fun b => match b.heading with
    | .plain _ => none
    | .entry group id => if group = g ∧ id ≠ [] then some (id, b.pairs) else none

/-- An object holds an id and beside it, for every key, the last value given. -/
def Holds (id : Bytes) (pairs : List (Bytes × Bytes)) (object : Settings) : Prop :=
  Settings.Distinct object ∧ object.lookup (bytes "id") = some (.text id) ∧
    ∀ key, key ≠ bytes "id" → object.lookup key = lastOf key pairs

theorem entryObject_holds (entry : Bytes × List (Bytes × Bytes)) :
    Holds entry.1 entry.2 (entryObject entry) := by
  refine ⟨put_distinct (putAll_distinct distinct_nil entry.2) _ _, ?_, ?_⟩
  · rw [entryObject, lookup_put, if_pos rfl]
  · intro key other
    rw [entryObject, lookup_put, if_neg other, lookup_putAll]
    simp

/-- The group of an entry has a name: what the brackets hold starts with none
of the blanks that end it. -/
theorem headingOf_named {inside group id : Bytes}
    (heading : headingOf (trim inside) = .entry group id) : group ≠ [] := by
  unfold headingOf at heading
  simp only at heading
  split at heading
  · cases heading
  · rename_i more
    obtain ⟨rfl, -⟩ := Heading.entry.inj heading
    cases left : trim inside with
    | nil => simp [left] at more
    | cons c rest =>
      have text : ¬ isBlank c := fun blank => Strip.strip_head left (space_of_blank blank)
      simp [text]

theorem itemIn_named {s group id : Bytes} (item : itemIn s = some (.heading (.entry group id))) :
    group ≠ [] := by
  unfold itemIn at item
  split at item
  · cases item
  · split at item
    · exact headingOf_named (Item.heading.inj (Option.some.inj item))
    · unfold pairOf at item
      split at item <;> cases item

theorem mem_blocks {its : List Item} {b : Block} (member : b ∈ blocks its) :
    .heading b.heading ∈ its := by
  induction its with
  | nil => cases member
  | cons item rest ih =>
    cases item with
    | pair key val => exact List.mem_cons_of_mem _ (ih member)
    | heading h =>
      rcases List.mem_cons.mp member with rfl | later
      · exact List.mem_cons_self
      · exact List.mem_cons_of_mem _ (ih later)

theorem groupEntries_file (g : Bytes) (file : Bytes) :
    groupEntries g (blocksOf file) = entriesUnder g (blocksOf file) := by
  apply List.filterMap_congr
  intro b member
  obtain ⟨text, -, item⟩ := List.mem_filterMap.mp (mem_blocks member)
  unfold Block.entryOf
  cases h : b.heading with
  | plain name => rfl
  | entry group id =>
    have named : group ≠ [] := itemIn_named (h ▸ item)
    simp only [named, ne_eq, not_false_eq_true, true_and]

theorem getObjects_reading (bs : List Block) (apart : Apart bs) (g : Bytes) :
    (reading bs).getObjects g = (groupEntries g bs).map entryObject := by
  unfold getObjects
  by_cases settings : sectionPairs g bs = []
  · by_cases entries : groupEntries g bs = []
    · rw [reading_none settings entries, entries]
      rfl
    · rw [reading_group settings entries]
  · have entries : groupEntries g bs = [] := by
      by_contra entries
      exact apart g ⟨settings, entries⟩
    rw [reading_settings settings, entries]
    rfl

theorem blocks_front {front rest : List Item} (headless : ∀ h, .heading h ∉ front) :
    blocks (front ++ rest) = blocks rest := by
  induction front with
  | nil => rfl
  | cons item more ih =>
    cases item with
    | pair key val => exact ih fun h member => headless h (List.mem_cons_of_mem _ member)
    | heading h => exact absurd List.mem_cons_self (headless h)

/-- No heading uses the name of another kind of heading. -/
def NamesApart (bs : List Block) : Prop :=
  ∀ name, ¬ ((∃ b ∈ bs, b.heading = .plain name) ∧ ∃ b ∈ bs, ∃ id, b.heading = .entry name id)

theorem NamesApart.apart {bs : List Block} (names : NamesApart bs) : Apart bs := by
  intro name ⟨settings, entries⟩
  apply names name
  constructor
  · obtain ⟨pair, member⟩ := List.exists_mem_of_ne_nil _ settings
    obtain ⟨b, known, under⟩ := List.mem_flatMap.mp member
    refine ⟨b, known, ?_⟩
    cases h : b.heading with
    | plain other =>
      by_contra differ
      have other : other ≠ name := fun same => differ (congrArg Heading.plain same)
      simp [Block.under, h, other] at under
    | entry group id => simp [Block.under, h] at under
  · obtain ⟨entry, member⟩ := List.exists_mem_of_ne_nil _ entries
    obtain ⟨b, known, own⟩ := List.mem_filterMap.mp member
    refine ⟨b, known, ?_⟩
    cases h : b.heading with
    | plain other => simp [Block.entryOf, h] at own
    | entry group id =>
      by_contra differ
      have other : group ≠ name := fun same => differ ⟨id, congrArg (Heading.entry · id) same⟩
      simp [Block.entryOf, h, other] at own

/-- A file where no name is a section and a group both loads to what it says: a
group's objects are its entries in file order, a section's settings those under
all its headings together, the last value of a key standing; what comes before
the first heading and everything that is no setting changes nothing. -/
theorem load_as_written (file : Bytes) (apart : Apart (blocksOf file)) :
    ∃ c, load file = some c ∧
      (∀ g : Bytes, 47 ∉ g → 126 ∉ g → ∃ objects, c.objectsAt (47 :: g) = some objects ∧
        List.Forall₂ (fun entry => Holds entry.1 entry.2) (entriesUnder g (blocksOf file)) objects) ∧
      (∀ name, sectionPairs name (blocksOf file) ≠ [] →
        ∃ settings, c name = some (.settings settings) ∧ Settings.Distinct settings ∧
          ∀ key, settings.lookup key = lastOf key (sectionPairs name (blocksOf file))) ∧
      (∀ file' front, file'.splitOn 10 = front ++ file.splitOn 10 →
        (∀ h, .heading h ∉ items front) → load file' = some c) ∧
      ∀ file', Edited file file' → load file' = some c := by
  have loaded : load file = some (reading (blocksOf file)) := (load_reading file _).mpr ⟨apart, rfl⟩
  refine ⟨reading (blocksOf file), loaded, ?_, ?_, ?_, ?_⟩
  · intro g slash tilde
    refine ⟨(entriesUnder g (blocksOf file)).map entryObject, ?_, ?_⟩
    · rw [objectsAt, pointedName, if_neg slash, unescapeToken_plain tilde, Option.map_some,
        getObjects_reading _ apart, groupEntries_file]
    · rw [List.forall₂_map_right_iff]
      exact List.forall₂_same.mpr fun entry _ => entryObject_holds entry
  · intro name settings
    refine ⟨_, reading_settings settings, putAll_distinct distinct_nil _, fun key => ?_⟩
    rw [lookup_putAll]
    simp
  · intro file' front lines headless
    rw [load_blocks, lines, items_append, blocks_front headless]
    exact (load_blocks file).symm.trans loaded
  · intro file' edited
    rw [load_edited edited, loaded]

def writtenFile : Bytes :=
  bytes "rate: 0\n[fan \"a\"]\nname: x # left\r\n[log]\nlevel: info\n[fan 'b']\nname: y\nname: z\n"

/-- The fans of a file with a section between them. -/
theorem load_as_written_fans : (load writtenFile).isSome ∧ ∃ c, load writtenFile = some c ∧
    ∃ objects, c.objectsAt (bytes "/fan") = some objects ∧
      List.Forall₂ (fun entry => Holds entry.1 entry.2)
        [(bytes "a", [(bytes "name", bytes "x")]),
          (bytes "b", [(bytes "name", bytes "y"), (bytes "name", bytes "z")])] objects := by
  have loads : (load writtenFile).isSome := by decide
  obtain ⟨loaded, loading⟩ := Option.isSome_iff_exists.mp loads
  have apart : Apart (blocksOf writtenFile) := ((load_reading _ _).mp loading).1
  obtain ⟨c, same, groups, -⟩ := load_as_written writtenFile apart
  have entries : entriesUnder (bytes "fan") (blocksOf writtenFile) =
      [(bytes "a", [(bytes "name", bytes "x")]),
        (bytes "b", [(bytes "name", bytes "y"), (bytes "name", bytes "z")])] := by decide
  have held := groups (bytes "fan") (by decide) (by decide)
  rw [entries] at held
  exact ⟨loads, c, same, held⟩

end Loaded

end Config

end GrumpyScreen
