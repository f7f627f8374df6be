import GrumpyScreen.Config
import GrumpyScreen.Lib.Strip

/-! What a configuration file says: its headings with the pairs under each, in
file order. The loader, which reads line by line, comes to the same. -/

namespace GrumpyScreen

namespace Config

open Lib

/-- `[section]` or `[group "id"]`. -/
inductive Heading where
  | plain (name : Bytes)
  | entry (group id : Bytes)
deriving DecidableEq, Repr

inductive Item where
  | heading (h : Heading)
  | pair (key val : Bytes)
deriving DecidableEq, Repr

def isBlank (c : UInt8) : Bool := c = 32 || c = 9

/-- What stands between the brackets, without the blanks around it. -/
def headingOf (inside : Bytes) : Heading :=
  let rest := inside.dropWhile (!isBlank ·)
  if rest.isEmpty then .plain inside
  else .entry (inside.takeWhile (!isBlank ·)) (unquote (trim rest.tail))

def isDelimiter (c : UInt8) : Bool := c = 61 || c = 58

/-- `key: value` or `key = value`. -/
def pairOf (s : Bytes) : Option Item :=
  match s.dropWhile (!isDelimiter ·) with
  | [] => none
  | _ :: val => some (.pair (trim (s.takeWhile (!isDelimiter ·))) (unquote (trim val)))

/-- What is left of a line says one thing or nothing. -/
def itemIn (s : Bytes) : Option Item :=
  if s.isEmpty then none
  else if s.head? = some 91 && s.getLast? = some 93 then
    some (.heading (headingOf (trim s.tail.dropLast)))
  else pairOf s

def items (lines : List Bytes) : List Item :=
  lines.filterMap fun text => itemIn (Loader.content text)

/-- A heading and the pairs between it and the next one. -/
structure Block where
  heading : Heading
  pairs : List (Bytes × Bytes)
deriving DecidableEq, Repr

/-- The pairs up to the next heading. -/
def lead : List Item → List (Bytes × Bytes)
  | [] => []
  | .pair key val :: rest => (key, val) :: lead rest
  | .heading _ :: _ => []

/-- Pairs before the first heading belong to none. -/
def blocks : List Item → List Block
  | [] => []
  | .pair _ _ :: rest => blocks rest
  | .heading h :: rest => ⟨h, lead rest⟩ :: blocks rest

def Block.under (name : Bytes) (b : Block) : List (Bytes × Bytes) :=
  match b.heading with
  | .plain other => if other = name ∧ name ≠ [] then b.pairs else []
  | .entry _ _ => []

/-- An entry without an id is none. -/
def Block.entryOf (name : Bytes) (b : Block) : Option (Bytes × List (Bytes × Bytes)) :=
  match b.heading with
  | .plain _ => none
  | .entry group id => if group = name ∧ group ≠ [] ∧ id ≠ [] then some (id, b.pairs) else none

/-- Everything said under `[name]`, over all its headings. -/
def sectionPairs (name : Bytes) (bs : List Block) : List (Bytes × Bytes) :=
  bs.flatMap (Block.under name)

/-- The entries `[name "id"]` with their pairs. -/
def groupEntries (name : Bytes) (bs : List Block) : List (Bytes × List (Bytes × Bytes)) :=
  bs.filterMap (Block.entryOf name)

/-- The name has settings as a section and entries as a group. -/
def Clash (bs : List Block) (name : Bytes) : Prop :=
  sectionPairs name bs ≠ [] ∧ groupEntries name bs ≠ []

def putAll (e : Settings) (pairs : List (Bytes × Bytes)) : Settings :=
  pairs.foldl (fun e pair => e.put pair.1 (typed pair.2)) e

/-- An entry as it is stored: its pairs, and its id over a key of that name. -/
def entryObject (entry : Bytes × List (Bytes × Bytes)) : Settings :=
  (putAll [] entry.2).put (bytes "id") (.text entry.1)

/-- What the file says under every name. -/
def reading (bs : List Block) : Config := fun name =>
  if sectionPairs name bs ≠ [] then some (.settings (putAll [] (sectionPairs name bs)))
  else if groupEntries name bs ≠ [] then some (.group ((groupEntries name bs).map entryObject))
  else none

/-- The last value the pairs give a key. -/
def lastOf (key : Bytes) (pairs : List (Bytes × Bytes)) : Option Setting :=
  (pairs.reverse.lookup key).map typed

section Settings

/-- No key is stored twice. -/
def Settings.Distinct (e : Settings) : Prop := (e.map (·.1)).Nodup

theorem distinct_nil : Settings.Distinct [] := List.nodup_nil

theorem put_distinct {e : Settings} (distinct : Settings.Distinct e) (key : Bytes)
    (value : Setting) : Settings.Distinct (e.put key value) := by
  have fresh : key ∉ (e.filter (·.1 ≠ key)).map (·.1) := by simp
  have rest : ((e.filter (·.1 ≠ key)).map (·.1)).Nodup :=
    distinct.sublist (List.filter_sublist.map _)
  exact List.nodup_cons.mpr ⟨fresh, rest⟩

theorem putAll_distinct {e : Settings} (distinct : Settings.Distinct e)
    (pairs : List (Bytes × Bytes)) : Settings.Distinct (putAll e pairs) := by
  induction pairs generalizing e with
  | nil => exact distinct
  | cons pair rest ih => exact ih (put_distinct distinct pair.1 (typed pair.2))

theorem lookup_put (e : Settings) (key other : Bytes) (value : Setting) :
    (e.put key value).lookup other = if other = key then some value else e.lookup other := by
  unfold Settings.put
  by_cases same : other = key
  · simp [same]
  · rw [List.lookup_cons, beq_false_of_ne same, if_neg same]
    induction e with
    | nil => rfl
    | cons entry rest ih =>
      obtain ⟨k, v⟩ := entry
      by_cases drop : k = key
      · have differ : other ≠ k := fun h => same (h.trans drop)
        rw [List.filter_cons_of_neg (by simp [drop]), List.lookup_cons, beq_false_of_ne differ]
        exact ih
      · rw [List.filter_cons_of_pos (by simp [drop]), List.lookup_cons, List.lookup_cons]
        cases other == k with
        | true => rfl
        | false => exact ih

theorem lookup_putAll (e : Settings) (pairs : List (Bytes × Bytes)) (key : Bytes) :
    (putAll e pairs).lookup key = (lastOf key pairs).or (e.lookup key) := by
  induction pairs generalizing e with
  | nil => simp [putAll, lastOf]
  | cons pair rest ih =>
    obtain ⟨other, val⟩ := pair
    have later : (putAll e ((other, val) :: rest)).lookup key =
        (lastOf key rest).or ((e.put other (typed val)).lookup key) := ih _
    rw [later, lookup_put]
    unfold lastOf
    rw [List.reverse_cons, List.lookup_append, List.lookup_cons]
    by_cases same : key = other
    · cases rest.reverse.lookup key <;> simp [same]
    · have differ : (key == other) = false := beq_false_of_ne same
      cases rest.reverse.lookup key <;> simp [same, differ]

end Settings

section Fold

/-- What one block stores; nothing where a name changes its kind. -/
def Block.store (b : Block) (c : Config) : Option Config :=
  match b.heading with
  | .plain name =>
    if name = [] ∨ b.pairs = [] then some c
    else match c name with
      | none => some (Function.update c name (some (.settings (putAll [] b.pairs))))
      | some (.settings e) => some (Function.update c name (some (.settings (putAll e b.pairs))))
      | some (.group _) => none
  | .entry group id =>
    if group = [] ∨ id = [] then some c
    else match c group with
      | none => some (Function.update c group (some (.group [entryObject (id, b.pairs)])))
      | some (.group es) =>
        some (Function.update c group (some (.group (es ++ [entryObject (id, b.pairs)]))))
      | some (.settings _) => none

theorem putAll_append (e : Settings) (pairs later : List (Bytes × Bytes)) :
    putAll e (pairs ++ later) = putAll (putAll e pairs) later := List.foldl_append

theorem store_skipped {name : Bytes} {pairs : List (Bytes × Bytes)} (skipped : name = [] ∨ pairs = [])
    (c : Config) : Block.store ⟨.plain name, pairs⟩ c = some c := if_pos skipped

theorem store_plain {name : Bytes} {pairs : List (Bytes × Bytes)} (named : name ≠ [])
    (some : pairs ≠ []) (c : Config) :
    Block.store ⟨.plain name, pairs⟩ c = match c name with
      | none => Option.some (Function.update c name (Option.some (.settings (putAll [] pairs))))
      | Option.some (.settings e) =>
        Option.some (Function.update c name (Option.some (.settings (putAll e pairs))))
      | Option.some (.group _) => none :=
  if_neg (not_or_intro named some)

theorem store_idle {group id : Bytes} (idle : group = [] ∨ id = []) (pairs : List (Bytes × Bytes))
    (c : Config) : Block.store ⟨.entry group id, pairs⟩ c = some c := if_pos idle

theorem store_entry {group id : Bytes} (named : group ≠ []) (identified : id ≠ [])
    (pairs : List (Bytes × Bytes)) (c : Config) :
    Block.store ⟨.entry group id, pairs⟩ c = match c group with
      | none => some (Function.update c group (some (.group [entryObject (id, pairs)])))
      | some (.group es) =>
        some (Function.update c group (some (.group (es ++ [entryObject (id, pairs)]))))
      | some (.settings _) => none :=
  if_neg (not_or_intro named identified)

theorem store_plain_append (name : Bytes) (pairs later : List (Bytes × Bytes)) (c : Config) :
    Block.store ⟨.plain name, pairs ++ later⟩ c =
      (Block.store ⟨.plain name, pairs⟩ c).bind (Block.store ⟨.plain name, later⟩) := by
  by_cases unnamed : name = []
  · rw [store_skipped (Or.inl unnamed), store_skipped (Or.inl unnamed), Option.bind_some,
      store_skipped (Or.inl unnamed)]
  · by_cases first : pairs = []
    · rw [store_skipped (Or.inr first), Option.bind_some, first, List.nil_append]
    · by_cases last : later = []
      · have rest : Block.store ⟨.plain name, later⟩ = some :=
          funext (store_skipped (Or.inr last))
        rw [rest, last, List.append_nil, Option.bind_fun_some]
      · rw [store_plain unnamed first, store_plain unnamed (by simp [first])]
        cases c name with
        | none => simp [store_plain unnamed last, putAll_append]
        | some s =>
          cases s with
          | settings e => simp [store_plain unnamed last, putAll_append]
          | group es => rfl

namespace Loader

def enter (h : Heading) (l : Loader) : Loader :=
  match h with
  | .plain name => { l with curSection := name }
  | .entry group id => { l with curSection := [], curGroup := group, curId := id }

def take (l : Loader) : Item → Option Loader
  | .heading h => l.flushGroup.map (enter h)
  | .pair key val => l.assign key val

theorem openSection_enter (inside : Bytes) (l : Loader) :
    openSection inside l = enter (headingOf inside) l := by
  unfold headingOf
  by_cases whole : (inside.dropWhile (!isBlank ·)).isEmpty = true
  · simp only [whole, if_true]
    exact if_pos whole
  · simp only [whole, Bool.false_eq_true, if_false]
    exact if_neg whole

theorem line_take (l : Loader) (text : Bytes) :
    l.line text = (itemIn (content text)).elim (some l) l.take := by
  unfold line itemIn
  simp only
  split
  · rfl
  · split
    · rw [funext (openSection_enter _)]
      rfl
    · have delimiter : (fun c : UInt8 => decide (c ≠ 61) && decide (c ≠ 58)) =
          (!isDelimiter ·) := by
        funext c
        simp [isDelimiter]
      unfold setting pairOf
      simp only [delimiter]
      cases (content text).dropWhile (!isDelimiter ·) <;> rfl

theorem lines_take (lines : List Bytes) (l : Loader) :
    lines.foldlM line l = (items lines).foldlM take l := by
  induction lines generalizing l with
  | nil => rfl
  | cons text rest ih =>
    rw [List.foldlM_cons, line_take, items, List.filterMap_cons]
    cases itemIn (content text) with
    | none => exact ih l
    | some item =>
      simp only [Option.elim_some, List.foldlM_cons]
      exact congrArg (l.take item >>= ·) (funext ih)

end Loader

namespace Loader

/-- No entry is being read. -/
def Idle (l : Loader) : Prop := l.curGroup = [] ∨ l.curId = []

instance (l : Loader) : Decidable l.Idle := inferInstanceAs (Decidable (_ ∨ _))

theorem idle_iff (l : Loader) : (l.curGroup.isEmpty || l.curId.isEmpty) = true ↔ l.Idle := by
  simp [Idle]

theorem open_iff (l : Loader) : (!l.curGroup.isEmpty && !l.curId.isEmpty) = true ↔ ¬ l.Idle := by
  simp [Idle]

theorem flushGroup_idle {l : Loader} (idle : l.Idle) :
    l.flushGroup = some { l with curGroup := [], curId := [], curObj := [] } :=
  if_pos ((idle_iff l).mpr idle)

theorem flushGroup_closed {l closed : Loader} (flushed : l.flushGroup = some closed) :
    closed = { out := closed.out, curSection := l.curSection } := by
  unfold flushGroup at flushed
  split at flushed
  · cases flushed
    rfl
  · simp only at flushed
    split at flushed
    · cases flushed
      rfl
    · cases flushed
      rfl
    · cases flushed

theorem assign_idle {l : Loader} (idle : l.Idle) (key val : Bytes) :
    l.assign key val = (Block.store ⟨.plain l.curSection, [(key, val)]⟩ l.out).map
      fun out => { l with out := out } := by
  unfold assign
  rw [if_neg (mt (open_iff l).mp (not_not_intro idle))]
  by_cases unnamed : l.curSection = []
  · rw [if_pos (by simpa using unnamed), store_skipped (Or.inl unnamed)]
    rfl
  · rw [if_neg (by simpa using unnamed), store_plain unnamed (List.cons_ne_nil _ _)]
    cases l.out l.curSection with
    | none => rfl
    | some s =>
      cases s with
      | settings e => rfl
      | group es => rfl

theorem assign_open {l : Loader} (entry : ¬ l.Idle) (key val : Bytes) :
    l.assign key val = some { l with curObj := l.curObj.put key (typed val) } :=
  if_pos ((open_iff l).mpr entry)

/-- What the open heading stores in the end, given the pairs still to come. -/
def finish (l : Loader) (pairs : List (Bytes × Bytes)) : Option Config :=
  if l.Idle then Block.store ⟨.plain l.curSection, pairs⟩ l.out
  else ({ l with curObj := putAll l.curObj pairs }.flushGroup).map Loader.out

theorem finish_nil (l : Loader) : l.finish [] = l.flushGroup.map Loader.out := by
  unfold finish
  split
  · rename_i idle
    rw [flushGroup_idle idle]
    simp [Block.store]
  · rfl

theorem finish_cons (l : Loader) (key val : Bytes) (pairs : List (Bytes × Bytes)) :
    l.finish ((key, val) :: pairs) = (l.assign key val).bind (·.finish pairs) := by
  by_cases idle : l.Idle
  · have later : ∀ out, ({ l with out := out } : Loader).finish pairs =
        Block.store ⟨.plain l.curSection, pairs⟩ out := fun out => if_pos idle
    rw [assign_idle idle, Option.bind_map]
    simp only [Function.comp_def, later]
    exact (if_pos idle).trans (store_plain_append l.curSection [(key, val)] pairs l.out)
  · rw [assign_open idle]
    exact (if_neg idle).trans (if_neg idle).symm

theorem finish_enter (out : Config) (curSection : Bytes) (h : Heading)
    (pairs : List (Bytes × Bytes)) :
    (enter h { out := out, curSection := curSection }).finish pairs = Block.store ⟨h, pairs⟩ out := by
  cases h with
  | plain name => exact if_pos (Or.inl rfl)
  | entry group id =>
    by_cases idle : group = [] ∨ id = []
    · rw [store_idle idle]
      exact (if_pos idle).trans (store_skipped (Or.inl rfl) out)
    · apply (if_neg idle).trans
      rw [store_entry (not_or.mp idle).1 (not_or.mp idle).2]
      unfold flushGroup
      rw [if_neg (by simpa [enter] using idle)]
      simp only [enter]
      cases out group with
      | none => rfl
      | some s =>
        cases s with
        | settings e => rfl
        | group es => rfl

/-- Reading on from any point: the open heading takes the pairs up to the next
one, and every later heading its own. -/
theorem fold_blocks (its : List Item) (l : Loader) :
    (its.foldlM take l).bind (fun last => last.flushGroup.map Loader.out) =
      (l.finish (lead its)).bind fun c => (blocks its).foldlM (fun c b => b.store c) c := by
  induction its generalizing l with
  | nil =>
    rw [lead, blocks, finish_nil]
    simp
  | cons item rest ih =>
    cases item with
    | pair key val =>
      rw [List.foldlM_cons, lead, blocks, finish_cons, Option.bind_eq_bind, Option.bind_assoc,
        Option.bind_assoc]
      simp only [take]
      exact congrArg (Option.bind _) (funext fun next => ih next)
    | heading h =>
      rw [List.foldlM_cons, lead, blocks, finish_nil, Option.bind_eq_bind, Option.bind_assoc,
        take, Option.bind_map, Option.bind_map]
      cases flushed : l.flushGroup with
      | none => rfl
      | some closed =>
        have same := flushGroup_closed flushed
        simp only [Option.bind_some, Function.comp_apply]
        rw [ih, same, finish_enter, List.foldlM_cons]
        rfl

end Loader

theorem load_blocks (file : Bytes) :
    load file =
      (blocks (items (file.splitOn 10))).foldlM (fun c b => b.store c) fun _ => none := by
  have start : Loader.finish {} (lead (items (file.splitOn 10))) = some fun _ => none :=
    (if_pos (Or.inl rfl)).trans (store_skipped (Or.inl rfl) _)
  have whole := Loader.fold_blocks (items (file.splitOn 10)) {}
  rw [start, Option.bind_some, ← Loader.lines_take] at whole
  rw [← whole]
  unfold load
  simp only [Option.bind_eq_bind, Option.pure_def]
  exact congrArg (Option.bind _) (funext fun last => by cases last.flushGroup <;> rfl)

end Fold

section Reading

variable {bs : List Block} {b : Block} {name group id : Bytes} {pairs : List (Bytes × Bytes)}

/-- No name is a section here and a group there. -/
def Apart (bs : List Block) : Prop := ∀ name, ¬ Clash bs name

theorem sectionPairs_snoc (name : Bytes) (bs : List Block) (b : Block) :
    sectionPairs name (bs ++ [b]) = sectionPairs name bs ++ b.under name := by
  simp [sectionPairs]

theorem groupEntries_snoc (name : Bytes) (bs : List Block) (b : Block) :
    groupEntries name (bs ++ [b]) = groupEntries name bs ++ (b.entryOf name).toList := by
  cases h : b.entryOf name <;> simp [groupEntries, h]

theorem Apart.init (apart : Apart (bs ++ [b])) : Apart bs := by
  intro name ⟨settings, entries⟩
  apply apart name
  rw [Clash, sectionPairs_snoc, groupEntries_snoc]
  exact ⟨List.append_ne_nil_of_left_ne_nil settings _, List.append_ne_nil_of_left_ne_nil entries _⟩

theorem Apart.snoc (apart : Apart bs)
    (settled : ∀ name, b.under name ≠ [] → groupEntries name bs = [])
    (grouped : ∀ name, b.entryOf name ≠ none → sectionPairs name bs = [])
    (single : ∀ name, b.under name = [] ∨ b.entryOf name = none) : Apart (bs ++ [b]) := by
  intro name ⟨settings, entries⟩
  rw [sectionPairs_snoc] at settings
  rw [groupEntries_snoc] at entries
  rcases single name with none | none
  · rw [none, List.append_nil] at settings
    by_cases entry : b.entryOf name = Option.none
    · rw [entry, Option.toList_none, List.append_nil] at entries
      exact apart name ⟨settings, entries⟩
    · exact settings (grouped name entry)
  · rw [none, Option.toList_none, List.append_nil] at entries
    by_cases under : b.under name = []
    · rw [under, List.append_nil] at settings
      exact apart name ⟨settings, entries⟩
    · exact entries (settled name under)

theorem under_or_entry (b : Block) (name : Bytes) : b.under name = [] ∨ b.entryOf name = none := by
  cases h : b.heading with
  | plain other => exact Or.inr (by simp [Block.entryOf, h])
  | entry group id => exact Or.inl (by simp [Block.under, h])

theorem reading_silent (under : ∀ name, b.under name = []) (entry : ∀ name, b.entryOf name = none) :
    reading (bs ++ [b]) = reading bs := by
  funext name
  simp [reading, sectionPairs_snoc, groupEntries_snoc, under, entry]

theorem reading_plain (named : name ≠ []) (some : pairs ≠ []) :
    reading (bs ++ [⟨.plain name, pairs⟩]) = Function.update (reading bs) name
      (Option.some (.settings (putAll (putAll [] (sectionPairs name bs)) pairs))) := by
  funext other
  by_cases same : other = name
  · subst same
    simp [reading, sectionPairs_snoc, Block.under, named, some, putAll_append]
  · have differ : name ≠ other := Ne.symm same
    simp [reading, sectionPairs_snoc, groupEntries_snoc, Block.under, Block.entryOf, same, differ]

theorem reading_entry (named : group ≠ []) (identified : id ≠ []) (alone : sectionPairs group bs = []) :
    reading (bs ++ [⟨.entry group id, pairs⟩]) = Function.update (reading bs) group
      (some (.group ((groupEntries group bs).map entryObject ++ [entryObject (id, pairs)]))) := by
  funext other
  by_cases same : other = group
  · subst same
    simp [reading, sectionPairs_snoc, groupEntries_snoc, Block.under, Block.entryOf, named,
      identified, alone]
  · have differ : group ≠ other := Ne.symm same
    simp [reading, sectionPairs_snoc, groupEntries_snoc, Block.under, Block.entryOf, same, differ]

theorem reading_none (settings : sectionPairs name bs = []) (entries : groupEntries name bs = []) :
    reading bs name = none := by
  simp [reading, settings, entries]

theorem reading_settings (settings : sectionPairs name bs ≠ []) :
    reading bs name = some (.settings (putAll [] (sectionPairs name bs))) := if_pos settings

theorem reading_group (settings : sectionPairs name bs = []) (entries : groupEntries name bs ≠ []) :
    reading bs name = some (.group ((groupEntries name bs).map entryObject)) := by
  rw [reading, if_neg (not_not_intro settings), if_pos entries]

theorem apart_silent (under : ∀ name, b.under name = []) (entry : ∀ name, b.entryOf name = none) :
    Apart (bs ++ [b]) ↔ Apart bs :=
  ⟨Apart.init, fun apart => apart.snoc (fun name some => absurd (under name) some)
    (fun name some => absurd (entry name) some) (under_or_entry b)⟩

theorem apart_plain (named : name ≠ []) (some : pairs ≠ []) :
    Apart (bs ++ [⟨.plain name, pairs⟩]) ↔ Apart bs ∧ groupEntries name bs = [] := by
  constructor
  · intro apart
    refine ⟨apart.init, ?_⟩
    by_contra entries
    apply apart name
    rw [Clash, sectionPairs_snoc, groupEntries_snoc]
    exact ⟨by simp [Block.under, named, some], List.append_ne_nil_of_left_ne_nil entries _⟩
  · rintro ⟨apart, entries⟩
    apply apart.snoc
    · intro other under
      have same : name = other := by
        by_contra differ
        simp [Block.under, differ] at under
      exact same ▸ entries
    · intro other entry
      simp [Block.entryOf] at entry
    · exact under_or_entry _

theorem apart_entry (named : group ≠ []) (identified : id ≠ []) :
    Apart (bs ++ [⟨.entry group id, pairs⟩]) ↔ Apart bs ∧ sectionPairs group bs = [] := by
  constructor
  · intro apart
    refine ⟨apart.init, ?_⟩
    by_contra settings
    apply apart group
    rw [Clash, sectionPairs_snoc, groupEntries_snoc]
    exact ⟨List.append_ne_nil_of_left_ne_nil settings _, by simp [Block.entryOf, named, identified]⟩
  · rintro ⟨apart, settings⟩
    apply apart.snoc
    · intro other under
      simp [Block.under] at under
    · intro other entry
      have same : group = other := by
        by_contra differ
        simp [Block.entryOf, differ] at entry
      exact same ▸ settings
    · exact under_or_entry _

theorem store_silent (apart : Apart bs) (under : ∀ name, b.under name = [])
    (entry : ∀ name, b.entryOf name = none) (kept : b.store (reading bs) = some (reading bs))
    (c : Config) :
    b.store (reading bs) = some c ↔ Apart (bs ++ [b]) ∧ reading (bs ++ [b]) = c := by
  rw [kept, reading_silent under entry, apart_silent under entry, Option.some.injEq]
  exact ⟨fun same => ⟨apart, same⟩, And.right⟩

theorem store_reading (apart : Apart bs) (b : Block) (c : Config) :
    b.store (reading bs) = some c ↔ Apart (bs ++ [b]) ∧ reading (bs ++ [b]) = c := by
  obtain ⟨h, pairs⟩ := b
  cases h with
  | plain name =>
    by_cases skipped : name = [] ∨ pairs = []
    · apply store_silent apart _ (fun _ => rfl) (store_skipped skipped _)
      intro other
      rcases skipped with rfl | rfl <;> simp +contextual [Block.under, eq_comm]
    · obtain ⟨named, some⟩ := not_or.mp skipped
      rw [store_plain named some, apart_plain named some, reading_plain named some]
      by_cases settings : sectionPairs name bs = []
      · by_cases entries : groupEntries name bs = []
        · simp [reading_none settings entries, settings, entries, apart, putAll]
        · simp [reading_group settings entries, entries]
      · have entries : groupEntries name bs = [] := by
          by_contra entries
          exact apart name ⟨settings, entries⟩
        simp [reading_settings settings, entries, apart]
  | entry group id =>
    by_cases idle : group = [] ∨ id = []
    · apply store_silent apart (fun _ => rfl) _ (store_idle idle _ _)
      intro other
      rcases idle with rfl | rfl <;> simp [Block.entryOf]
    · obtain ⟨named, identified⟩ := not_or.mp idle
      rw [store_entry named identified, apart_entry named identified]
      by_cases settings : sectionPairs group bs = []
      · rw [reading_entry named identified settings]
        by_cases entries : groupEntries group bs = []
        · simp [reading_none settings entries, settings, entries, apart]
        · simp [reading_group settings entries, settings, apart]
      · simp [reading_settings settings, settings]

/-- Blocks are stored, all of them, exactly where no name is of both kinds, and
then what is stored is what they say. -/
theorem blocks_stored (bs : List Block) (c : Config) :
    bs.foldlM (fun c b => b.store c) (fun _ => none) = some c ↔ Apart bs ∧ reading bs = c := by
  induction bs using List.reverseRecOn generalizing c with
  | nil =>
    have empty : Apart [] := fun _ clash => clash.1 rfl
    simp only [List.foldlM_nil, Option.pure_def, Option.some.injEq, empty, true_and]
    rfl
  | append_singleton bs b ih =>
    rw [List.foldlM_append, Option.bind_eq_bind, Option.bind_eq_some_iff]
    constructor
    · rintro ⟨before, stored, last⟩
      obtain ⟨apart, rfl⟩ := (ih before).mp stored
      exact (store_reading apart b c).mp (by simpa using last)
    · rintro ⟨apart, same⟩
      refine ⟨reading bs, (ih _).mpr ⟨apart.init, rfl⟩, ?_⟩
      simpa using (store_reading apart.init b c).mpr ⟨apart, same⟩

/-- The blocks of a file. -/
def blocksOf (file : Bytes) : List Block := blocks (items (file.splitOn 10))

theorem load_reading (file : Bytes) (c : Config) :
    load file = some c ↔ Apart (blocksOf file) ∧ reading (blocksOf file) = c := by
  rw [load_blocks]
  exact blocks_stored _ c

/-- A file loads exactly where no name that has settings as a section has
entries as a group as well; otherwise the loader throws. -/
theorem load_isSome_iff (file : Bytes) :
    (load file).isSome ↔ ∀ name, ¬ (sectionPairs name (blocksOf file) ≠ [] ∧
      groupEntries name (blocksOf file) ≠ []) := by
  rw [Option.isSome_iff_exists]
  constructor
  · rintro ⟨c, loaded⟩
    exact ((load_reading file c).mp loaded).1
  · intro apart
    exact ⟨_, (load_reading file _).mpr ⟨apart, rfl⟩⟩

/-- A section with one setting, and an entry of a group under its name. -/
def sharedName : Bytes := bytes "[fan]\nspeed: 1\n[fan \"x\"]\n"

theorem load_sharedName : ¬ ∀ file, (load file).isSome := by
  intro always
  have thrown : load sharedName = none := by decide
  have loaded := always sharedName
  rw [thrown] at loaded
  cases loaded

end Reading

end Config

end GrumpyScreen
