import Mathlib.Logic.Function.Basic

/-! The configuration file: sections of typed settings and groups of entries
with an id, read line by line. -/

namespace GrumpyScreen

/-- `std::string`: bytes in no particular encoding. -/
abbrev Bytes := List UInt8

instance : LawfulBEq Bytes := inferInstance

def bytes (s : String) : Bytes := s.toList.flatMap String.utf8EncodeChar

/-- A value as `set_typed` stores it. -/
inductive Setting where
  | bool (b : Bool)
  | int (i : Int)
  | text (t : Bytes)
deriving DecidableEq, Repr

/-- An object of settings, each key at most once. -/
abbrev Settings := List (Bytes × Setting)

def Settings.put (key : Bytes) (value : Setting) (e : Settings) : Settings :=
  (key, value) :: e.filter (·.1 ≠ key)

/-- A `[section]` holds an object, a `[group "id"]` an array of them. -/
inductive Section where
  | settings (e : Settings)
  | group (entries : List Settings)
deriving DecidableEq, Repr

/-- What was loaded: the objects and arrays by name. -/
abbrev Config := Bytes → Option Section

namespace Config

/-- `get_objects`: the entries of a group; anything else has none. -/
def getObjects (c : Config) (name : Bytes) : List Settings :=
  match c name with
  | some (.group entries) => entries
  | _ => []

def isSpace (c : UInt8) : Bool := c = 32 || (9 ≤ c && c ≤ 13)

def isDigit (c : UInt8) : Bool := 48 ≤ c && c ≤ 57

def toLower (c : UInt8) : UInt8 := if 65 ≤ c && c ≤ 90 then c + 32 else c

def trim (s : Bytes) : Bytes := ((s.dropWhile isSpace).reverse.dropWhile isSpace).reverse

/-- Strip one pair of matching quotes. -/
def unquote (s : Bytes) : Bytes :=
  if 2 ≤ s.length &&
      (s.head? = some 34 && s.getLast? = some 34 || s.head? = some 39 && s.getLast? = some 39) then
    s.tail.dropLast
  else s

def parseBool (s : Bytes) : Option Bool :=
  let t := s.map toLower
  if t ∈ ["true", "1", "yes", "on"].map bytes then some true
  else if t ∈ ["false", "0", "no", "off"].map bytes then some false
  else none

/-- `strtoll` on the whole string, as a C string: blanks, a sign, digits, and
the range of `long long`. -/
def parseInt (s : Bytes) : Option Int :=
  let s := (s.takeWhile (· ≠ 0)).dropWhile isSpace
  let digits := if s.head? = some 45 || s.head? = some 43 then s.tail else s
  if digits.isEmpty || !digits.all isDigit then none
  else
    let magnitude : Int := digits.foldl (fun n c => 10 * n + (c.toNat - 48)) 0
    let value := if s.head? = some 45 then -magnitude else magnitude
    if -9223372036854775808 ≤ value && value ≤ 9223372036854775807 then some value else none

/-- `set_typed`: a boolean word first, then a number, else text. -/
def typed (s : Bytes) : Setting :=
  match parseBool s with
  | some b => .bool b
  | none =>
    match parseInt s with
    | some i => .int i
    | none => .text s

/-- What the loader knows between two lines. -/
structure Loader where
  out : Config := fun _ => none
  curSection : Bytes := []
  curGroup : Bytes := []
  curId : Bytes := []
  curObj : Settings := []

namespace Loader

/-- The entry being read joins its group; a group under the name of a section
that has settings throws. -/
def flushGroup (l : Loader) : Option Loader :=
  let closed := { l with curGroup := [], curId := [], curObj := [] }
  if l.curGroup.isEmpty || l.curId.isEmpty then some closed
  else
    let obj := l.curObj.put (bytes "id") (.text l.curId)
    match l.out l.curGroup with
    | none =>
      some { closed with out := Function.update l.out l.curGroup (some (.group [obj])) }
    | some (.group entries) =>
      some { closed with out := Function.update l.out l.curGroup (some (.group (entries ++ [obj]))) }
    | some (.settings _) => none

/-- A `[section]` or `[group "id"]` line. -/
def openSection (inside : Bytes) (l : Loader) : Loader :=
  let blank (c : UInt8) : Bool := c = 32 || c = 9
  let name := inside.takeWhile (!blank ·)
  let rest := inside.dropWhile (!blank ·)
  if rest.isEmpty then { l with curSection := inside }
  else { l with curSection := [], curGroup := name, curId := unquote (trim rest.tail) }

/-- A setting, of the open group or else of the open section; a setting of a
section that already is a group throws. -/
def assign (key val : Bytes) (l : Loader) : Option Loader :=
  if !l.curGroup.isEmpty && !l.curId.isEmpty then
    some { l with curObj := l.curObj.put key (typed val) }
  else if l.curSection.isEmpty then some l
  else
    match l.out l.curSection with
    | none =>
      some { l with
        out := Function.update l.out l.curSection (some (.settings (Settings.put key (typed val) []))) }
    | some (.settings e) =>
      some { l with
        out := Function.update l.out l.curSection (some (.settings (e.put key (typed val)))) }
    | some (.group _) => none

/-- A line without its carriage return, its comment and the blanks around it. -/
def content (text : Bytes) : Bytes :=
  let text := if text.getLast? = some 13 then text.dropLast else text
  trim (text.takeWhile fun c => c ≠ 35 && c ≠ 59)

/-- A `key: value` or `key = value` line; one without a delimiter is ignored. -/
def setting (s : Bytes) (l : Loader) : Option Loader :=
  let key := s.takeWhile fun c => c ≠ 61 && c ≠ 58
  match s.dropWhile fun c => c ≠ 61 && c ≠ 58 with
  | [] => some l
  | _ :: val => l.assign (trim key) (unquote (trim val))

def line (l : Loader) (text : Bytes) : Option Loader :=
  let s := content text
  if s.isEmpty then some l
  else if s.head? = some 91 && s.getLast? = some 93 then
    l.flushGroup.map (openSection (trim s.tail.dropLast))
  else l.setting s

end Loader

/-- `Config::load` on the bytes of the file; nothing where it throws. -/
def load (file : Bytes) : Option Config := do
  let last ← (file.splitOn 10).foldlM Loader.line {}
  let closed ← last.flushGroup
  pure closed.out

section Loaded

/-- Every entry of every group carries its id as a text. -/
def Named (c : Config) : Prop :=
  ∀ name, ∀ e ∈ c.getObjects name, ∃ id, id ≠ [] ∧ e.lookup (bytes "id") = some (.text id)

private theorem named_update {c : Config} (named : c.Named) {name : Bytes} {s : Section}
    (fresh : ∀ entries, s = .group entries →
      ∀ e ∈ entries, ∃ id, id ≠ [] ∧ e.lookup (bytes "id") = some (.text id)) :
    Config.Named (Function.update c name (some s)) := by
  intro other e member
  by_cases same : other = name
  · subst same
    cases s with
    | settings _ => simp [Config.getObjects] at member
    | group entries =>
      exact fresh entries rfl e (by simpa [Config.getObjects] using member)
  · apply named other e
    simpa [Config.getObjects, Function.update_of_ne same] using member

theorem Loader.flushGroup_named {l closed : Loader} (named : l.out.Named)
    (flushed : l.flushGroup = some closed) : closed.out.Named := by
  unfold Loader.flushGroup at flushed
  by_cases skipped : (l.curGroup.isEmpty || l.curId.isEmpty) = true
  · simp only [skipped, if_true, Option.some.injEq] at flushed
    subst flushed
    exact named
  · have id : l.curId ≠ [] := by
      intro empty
      simp [empty] at skipped
    have own : ∃ id, id ≠ [] ∧
        (l.curObj.put (bytes "id") (.text l.curId)).lookup (bytes "id") = some (.text id) :=
      ⟨l.curId, id, by simp [Settings.put]⟩
    simp only [skipped, Bool.false_eq_true, if_false] at flushed
    cases held : l.out l.curGroup with
    | none =>
      simp only [held, Option.some.injEq] at flushed
      subst flushed
      apply named_update named
      rintro entries ⟨rfl⟩ e member
      rw [List.mem_singleton.mp member]
      exact own
    | some s =>
      cases s with
      | settings _ => simp [held] at flushed
      | group entries =>
        simp only [held, Option.some.injEq] at flushed
        subst flushed
        apply named_update named
        rintro longer ⟨rfl⟩ e member
        rcases List.mem_append.mp member with old | new
        · exact named l.curGroup e (by simpa [Config.getObjects, held] using old)
        · rw [List.mem_singleton.mp new]
          exact own

theorem Loader.assign_named {l next : Loader} {key val : Bytes} (named : l.out.Named)
    (assigned : l.assign key val = some next) : next.out.Named := by
  have settings : ∀ e : Settings, Config.Named
      (Function.update l.out l.curSection (some (.settings e))) :=
    fun e => named_update named fun _ isGroup => nomatch isGroup
  unfold Loader.assign at assigned
  split at assigned
  · cases assigned
    exact named
  · split at assigned
    · cases assigned
      exact named
    · split at assigned
      · cases assigned
        exact settings _
      · cases assigned
        exact settings _
      · cases assigned

theorem Loader.line_named {l next : Loader} {text : Bytes} (named : l.out.Named)
    (read : l.line text = some next) : next.out.Named := by
  unfold Loader.line at read
  simp only at read
  split at read
  · cases read
    exact named
  · split at read
    · obtain ⟨closed, flushed, rfl⟩ := Option.map_eq_some_iff.mp read
      have kept : closed.out.Named := flushGroup_named named flushed
      unfold Loader.openSection
      simp only
      split
      · exact kept
      · exact kept
    · unfold Loader.setting at read
      simp only at read
      split at read
      · cases read
        exact named
      · exact assign_named named read

private theorem lines_named {lines : List Bytes} {l last : Loader} (named : l.out.Named)
    (read : lines.foldlM Loader.line l = some last) : last.out.Named := by
  induction lines generalizing l with
  | nil =>
    cases read
    exact named
  | cons text rest ih =>
    rw [List.foldlM_cons] at read
    obtain ⟨next, first, later⟩ := Option.bind_eq_some_iff.mp read
    exact ih (Loader.line_named named first) later

/-- A file that loads gives every group entry a text id: no entry of a loaded
configuration is skipped for the type of its id. -/
theorem load_named {file : Bytes} {c : Config} (loaded : load file = some c) :
    c.Named := by
  obtain ⟨last, read, rest⟩ := Option.bind_eq_some_iff.mp loaded
  obtain ⟨closed, flushed, same⟩ := Option.bind_eq_some_iff.mp rest
  cases same
  have start : Config.Named fun _ => none := fun _ e member => nomatch member
  exact Loader.flushGroup_named (lines_named (l := {}) start read) flushed

end Loaded

end Config

end GrumpyScreen
