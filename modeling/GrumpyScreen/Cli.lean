import GrumpyScreen.Config
import GrumpyScreen.Lib.Decimal
import Mathlib.Data.List.DropRight

/-! What happens before a device is opened: the arguments are read against a small
grammar, and a pid file may name a copy that runs already. -/

namespace GrumpyScreen.Cli

open Lib

/-- `cli::Action`. -/
inductive Action where
  | run | version | help | usageError
deriving DecidableEq, Repr

/-- `cli::Options`; an empty path stands for the default one. -/
structure Options where
  action : Action := .run
  configPath : Bytes := []
  error : Bytes := []
deriving DecidableEq, Repr

def defaultConfig : Bytes := bytes "/etc/klipper/config/grumpyscreen.cfg"

/-- An entry as a string: nothing where it is null, else up to its NUL. -/
def argument (entry : Option Bytes) : Bytes := (entry.getD []).takeWhile (· ≠ 0)

/-- What is asked for once every argument is read. -/
def finish (o : Options) (wantHelp wantVersion : Bool) : Options :=
  if wantHelp then { o with action := .help }
  else if wantVersion then { o with action := .version }
  else o

def parseFrom (o : Options) (wantHelp wantVersion : Bool) : List (Option Bytes) → Options
  | [] => finish o wantHelp wantVersion
  | entry :: rest =>
    let a := argument entry
    if a = bytes "--version" then parseFrom o wantHelp true rest
    else if a = bytes "--help" ∨ a = bytes "-h" then parseFrom o true wantVersion rest
    else if a = bytes "-c" ∨ a = bytes "--config" then
      match rest with
      | [] => { o with action := .usageError, error := a ++ bytes " needs a path" }
      | next :: later =>
        if argument next = [] then
          { o with action := .usageError, error := a ++ bytes " needs a path" }
        else parseFrom { o with configPath := argument next } wantHelp wantVersion later
    else if (bytes "--config=").isPrefixOf a then
      let o := { o with configPath := a.drop 9 }
      if o.configPath = [] then
        { o with action := .usageError, error := bytes "--config= needs a path" }
      else parseFrom o wantHelp wantVersion rest
    else
      { o with
        action := .usageError
        error := if a = [] then bytes "empty argument" else bytes "unrecognised argument: " ++ a }

/-- `cli::parse`; `argv[0]` is not looked at. -/
def parse (argv : List (Option Bytes)) : Options := parseFrom {} false false (argv.drop 1)

section Grammar

/-- A path as it is given: not empty. -/
structure GivenPath where
  text : Bytes
  nonempty : text ≠ []

inductive Token where
  | short (path : GivenPath)
  | long (path : GivenPath)
  | joined (path : GivenPath)
  | help
  | shortHelp
  | version

namespace Token

/-- The arguments a token stands for. -/
def spell : Token → List Bytes
  | .short path => [bytes "-c", path.text]
  | .long path => [bytes "--config", path.text]
  | .joined path => [bytes "--config=" ++ path.text]
  | .help => [bytes "--help"]
  | .shortHelp => [bytes "-h"]
  | .version => [bytes "--version"]

def path? : Token → Option Bytes
  | .short path | .long path | .joined path => some path.text
  | _ => none

def isHelp : Token → Bool
  | .help | .shortHelp => true
  | _ => false

def isVersion : Token → Bool
  | .version => true
  | _ => false

end Token

/-- What a sequence of tokens asks for: help before the version before a run. -/
def asked (tokens : List Token) : Action :=
  if tokens.any Token.isHelp then .help
  else if tokens.any Token.isVersion then .version
  else .run

/-- The path given last, if any. -/
def lastPath (tokens : List Token) : Bytes := (tokens.filterMap Token.path?).getLast?.getD []

/-- The arguments that some sequence of tokens spells. -/
def Spelled (args : List Bytes) : Prop := ∃ tokens : List Token, args = tokens.flatMap Token.spell

variable {o : Options} {wantHelp wantVersion : Bool} {entries : List (Option Bytes)}

/-- The options after one token. -/
def Token.set (o : Options) (t : Token) : Options :=
  match t.path? with
  | some path => { o with configPath := path }
  | none => o

theorem parseFrom_path {e next : Option Bytes} {later : List (Option Bytes)}
    (option : argument e = bytes "-c" ∨ argument e = bytes "--config") (given : argument next ≠ []) :
    parseFrom o wantHelp wantVersion (e :: next :: later) =
      parseFrom { o with configPath := argument next } wantHelp wantVersion later := by
  have apart : argument e ≠ bytes "--version" ∧
      ¬ (argument e = bytes "--help" ∨ argument e = bytes "-h") := by
    rcases option with same | same
    · rw [same]
      decide
    · rw [same]
      decide
  simp only [parseFrom, if_neg apart.1, if_neg apart.2, if_pos option, if_neg given]

theorem joined_apart (path : Bytes) :
    bytes "--config=" ++ path ≠ bytes "--version" ∧
      ¬ (bytes "--config=" ++ path = bytes "--help" ∨ bytes "--config=" ++ path = bytes "-h") ∧
      ¬ (bytes "--config=" ++ path = bytes "-c" ∨ bytes "--config=" ++ path = bytes "--config") := by
  have other : ∀ a : Bytes, (bytes "--config=").isPrefixOf a = false →
      bytes "--config=" ++ path ≠ a := by
    intro a absent same
    have present : (bytes "--config=").isPrefixOf a = true :=
      List.isPrefixOf_iff_prefix.mpr ⟨path, same⟩
    rw [absent] at present
    cases present
  exact ⟨other _ rfl, not_or.mpr ⟨other _ rfl, other _ rfl⟩, not_or.mpr ⟨other _ rfl, other _ rfl⟩⟩

theorem parseFrom_joined {e : Option Bytes} {rest : List (Option Bytes)} {path : Bytes}
    (option : argument e = bytes "--config=" ++ path) (given : path ≠ []) :
    parseFrom o wantHelp wantVersion (e :: rest) =
      parseFrom { o with configPath := path } wantHelp wantVersion rest := by
  obtain ⟨version, help, separate⟩ := joined_apart path
  have starts : (bytes "--config=").isPrefixOf (bytes "--config=" ++ path) = true :=
    List.isPrefixOf_iff_prefix.mpr (List.prefix_append _ _)
  have cut : (bytes "--config=" ++ path).drop (bytes "--config=").length = path := List.drop_left
  rw [show (bytes "--config=").length = 9 from rfl] at cut
  rw [parseFrom.eq_def]
  simp only [option, if_neg version, if_neg help, if_neg separate, if_pos starts, cut, if_neg given]

theorem parseFrom_token (t : Token) {others : List Bytes}
    (spelled : entries.map argument = t.spell ++ others) :
    ∃ rest, rest.map argument = others ∧ parseFrom o wantHelp wantVersion entries =
      parseFrom (t.set o) (wantHelp || t.isHelp) (wantVersion || t.isVersion) rest := by
  have paired : ∀ {option path : Bytes}, option = bytes "-c" ∨ option = bytes "--config" →
      path ≠ [] → entries.map argument = option :: path :: others →
      ∃ rest, rest.map argument = others ∧ parseFrom o wantHelp wantVersion entries =
        parseFrom { o with configPath := path } wantHelp wantVersion rest := by
    intro option path isOption given spelled
    obtain ⟨e, tail, rfl, rfl, more⟩ := List.map_eq_cons_iff.mp spelled
    obtain ⟨next, later, rfl, rfl, others⟩ := List.map_eq_cons_iff.mp more
    exact ⟨later, others, parseFrom_path isOption given⟩
  cases t with
  | short path =>
    simp only [Token.isHelp, Token.isVersion, Bool.or_false]
    exact paired (Or.inl rfl) path.nonempty spelled
  | long path =>
    simp only [Token.isHelp, Token.isVersion, Bool.or_false]
    exact paired (Or.inr rfl) path.nonempty spelled
  | joined path =>
    obtain ⟨e, rest, rfl, option, others⟩ := List.map_eq_cons_iff.mp spelled
    simp only [Token.isHelp, Token.isVersion, Bool.or_false]
    exact ⟨rest, others, parseFrom_joined option path.nonempty⟩
  | help =>
    obtain ⟨e, rest, rfl, option, others⟩ := List.map_eq_cons_iff.mp spelled
    refine ⟨rest, others, ?_⟩
    rw [parseFrom.eq_def]
    simp only [option, Token.isHelp, Token.isVersion, Bool.or_true, Bool.or_false]
    rw [if_neg (by decide), if_pos (by decide)]
    rfl
  | shortHelp =>
    obtain ⟨e, rest, rfl, option, others⟩ := List.map_eq_cons_iff.mp spelled
    refine ⟨rest, others, ?_⟩
    rw [parseFrom.eq_def]
    simp only [option, Token.isHelp, Token.isVersion, Bool.or_true, Bool.or_false]
    rw [if_neg (by decide), if_pos (by decide)]
    rfl
  | version =>
    obtain ⟨e, rest, rfl, option, others⟩ := List.map_eq_cons_iff.mp spelled
    refine ⟨rest, others, ?_⟩
    rw [parseFrom.eq_def]
    simp only [option, if_true, Token.isHelp, Token.isVersion, Bool.or_true, Bool.or_false]
    rfl

theorem parseFrom_tokens (tokens : List Token)
    (spelled : entries.map argument = tokens.flatMap Token.spell) :
    parseFrom o wantHelp wantVersion entries = finish (tokens.foldl Token.set o)
      (wantHelp || tokens.any Token.isHelp) (wantVersion || tokens.any Token.isVersion) := by
  induction tokens generalizing o wantHelp wantVersion entries with
  | nil =>
    rw [List.flatMap_nil, List.map_eq_nil_iff] at spelled
    simp [spelled, parseFrom]
  | cons t later ih =>
    rw [List.flatMap_cons] at spelled
    obtain ⟨rest, others, read⟩ := parseFrom_token (o := o) t spelled
    rw [read, ih others]
    simp only [List.foldl_cons, List.any_cons, Bool.or_assoc]

theorem foldl_set (tokens : List Token) (o : Options) :
    tokens.foldl Token.set o =
      { o with configPath := (tokens.filterMap Token.path?).getLast?.getD o.configPath } := by
  induction tokens generalizing o with
  | nil => rfl
  | cons t later ih =>
    rw [List.foldl_cons, ih]
    cases path : t.path? with
    | none => simp [Token.set, path]
    | some text =>
      cases last : (later.filterMap Token.path?).getLast? with
      | none => simp [Token.set, path, List.getLast?_cons, last]
      | some other => simp [Token.set, path, List.getLast?_cons, last]

theorem Spelled.cons (t : Token) {others : List Bytes} (spelled : Spelled others) :
    Spelled (t.spell ++ others) := by
  obtain ⟨tokens, rfl⟩ := spelled
  exact ⟨t :: tokens, rfl⟩

theorem parseFrom_cases (o : Options) (wantHelp wantVersion : Bool)
    (entries : List (Option Bytes)) :
    Spelled (entries.map argument) ∨
      ((parseFrom o wantHelp wantVersion entries).action = .usageError ∧
        (parseFrom o wantHelp wantVersion entries).error ≠ []) := by
  fun_induction parseFrom o wantHelp wantVersion entries with
  | case1 => exact Or.inl ⟨[], rfl⟩
  | case2 _ _ _ entry rest a version ih =>
    apply ih.imp_left
    intro spelled
    rw [List.map_cons, show argument entry = bytes "--version" from version]
    exact spelled.cons .version
  | case3 _ _ _ entry rest a _ help ih =>
    apply ih.imp_left
    intro spelled
    rw [List.map_cons]
    rcases help with long | short
    · rw [show argument entry = bytes "--help" from long]
      exact spelled.cons .help
    · rw [show argument entry = bytes "-h" from short]
      exact spelled.cons .shortHelp
  | case4 => exact Or.inr ⟨rfl, List.append_ne_nil_of_right_ne_nil _ (by decide)⟩
  | case5 => exact Or.inr ⟨rfl, List.append_ne_nil_of_right_ne_nil _ (by decide)⟩
  | case6 _ _ _ entry a _ _ option next later given ih =>
    apply ih.imp_left
    intro spelled
    rw [List.map_cons, List.map_cons]
    rcases option with short | long
    · rw [show argument entry = bytes "-c" from short]
      exact spelled.cons (.short ⟨argument next, given⟩)
    · rw [show argument entry = bytes "--config" from long]
      exact spelled.cons (.long ⟨argument next, given⟩)
  | case7 => exact Or.inr ⟨rfl, show bytes "--config= needs a path" ≠ [] by decide⟩
  | case8 _ _ _ entry rest a _ _ _ starts set given ih =>
    apply ih.imp_left
    intro spelled
    have whole : argument entry = bytes "--config=" ++ (argument entry).drop 9 :=
      (List.prefix_iff_eq_append.mp (List.isPrefixOf_iff_prefix.mp starts)).symm
    rw [List.map_cons, whole]
    exact spelled.cons (.joined ⟨(argument entry).drop 9, given⟩)
  | case9 =>
    refine Or.inr ⟨rfl, ?_⟩
    simp only
    split
    · decide
    · exact List.append_ne_nil_of_left_ne_nil (by decide) _

theorem parse_tokens (argv : List (Option Bytes)) (tokens : List Token)
    (spelled : (argv.drop 1).map argument = tokens.flatMap Token.spell) :
    parse argv = ⟨asked tokens, lastPath tokens, []⟩ := by
  rw [parse, parseFrom_tokens tokens spelled, foldl_set, Bool.false_or, Bool.false_or, finish, asked]
  split
  · rfl
  · split
    · rfl
    · rfl

end Grammar

section Main

/-- Where `main` ends up: it exits, or it opens the display. -/
inductive Outcome where
  | exit (code : Nat)
  | display (config : Bytes)
deriving DecidableEq, Repr

/-- `main`, with the pid of another copy and what loading a configuration gives. -/
def main (argv : List (Option Bytes)) (other : Int) (loads : Bytes → Bool) : Outcome :=
  let opts := parse argv
  match opts.action with
  | .help => .exit 0
  | .version => .exit 0
  | .usageError => .exit 2
  | .run =>
    if 0 < other then .exit 1
    else
      let configPath := if opts.configPath = [] then defaultConfig else opts.configPath
      if loads configPath then .display configPath else .exit 1

theorem main_display {argv : List (Option Bytes)} {other : Int} {loads : Bytes → Bool}
    {config : Bytes} (opened : main argv other loads = .display config) :
    (parse argv).action = .run ∧ ¬ 0 < other := by
  cases action : (parse argv).action with
  | help => simp [main, action] at opened
  | version => simp [main, action] at opened
  | usageError => simp [main, action] at opened
  | run =>
    refine ⟨rfl, fun running => ?_⟩
    simp [main, action, running] at opened

/-- The arguments are refused exactly where no sequence of tokens spells them; else
the tokens alone decide, and only they lead to the display. -/
theorem parse_grammar (argv : List (Option Bytes)) :
    let args := (argv.drop 1).map argument
    ((parse argv).action = .usageError ∧ (parse argv).error ≠ [] ↔
        ¬ ∃ tokens : List Token, args = tokens.flatMap Token.spell) ∧
      (∀ tokens : List Token, args = tokens.flatMap Token.spell →
        parse argv = ⟨asked tokens, lastPath tokens, []⟩) ∧
      ∀ other loads config, main argv other loads = .display config →
        ∃ tokens : List Token, args = tokens.flatMap Token.spell ∧ asked tokens = .run := by
  intro args
  refine ⟨?_, parse_tokens argv, ?_⟩
  · constructor
    · rintro ⟨-, told⟩ ⟨tokens, spelled⟩
      rw [parse_tokens argv tokens spelled] at told
      exact told rfl
    · intro unspelled
      exact (parseFrom_cases {} false false (argv.drop 1)).resolve_left unspelled
  · intro other loads config opened
    have runs := (main_display opened).1
    rcases parseFrom_cases {} false false (argv.drop 1) with spelled | refused
    · obtain ⟨tokens, spelled⟩ := spelled
      refine ⟨tokens, spelled, ?_⟩
      rw [parse_tokens argv tokens spelled] at runs
      exact runs
    · have action : (parse argv).action = .usageError := refused.1
      rw [action] at runs
      cases runs

/-- An option behind `-c` is a path, and help wins whatever the order. -/
example : parse [none, some (bytes "-c"), some (bytes "--help")] = ⟨.run, bytes "--help", []⟩ ∧
    (parse [none, some (bytes "--version"), some (bytes "-h")]).action = .help ∧
    (parse [none, none]).error = bytes "empty argument" := by decide

end Main

end GrumpyScreen.Cli
