import GrumpyScreen.Cli

/-! The pid file and the two process names that are enough to refuse to start;
anything less starts the screen. -/

namespace GrumpyScreen.Cli

open Lib Decimal

section Files

/-- `parse_pidfile_text`, with the largest `long`: what is out of its range is a
range error of `strtol`. -/
def parsePidfileText (longMax : Nat) (text : Bytes) : Option Int :=
  if 0 ∈ text then none
  else
    match scan text with
    | none => none
    | some (v, rest) =>
      if v < -longMax - 1 ∨ longMax < v ∨ v ≤ 0 then none
      else if rest.all isSpace then some v
      else none

variable (files : Bytes → Option Bytes)

/-- A file that cannot be opened reads as empty. -/
def readSmallFile (path : Bytes) : Bytes := (files path).getD []

/-- The name of a process, without the line end. -/
def procComm (who : Bytes) : Bytes :=
  (readSmallFile files (bytes "/proc/" ++ who ++ bytes "/comm")).rdropWhile fun c => c = 10 || c = 13

def commIsTwin (mine theirs : Bytes) : Bool := !mine.isEmpty && mine = theirs

/-- The pid of another copy, or zero. -/
def runningInstancePid (longMax : Nat) (self : Int) (pidfile : Bytes) : Int :=
  match parsePidfileText longMax (readSmallFile files pidfile) with
  | none => 0
  | some pid =>
    if pid = self then 0
    else if !commIsTwin (procComm files (bytes "self")) (procComm files (signed pid)) then 0
    else pid

end Files

section Text

variable {longMax : Nat} {text : Bytes} {p : Int}

/-- Blanks, maybe a plus, digits, blanks; the value is a pid. -/
def PidText (longMax : Nat) (text : Bytes) (p : Int) : Prop :=
  ∃ before plus digits after, text = before ++ plus ++ digits ++ after ∧
    (∀ c ∈ before, isSpace c) ∧ (plus = [] ∨ plus = [43]) ∧
    digits ≠ [] ∧ (∀ c ∈ digits, isDigit c) ∧ (∀ c ∈ after, isSpace c) ∧
    p = value digits ∧ 1 ≤ value digits ∧ value digits ≤ longMax

theorem parsePidfileText_some (read : parsePidfileText longMax text = some p) :
    0 ∉ text ∧ PidText longMax text p := by
  unfold parsePidfileText at read
  split at read
  · cases read
  rename_i noNul
  split at read
  · cases read
  rename_i v rest scanned
  split at read
  · cases read
  rename_i inRange
  split at read
  · rename_i blank
    cases read
    obtain ⟨before, sign, digits, rfl, spaces, isSign, all, some, -, rfl⟩ := scan_some scanned
    -- a minus leaves nothing above zero
    have unsigned : signedValue sign digits = value digits ∧ (sign = [] ∨ sign = [43]) := by
      rcases isSign with rfl | rfl | rfl
      · exact ⟨rfl, Or.inl rfl⟩
      · exact ⟨rfl, Or.inr rfl⟩
      · have below : signedValue [45] digits = -(value digits : Int) := rfl
        omega
    refine ⟨noNul, before, sign, digits, rest, by simp, spaces, unsigned.2, some, all,
      List.all_eq_true.mp blank, unsigned.1, ?_⟩
    omega
  · cases read

theorem parsePidfileText_of_pidText (noNul : 0 ∉ text) (spelled : PidText longMax text p) :
    parsePidfileText longMax text = some p := by
  obtain ⟨before, plus, digits, after, rfl, spaces, isPlus, some, all, blank, rfl, positive, fits⟩ :=
    spelled
  have isSign : IsSign plus := isPlus.imp_right Or.inl
  have unsigned : signedValue plus digits = value digits := by
    rcases isPlus with rfl | rfl
    · rfl
    · rfl
  have scanned := scan_spelled spaces isSign all some (takeWhile_spaces blank)
  rw [unsigned, ← List.append_assoc, ← List.append_assoc] at scanned
  have inRange : ¬ ((value digits : Int) < -longMax - 1 ∨ (longMax : Int) < value digits ∨
      (value digits : Int) ≤ 0) := by omega
  simp only [parsePidfileText, noNul, scanned, inRange, List.all_eq_true.mpr blank, if_true, if_false]

theorem parsePidfileText_written {n : Nat} (positive : 1 ≤ n) (fits : n ≤ longMax) :
    parsePidfileText longMax (decimal n ++ [10]) = some (n : Int) := by
  have noNul : 0 ∉ decimal n ++ [10] := by
    intro member
    rcases List.mem_append.mp member with digit | line
    · exact absurd (decimal_digits n 0 digit) (by decide)
    · exact absurd line (by decide)
  refine parsePidfileText_of_pidText noNul ⟨[], [], decimal n, [10], by simp,
    (fun _ no => nomatch no), Or.inl rfl, decimal_ne_nil n, decimal_digits n, ?_, ?_⟩
  · exact List.forall_mem_singleton.mpr rfl
  · rw [value_decimal]
    exact ⟨rfl, positive, fits⟩

end Text

section Guard

variable {files : Bytes → Option Bytes} {longMax : Nat} {self p : Int} {pidfile : Bytes}

theorem commIsTwin_iff {mine theirs : Bytes} :
    commIsTwin mine theirs = true ↔ mine = theirs ∧ mine ≠ [] := by
  simp [commIsTwin, and_comm]

/-- All the evidence there has to be against starting. -/
def Evidence (longMax : Nat) (files : Bytes → Option Bytes) (self : Int) (pidfile : Bytes) (p : Int) :
    Prop :=
  parsePidfileText longMax (readSmallFile files pidfile) = some p ∧ p ≠ self ∧
    procComm files (bytes "self") = procComm files (signed p) ∧ procComm files (bytes "self") ≠ []

theorem runningInstancePid_evidence (other : p ≠ 0) :
    runningInstancePid files longMax self pidfile = p ↔ Evidence longMax files self pidfile p := by
  unfold runningInstancePid Evidence
  cases read : parsePidfileText longMax (readSmallFile files pidfile) with
  | none => simp [other.symm]
  | some pid =>
    simp only [Option.some.injEq]
    by_cases own : pid = self
    · rw [if_pos own]
      constructor
      · exact fun zero => absurd zero.symm other
      · rintro ⟨rfl, notOwn, -⟩
        exact absurd own notOwn
    · rw [if_neg own]
      by_cases twin : commIsTwin (procComm files (bytes "self")) (procComm files (signed pid)) = true
      · rw [if_neg (by simp [twin])]
        constructor
        · rintro rfl
          exact ⟨rfl, own, commIsTwin_iff.mp twin⟩
        · exact fun evidence => evidence.1
      · rw [if_pos (by simpa using twin)]
        constructor
        · exact fun zero => absurd zero.symm other
        · rintro ⟨rfl, -, same⟩
          exact absurd (commIsTwin_iff.mpr same) twin

theorem main_clear {argv : List (Option Bytes)} {loads : Bytes → Bool}
    (runs : (parse argv).action = .run) (readable : ∀ config, loads config) :
    ∃ config, main argv 0 loads = .display config := by
  simp [main, runs, readable]

/-- A pid file is believed exactly as it is written, what is written for a pid is
read back, and only a pid file that names another process of our own name keeps
the screen dark. -/
theorem pidfile_believed (longMax : Nat) :
    (∀ text p, parsePidfileText longMax text = some p ↔ 0 ∉ text ∧ PidText longMax text p) ∧
      (∀ n : Nat, 1 ≤ n → n ≤ longMax →
        parsePidfileText longMax (decimal n ++ [10]) = some (n : Int)) ∧
      ∀ files self pidfile,
        (∀ p, p ≠ 0 → (runningInstancePid files longMax self pidfile = p ↔
          Evidence longMax files self pidfile p)) ∧
        ((¬ ∃ p, Evidence longMax files self pidfile p) →
          ∀ argv loads, (parse argv).action = .run → (∀ config, loads config = true) →
            ∃ config, main argv (runningInstancePid files longMax self pidfile) loads =
              .display config) := by
  refine ⟨fun text p => ⟨parsePidfileText_some, fun ⟨noNul, spelled⟩ =>
    parsePidfileText_of_pidText noNul spelled⟩, fun n => parsePidfileText_written,
    fun files self pidfile => ⟨fun p => runningInstancePid_evidence, fun none argv loads runs readable => ?_⟩⟩
  have clear : runningInstancePid files longMax self pidfile = 0 := by
    by_contra other
    exact none ⟨_, (runningInstancePid_evidence other).mp rfl⟩
  rw [clear]
  exact main_clear runs readable

/-- Blanks and a plus are accepted, a value out of range and a second field are not. -/
example : parsePidfileText 2147483647 (bytes "  +0042 \n") = some 42 ∧
    parsePidfileText 2147483647 (bytes "2147483648\n") = none ∧
    parsePidfileText 2147483647 (bytes "1 2\n") = none := by decide +kernel

end Guard

end GrumpyScreen.Cli
