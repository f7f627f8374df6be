import Mathlib.Data.List.TakeWhile

/-! The narration logbook's text: the parse of the step message and what the
box shows for it. -/

namespace GrumpyScreen

/-- What a C string function sees of a string: the part before the first NUL. -/
def cStr (s : String) : String := String.ofList (s.toList.takeWhile (· ≠ '\x00'))

theorem cStr_of_no_nul {s : String} (plain : '\x00' ∉ s.toList) : cStr s = s := by
  have whole : s.toList.takeWhile (· ≠ '\x00') = s.toList := by
    apply List.takeWhile_eq_self_iff.mpr
    intro c member
    have other : c ≠ '\x00' := fun same => plain (same ▸ member)
    simp [other]
  rw [cStr, whole, String.ofList_toList]

/-- `std::stoi` on decimal digits; `none` when the value does not fit an int. -/
def stoi (digits : List Char) : Option Int :=
  let value := digits.foldl (fun n c => 10 * n + (c.toNat - '0'.toNat)) 0
  if value ≤ 2147483647 then some value else none

/-- `find_first_not_of(" \t")` to `find_last_not_of(" \t")`. -/
def trim (s : List Char) : List Char :=
  let blank (c : Char) : Bool := c = ' ' || c = '\t'
  ((s.dropWhile blank).reverse.dropWhile blank).reverse

/-- The logbook fields of one step message. -/
structure CalStep where
  now : String := ""
  next : String := ""
  done : Int := 0
  total : Int := 0
deriving DecidableEq, Repr

/-- The counts around the first `/`, if digits stand on both sides of it. -/
def calCount (m : List Char) : Int × Int :=
  let before := m.takeWhile (· ≠ '/')
  let after := (m.dropWhile (· ≠ '/')).tail
  let left := (before.reverse.takeWhile Char.isDigit).reverse
  let right := after.takeWhile Char.isDigit
  if left.isEmpty || right.isEmpty then (0, 0)
  else
    -- one try block: a throw on the second number keeps the first
    match stoi left with
    | none => (0, 0)
    | some done =>
      match stoi right with
      | none => (done, 0)
      | some total => (done, total)

/-- The text after the first `:`, cut at the first `|`. -/
def calBody (m : List Char) : String × String :=
  if ':' ∈ m then
    let body := (m.dropWhile (· ≠ ':')).tail
    if '|' ∈ body then
      (String.ofList (trim (body.takeWhile (· ≠ '|'))),
       String.ofList (trim (body.dropWhile (· ≠ '|')).tail))
    else (String.ofList (trim body), "")
  else ("", "")

/-- Parse the cal step text "Make Pono X/N: now | next". -/
def parseCalMsg (m : String) : CalStep :=
  let count := calCount m.toList
  let body := calBody m.toList
  { now := body.1, next := body.2, done := count.1, total := count.2 }

/-- What the logbook box shows. The bar is hidden without a count; its width is
`none` where the product overflows an int. -/
structure CalLogView where
  now : String
  next : String
  count : String
  bar : Option (Option Int)
  fault : Bool
deriving DecidableEq, Repr

/-- `(lv_coord_t)((480 * done) / total)`. -/
def barWidth (done total : Int) : Option Int :=
  if 480 * done ≤ 2147483647 then some ((480 * done / total).bmod 65536) else none

/-- The contents `cal_log_show` gives the box. -/
def calLogView (now next : String) (done total : Int) (fault : Bool) : CalLogView :=
  if total > 0 then
    let done := if done < 0 then 0 else done
    let done := if done > total then total else done
    { now := cStr now, next := cStr next, count := s!"{done}/{total}",
      bar := some (barWidth done total), fault := fault }
  else
    { now := cStr now, next := cStr next, count := "", bar := none, fault := fault }

/-- The live line of a parsed step. -/
def CalStep.view (step : CalStep) : CalLogView :=
  calLogView step.now step.next step.done step.total false

/-- The lost-contact alarm after `age` milliseconds, which keeps the count. -/
def CalStep.alarm (step : CalStep) (age : Int) : CalLogView :=
  calLogView s!"no word from the machine for {age / 1000}s"
    "tap STOP if it does not clear" step.done step.total true

@[simp] theorem calLogView_fault (now next : String) (done total : Int) (fault : Bool) :
    (calLogView now next done total fault).fault = fault := by
  unfold calLogView
  split <;> rfl

@[simp] theorem CalStep.view_fault (step : CalStep) : step.view.fault = false :=
  calLogView_fault ..

@[simp] theorem CalStep.alarm_fault (step : CalStep) (age : Int) :
    (step.alarm age).fault = true := calLogView_fault ..

example : parseCalMsg "Make Pono 5/40: heat the bed | probe" =
    { now := "heat the bed", next := "probe", done := 5, total := 40 } := by decide

end GrumpyScreen
