import GrumpyScreen.Lib.Json
import GrumpyScreen.Lib.Lines
import GrumpyScreen.Lib.Run
import GrumpyScreen.Lib.Text
import GrumpyScreen.Lib.TextArea
import GrumpyScreen.Prompt
import GrumpyScreen.TempFilter

/-! The console: the responses of the machine, line by line, in a text field that
keeps the last hundred lines. -/

namespace GrumpyScreen.Console

open Lib PromptCard

variable {T : Type} [TextArea T]

/-- The lines of a text, an open last one included. -/
def lineCount (full : Bytes) : Nat :=
  let newlines := full.count 10
  if full.getLast?.any (· ≠ 10) then newlines + 1 else newlines

/-- `ta_add_text_limit_lines`. -/
def addTextLimitLines (ta : T) (line : Bytes) : T :=
  let msg := line ++ [10]
  let ta := TextArea.addText (cText msg) ta
  let full := TextArea.text ta
  let count := lineCount full
  let ta := if 100 < count then TextArea.setText (Lines.skip 10 (count - 100) full) ta else ta
  TextArea.cursorLast ta

/-- The params that are strings. -/
def stringParams {J : Type} [JsonLib J] (j : J) : List Bytes :=
  (JsonLib.elements j).filterMap fun l =>
    if JsonLib.isString l then (JsonLib.getString l).toOption.map bytes else none

/-- `ConsolePanel::handle_macro_response`. -/
def handleMacroResponse {J : Type} [JsonLib J] (ta : T) (j : J) : T :=
  match JsonLib.find j "params" with
  | some params => (TempFilter.consoleLines (stringParams params)).foldl addTextLimitLines ta
  | none => ta

/-- `ConsolePanel::handle_delete_btn`. -/
def handleDeleteBtn (ta : T) : T := TextArea.setText [] ta

/-- What happens to the text field. -/
inductive ConsoleEvent where
  | append (line : Bytes)
  | delete

def step (ta : T) : ConsoleEvent → T
  | .append line => addTextLimitLines ta line
  | .delete => handleDeleteBtn ta

/-- Everything appended since the last delete, in order. -/
def said (history : Bytes) : ConsoleEvent → Bytes
  | .append line => history ++ (line ++ [10])
  | .delete => []

/-- A response as the appends it makes. -/
def responseEvents {J : Type} [JsonLib J] (j : J) : List ConsoleEvent :=
  match JsonLib.find j "params" with
  | some params => (TempFilter.consoleLines (stringParams params)).map .append
  | none => []

theorem handleMacroResponse_run {J : Type} [JsonLib J] (ta : T) (j : J) :
    handleMacroResponse ta j = run step ta (responseEvents j) := by
  unfold handleMacroResponse responseEvents
  cases JsonLib.find j "params" with
  | none => rfl
  | some params =>
    simp only
    rw [run, List.foldl_map]
    rfl

section Append

variable {full : Bytes}

theorem lineCount_closed (closed : Lines.Closed 10 full) : lineCount full = full.count 10 := by
  rw [lineCount, if_neg]
  cases last : full.getLast? with
  | none => simp
  | some c => simp [closed c last]

/-- The field shows what is kept of the history, with the cursor at its end. -/
structure Shows (history : Bytes) (ta : T) : Prop where
  kept : Lines.Kept 10 100 history (TextArea.text ta)
  atEnd : TextArea.atEnd ta

variable [LawfulTextArea T]

theorem shows_create : Shows [] (TextArea.create : T) := by
  refine ⟨?_, LawfulTextArea.atEnd_create⟩
  rw [LawfulTextArea.text_create]
  exact Lines.kept_nil 10 100

theorem shows_delete (ta : T) : Shows [] (handleDeleteBtn ta) := by
  refine ⟨?_, LawfulTextArea.atEnd_setText [] ta⟩
  rw [handleDeleteBtn, LawfulTextArea.text_setText]
  exact Lines.kept_nil 10 100

theorem Shows.append {history line : Bytes} {ta : T} (shows : Shows history ta)
    (plain : 0 ∉ line) : Shows (history ++ (line ++ [10])) (addTextLimitLines ta line) := by
  refine ⟨?_, LawfulTextArea.atEnd_cursorLast _⟩
  have msg : cText (line ++ [10]) = line ++ [10] :=
    Text.takeWhile_absent (by simpa using plain)
  have closed : Lines.Closed 10 (line ++ [10]) := Lines.closed_snoc 10 line
  have some : 0 < (line ++ [10]).count 10 := by simp
  rw [addTextLimitLines, msg, LawfulTextArea.text_addText _ _ shows.atEnd,
    lineCount_closed (shows.kept.closed.append closed), LawfulTextArea.text_cursorLast]
  split
  · rename_i past
    rw [LawfulTextArea.text_setText]
    exact shows.kept.trim closed past
  · rename_i fits
    rw [LawfulTextArea.text_addText _ _ shows.atEnd]
    exact shows.kept.append closed some (Nat.le_of_not_lt fits)

/-- Every appended line of the run is free of NUL. -/
def PlainEvents (events : List ConsoleEvent) : Prop :=
  ∀ line, .append line ∈ events → 0 ∉ line

theorem shows_run {history : Bytes} {ta : T} (shows : Shows history ta)
    {events : List ConsoleEvent} (plain : PlainEvents events) :
    Shows (run said history events) (run step ta events) := by
  induction events generalizing history ta with
  | nil => exact shows
  | cons event rest ih =>
    have later : PlainEvents rest :=
      fun line member => plain line (List.mem_cons_of_mem event member)
    cases event with
    | append line => exact ih (shows.append (plain line List.mem_cons_self)) later
    | delete => exact ih (shows_delete ta) later

theorem Shows.response {J : Type} [JsonLib J] {history : Bytes} {ta : T}
    (shows : Shows history ta) {j : J}
    (plain : ∀ params, JsonLib.find j "params" = some params →
      ∀ line ∈ stringParams params, 0 ∉ line) :
    Shows (run said history (responseEvents j)) (handleMacroResponse ta j) := by
  rw [handleMacroResponse_run]
  apply shows_run shows
  intro line member
  unfold responseEvents at member
  cases found : JsonLib.find j "params" with
  | none =>
    rw [found] at member
    cases member
  | some params =>
    rw [found] at member
    obtain ⟨v, listed, same⟩ := List.mem_map.mp member
    cases same
    obtain ⟨text, said, rfl⟩ := List.mem_map.mp (List.mem_filter.mp listed).1
    simpa using plain params found text said

/-- After any run of appends and deletes the console shows the end of what was
appended since the last delete, from the start of a line on: at most a hundred lines,
and all of it unless it has more. -/
theorem console_keeps_last_lines {events : List ConsoleEvent} (plain : PlainEvents events) :
    let ta := run step (TextArea.create : T) events
    let history := run said [] events
    (∃ dropped, history = dropped ++ TextArea.text ta ∧ Lines.Closed 10 dropped) ∧
      lineCount (TextArea.text ta) ≤ 100 ∧
      (history ≠ TextArea.text ta →
        100 < lineCount history ∧ lineCount (TextArea.text ta) = 100) := by
  intro ta history
  have shows : Shows history ta := shows_run shows_create plain
  obtain ⟨dropped, whole, closed, full⟩ := shows.kept.cut
  have ended : Lines.Closed 10 history := by
    rw [whole]
    exact closed.append shows.kept.closed
  rw [lineCount_closed shows.kept.closed, lineCount_closed ended]
  refine ⟨⟨dropped, whole, closed⟩, shows.kept.few, fun cut => ?_⟩
  have some : dropped ≠ [] := by
    rintro rfl
    exact cut whole
  have count := full some
  have first := closed.count_pos some
  rw [whole, List.count_append]
  omega

/-- A line that is deleted and then two more than the console keeps. -/
def manyLines : List ConsoleEvent :=
  .append [111, 107, 10] :: .delete :: List.replicate 102 (.append [10])

theorem console_keeps_last_lines_one :
    let ta := run step (TextArea.create : Field) manyLines
    let history := run said [] manyLines
    100 < lineCount history ∧
      (∃ dropped, history = dropped ++ TextArea.text ta ∧ Lines.Closed 10 dropped) ∧
      lineCount (TextArea.text ta) ≤ 100 ∧
      (history ≠ TextArea.text ta →
        100 < lineCount history ∧ lineCount (TextArea.text ta) = 100) := by
  refine ⟨by decide +kernel, console_keeps_last_lines fun line member => ?_⟩
  have known : line = [111, 107, 10] ∨ line = [10] := by simpa [manyLines] using member
  rcases known with rfl | rfl <;> decide

end Append

end GrumpyScreen.Console
