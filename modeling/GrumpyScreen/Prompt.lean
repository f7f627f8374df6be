import GrumpyScreen.Config
import GrumpyScreen.Lib.Exec
import GrumpyScreen.Lib.Json
import GrumpyScreen.Lib.Run
import GrumpyScreen.Lib.Text

/-! The prompt dialog: the lines of Klipper's prompt protocol build its card,
widget by widget, in the order they arrive. -/

namespace GrumpyScreen

open Lib

/-- The fill and the text colour a button gets for its type. -/
inductive ButtonStyle where
  | secondary | warning | error | info | primary | plain
deriving DecidableEq, Repr

def buttonStyle (kind : Bytes) : ButtonStyle :=
  if kind = bytes "secondary" then .secondary
  else if kind = bytes "warning" then .warning
  else if kind = bytes "error" then .error
  else if kind = bytes "info" then .info
  else if kind = bytes "primary" then .primary
  else .plain

/-- A button: its label, the hidden label with its command, its style. -/
structure PromptButton where
  label : Bytes
  command : Bytes
  style : ButtonStyle
deriving DecidableEq, Repr

/-- A child of the body. -/
inductive BodyItem where
  | line (text : Bytes)
  | button (button : PromptButton)
  | row (buttons : List PromptButton)
deriving DecidableEq, Repr

/-- The dialog. The children of the body are known by their addresses, which
`button_group_cont` may hold. -/
structure PromptCard where
  header : Bytes := bytes "HEADER"
  body : List (Nat × BodyItem) := []
  footer : List PromptButton := []
  buttonGroupCont : Option Nat := none
  showing : Bool := false
  allocated : Nat := 0
deriving DecidableEq, Repr

namespace PromptCard

/-- What a label shows of a text. -/
def cText (s : Bytes) : Bytes := s.takeWhile (· ≠ 0)

/-- `lv_obj_clean` on the body and the footer. -/
def layoutReset (c : PromptCard) : PromptCard := { c with body := [], footer := [] }

/-- A new child of the body. -/
def addChild (item : BodyItem) (c : PromptCard) : PromptCard :=
  { c with body := c.body ++ [(c.allocated, item)], allocated := c.allocated + 1 }

def addText (text : Bytes) (c : PromptCard) : PromptCard := c.addChild (.line (cText text))

def addButtonRow (c : PromptCard) : PromptCard :=
  { c.addChild (.row []) with buttonGroupCont := some c.allocated }

/-- A button created on the row at an address. -/
def onRow (row : Nat) (button : PromptButton) : Nat × BodyItem → Nat × BodyItem
  | (address, .row buttons) =>
    (address, .row (if address = row then buttons ++ [button] else buttons))
  | child => child

/-- The button on its container: the footer, the active group or the body. -/
def addButton (inFooter : Bool) (button : PromptButton) (c : PromptCard) : PromptCard :=
  if inFooter then { c with footer := c.footer ++ [button] }
  else
    match c.buttonGroupCont with
    | none => c.addChild (.button button)
    | some row => { c with body := c.body.map (onRow row button) }

/-- `PromptPanel::reset`, on a lost link. -/
def reset (c : PromptCard) : PromptCard := { c with showing := false, header := [] }

end PromptCard

/-- What a line does to the card's place on the screen. -/
inductive PromptMove where
  | stay | shown | ended
deriving DecidableEq, Repr

/-- A computation on the card; `substr` past the end throws. -/
abbrev PromptExec (α : Type) := Exec JsonExn PromptCard α

section Lines

open PromptCard

def orThrow (part : Option Bytes) : PromptExec Bytes :=
  Exec.ofExcept (match part with
    | some text => .ok text
    | none => .error .outOfRange)

/-- The label starts behind `button` and the blanks after it. -/
def labelIndex (command : Bytes) : Nat :=
  let start := (Text.find (bytes "button") 0 command).elim 5 (· + 6)
  start + ((command.drop start).takeWhile (· = 32)).length

/-- `label|command` or `label|command|type`; without a `|` the line is skipped. -/
def handleButton (command : Bytes) : PromptExec PromptMove := do
  let indexLabel := labelIndex command
  match Text.find [124] indexLabel command with
  | none => pure .stay
  | some indexFirst => do
    let label ← orThrow (Text.substr indexLabel (indexFirst - indexLabel) command)
    let (buttonCommand, kind) ← match Text.find [124] (indexFirst + 1) command with
      | some indexSecond => do
        let buttonCommand ← orThrow
          (Text.substr (indexFirst + 1) (indexSecond - indexFirst - 1) command)
        let kind ← orThrow
          (Text.substr (indexSecond + 1) (command.length - indexSecond - 1) command)
        pure (buttonCommand, kind)
      | none => do
        let buttonCommand ← orThrow (Text.suffix (indexFirst + 1) command)
        pure (buttonCommand, bytes "none")
    let button := ⟨cText label, cText buttonCommand, buttonStyle kind⟩
    modify (addButton ((bytes "prompt_footer_button").isPrefixOf command) button)
    pure .stay

/-- The longer of two keywords with one beginning is looked for first. -/
def handleAction (command : Bytes) : PromptExec PromptMove := do
  if (bytes "prompt_begin").isPrefixOf command then
    let header ← orThrow (Text.suffix 13 command)
    modify fun c => { c.layoutReset with buttonGroupCont := none, header := cText header }
    pure .stay
  else if (bytes "prompt_text").isPrefixOf command then
    let text ← orThrow (Text.suffix 12 command)
    modify (addText text)
    pure .stay
  else if (bytes "prompt_button_group_start").isPrefixOf command then
    modify addButtonRow
    pure .stay
  else if (bytes "prompt_button_group_end").isPrefixOf command then
    modify fun c => { c with buttonGroupCont := none }
    pure .stay
  else if (bytes "prompt_footer_button").isPrefixOf command ||
      (bytes "prompt_button").isPrefixOf command then
    handleButton command
  else if (bytes "prompt_show").isPrefixOf command then
    modify fun c => { c with showing := true }
    pure .shown
  else if (bytes "prompt_end").isPrefixOf command then
    modify fun c => { c.layoutReset with showing := false, header := [], buttonGroupCont := none }
    pure .ended
  else pure .stay

/-- A G-code response; only actions matter here. -/
def handleResponse (resp : Bytes) : PromptExec PromptMove := do
  if (bytes "// action:").isPrefixOf resp then
    let command ← orThrow (Text.suffix 10 resp)
    handleAction command
  else pure .stay

/-- `PromptPanel::handle_macro_response`. -/
def handleMacroResponse {J : Type} [JsonLib J] (j : J) : PromptExec PromptMove := do
  let v ← Exec.ofExcept (JsonLib.lookup j ["params", "0"])
  if JsonLib.isNull v then pure .stay
  else
    let resp ← Exec.ofExcept (JsonLib.getString v)
    handleResponse (bytes resp)

end Lines

end GrumpyScreen
