import GrumpyScreen.Prompt
import Mathlib.Data.List.Nodup

/-! The prompt protocol on its own terms, and the card that follows it. -/

namespace GrumpyScreen

open Lib

/-- A line of the protocol; a button's type is optional. -/
inductive PromptLine where
  | opens (title : Bytes)
  | text (shown : Bytes)
  | groupStart
  | groupEnd
  | button (label command : Bytes) (kind : Option Bytes)
  | footerButton (label command : Bytes) (kind : Option Bytes)
  | shows
  | ends
deriving DecidableEq, Repr

namespace PromptLine

/-- `label|command` or `label|command|type`. -/
def fields (label command : Bytes) (kind : Option Bytes) : Bytes :=
  label ++ 124 :: (command ++ kind.elim [] (124 :: ·))

def action : PromptLine → Bytes
  | .opens title => bytes "prompt_begin " ++ title
  | .text shown => bytes "prompt_text " ++ shown
  | .groupStart => bytes "prompt_button_group_start"
  | .groupEnd => bytes "prompt_button_group_end"
  | .button label command kind => bytes "prompt_button " ++ fields label command kind
  | .footerButton label command kind => bytes "prompt_footer_button " ++ fields label command kind
  | .shows => bytes "prompt_show"
  | .ends => bytes "prompt_end"

/-- The response Klipper sends. -/
def render (line : PromptLine) : Bytes := bytes "// action:" ++ line.action

/-- No NUL in what is shown or sent, no `|` inside a label or a command. -/
def WellFormed : PromptLine → Prop
  | .opens title => 0 ∉ title
  | .text shown => 0 ∉ shown
  | .button label command _ | .footerButton label command _ =>
    (0 ∉ label ∧ 124 ∉ label) ∧ 0 ∉ command ∧ 124 ∉ command
  | _ => True

/-- The button a line describes; blanks before the label are no part of it. -/
def shownButton (label command : Bytes) (kind : Option Bytes) : PromptButton :=
  ⟨label.dropWhile (· = 32), command, buttonStyle (kind.getD (bytes "none"))⟩

/-- The buttons of the group just started: up to its end or the next one's start. -/
def grouped : List PromptLine → List PromptButton
  | [] => []
  | .groupStart :: _ => []
  | .groupEnd :: _ => []
  | .button label command kind :: rest => shownButton label command kind :: grouped rest
  | _ :: rest => grouped rest

/-- What the body holds: the texts, the buttons outside of groups and a row for
every group, in order. -/
def bodyOf (inGroup : Bool) : List PromptLine → List BodyItem
  | [] => []
  | .text shown :: rest => .line shown :: bodyOf inGroup rest
  | .groupStart :: rest => .row (grouped rest) :: bodyOf true rest
  | .groupEnd :: rest => bodyOf false rest
  | .button label command kind :: rest =>
    if inGroup then bodyOf true rest
    else .button (shownButton label command kind) :: bodyOf false rest
  | _ :: rest => bodyOf inGroup rest

def footerButton? : PromptLine → Option PromptButton
  | .footerButton label command kind => some (shownButton label command kind)
  | _ => none

/-- The footer buttons, in order. -/
def footerOf (lines : List PromptLine) : List PromptButton := lines.filterMap footerButton?

end PromptLine

/-- A line arrives or the link is reset. -/
inductive PromptInput where
  | line (said : PromptLine)
  | linkReset
deriving DecidableEq, Repr

def PromptInput.WellFormed : PromptInput → Prop
  | .line said => said.WellFormed
  | .linkReset => True

/-- The lines since the latest begin or end. -/
def heard (lines : List PromptLine) : PromptInput → List PromptLine
  | .line (.opens _) | .line .ends => []
  | .line said => lines ++ [said]
  | .linkReset => lines

def latest (inputs : List PromptInput) : List PromptLine := inputs.foldl heard []

def PromptCard.step (c : PromptCard) : PromptInput → PromptCard
  | .line said => Exec.final (handleResponse said.render) c
  | .linkReset => c.reset

section Reading

open PromptCard

theorem orThrow_some (part : Bytes) : orThrow (some part) = pure part := rfl

theorem handleResponse_render (line : PromptLine) :
    handleResponse line.render = handleAction line.action := by
  have whole : Text.suffix 10 (bytes "// action:" ++ line.action) = some line.action :=
    Text.suffix_append (bytes "// action:") line.action
  unfold handleResponse PromptLine.render
  rw [if_pos (by rfl), whole]
  rfl

theorem cText_plain {s : Bytes} (plain : 0 ∉ s) : cText s = s := Text.takeWhile_absent plain

theorem handleAction_opens (title : Bytes) (c : PromptCard) :
    Exec.exec (handleAction (PromptLine.opens title).action) c =
      (.ok .stay, { c.layoutReset with buttonGroupCont := none, header := cText title }) := by
  have argument : Text.suffix 13 (bytes "prompt_begin " ++ title) = some title :=
    Text.suffix_append (bytes "prompt_begin ") title
  unfold handleAction PromptLine.action
  rw [if_pos (by rfl), argument]
  rfl

theorem handleAction_text (shown : Bytes) (c : PromptCard) :
    Exec.exec (handleAction (PromptLine.text shown).action) c =
      (.ok .stay, c.addText shown) := by
  have argument : Text.suffix 12 (bytes "prompt_text " ++ shown) = some shown :=
    Text.suffix_append (bytes "prompt_text ") shown
  unfold handleAction PromptLine.action
  rw [if_neg (by exact Bool.false_ne_true), if_pos (by rfl), argument]
  rfl

theorem handleAction_groupStart (c : PromptCard) :
    Exec.exec (handleAction PromptLine.groupStart.action) c = (.ok .stay, c.addButtonRow) := rfl

theorem handleAction_shows (c : PromptCard) :
    Exec.exec (handleAction PromptLine.shows.action) c = (.ok .shown, { c with showing := true }) := rfl

theorem handleAction_ends (c : PromptCard) :
    Exec.exec (handleAction PromptLine.ends.action) c =
      (.ok .ended,
        { c.layoutReset with showing := false, header := [], buttonGroupCont := none }) := rfl

theorem handleAction_groupEnd (c : PromptCard) :
    Exec.exec (handleAction PromptLine.groupEnd.action) c =
      (.ok .stay, { c with buttonGroupCont := none }) := rfl

theorem handleButton_split {command seen label buttonCommand : Bytes} {kind : Option Bytes}
    (split : command = seen ++ (label ++ 124 :: (buttonCommand ++ kind.elim [] (124 :: ·))))
    (index : labelIndex command = seen.length) (noBar : 124 ∉ label)
    (noBarAfter : 124 ∉ buttonCommand) (c : PromptCard) :
    Exec.exec (handleButton command) c =
      (.ok .stay,
        c.addButton ((bytes "prompt_footer_button").isPrefixOf command)
          ⟨cText label, cText buttonCommand, buttonStyle (kind.getD (bytes "none"))⟩) := by
  have first : Text.find [124] seen.length command = some (seen.length + label.length) := by
    rw [split]
    exact Text.find_first seen noBar _
  have labelCut : Text.substr seen.length label.length command = some label := by
    rw [split]
    exact Text.substr_append seen label _
  -- the part before the second field, as one
  have again : command = (seen ++ label ++ [124]) ++ (buttonCommand ++ kind.elim [] (124 :: ·)) := by
    rw [split]
    simp
  have length : (seen ++ label ++ [124]).length = seen.length + label.length + 1 := by
    simp only [List.length_append, List.length_singleton]
  unfold handleButton
  simp only [index, first, Nat.add_sub_cancel_left, labelCut, orThrow_some, pure_bind]
  cases kind with
  | none =>
    have none : Text.find [124] (seen.length + label.length + 1) command = none := by
      rw [again, ← length, Option.elim_none, List.append_nil]
      exact Text.find_absent _ noBarAfter
    have rest : Text.suffix (seen.length + label.length + 1) command = some buttonCommand := by
      rw [again, ← length, Option.elim_none, List.append_nil]
      exact Text.suffix_append _ _
    simp only [none, rest, orThrow_some, pure_bind]
    rfl
  | some kind =>
    have second : Text.find [124] (seen.length + label.length + 1) command =
        some (seen.length + label.length + 1 + buttonCommand.length) := by
      rw [again, ← length]
      exact Text.find_first _ noBarAfter kind
    have commandCut : Text.substr (seen.length + label.length + 1) buttonCommand.length command =
        some buttonCommand := by
      rw [again, ← length]
      exact Text.substr_append _ buttonCommand _
    have kindCut : Text.substr (seen.length + label.length + 1 + buttonCommand.length + 1)
        (command.length - (seen.length + label.length + 1 + buttonCommand.length) - 1) command =
        some kind := by
      have third : command = (seen ++ label ++ [124] ++ buttonCommand ++ [124]) ++ (kind ++ []) := by
        rw [again]
        simp
      have whole : (seen ++ label ++ [124] ++ buttonCommand ++ [124]).length =
          seen.length + label.length + 1 + buttonCommand.length + 1 := by
        simp only [List.length_append, List.length_singleton]
      have left : command.length - (seen.length + label.length + 1 + buttonCommand.length) - 1 =
          kind.length := by
        rw [third, List.length_append, whole]
        simp
        omega
      rw [left, third, ← whole]
      exact Text.substr_append _ kind []
    have width : seen.length + label.length + 1 + buttonCommand.length -
        (seen.length + label.length) - 1 = buttonCommand.length := by omega
    simp only [second, width, commandCut, kindCut, orThrow_some, pure_bind]
    rfl

theorem blanks_before_bar (label rest : Bytes) :
    (label ++ 124 :: rest).takeWhile (· = 32) = label.takeWhile (· = 32) := by
  induction label with
  | nil => rfl
  | cons c tail ih => simp [List.takeWhile_cons, ih]

theorem labelIndex_fields {keyword : Bytes} (label rest : Bytes)
    (found : ∀ tail : Bytes,
      Text.find (bytes "button") 0 (keyword ++ tail) = some (keyword.length - 6))
    (long : 6 ≤ keyword.length) :
    labelIndex (keyword ++ 32 :: (label ++ 124 :: rest)) =
      (keyword ++ 32 :: label.takeWhile (· = 32)).length := by
  have start : keyword.length - 6 + 6 = keyword.length := Nat.sub_add_cancel long
  simp only [labelIndex, found, Option.elim_some, start, List.drop_left, List.takeWhile_cons,
    decide_true, if_true, blanks_before_bar, List.length_append, List.length_cons]

theorem handleButton_fields (keyword : Bytes)
    (found : ∀ tail : Bytes,
      Text.find (bytes "button") 0 (keyword ++ tail) = some (keyword.length - 6))
    (long : 6 ≤ keyword.length) (label buttonCommand : Bytes) (kind : Option Bytes)
    (labelPlain : 0 ∉ label ∧ 124 ∉ label) (commandPlain : 0 ∉ buttonCommand ∧ 124 ∉ buttonCommand)
    (c : PromptCard) :
    let command := keyword ++ 32 :: PromptLine.fields label buttonCommand kind
    Exec.exec (handleButton command) c =
      (.ok .stay, c.addButton ((bytes "prompt_footer_button").isPrefixOf command)
        (PromptLine.shownButton label buttonCommand kind)) := by
  intro command
  have parts : label.takeWhile (· = 32) ++ label.dropWhile (· = 32) = label :=
    List.takeWhile_append_dropWhile
  have inside : ∀ c ∈ label.dropWhile (· = 32), c ∈ label := fun c member =>
    (List.dropWhile_suffix _).subset member
  have split : command = (keyword ++ 32 :: label.takeWhile (· = 32)) ++
      (label.dropWhile (· = 32) ++ 124 :: (buttonCommand ++ kind.elim [] (124 :: ·))) := by
    rw [← List.append_assoc, List.append_assoc keyword, List.cons_append, parts, List.append_assoc]
    rfl
  have run := handleButton_split split (labelIndex_fields label _ found long)
    (fun bar => labelPlain.2 (inside 124 bar)) commandPlain.2 c
  rw [cText_plain (fun nul => labelPlain.1 (inside 0 nul)), cText_plain commandPlain.1] at run
  exact run

theorem handleAction_handleButton {line : PromptLine} {label command : Bytes}
    {kind : Option Bytes}
    (button : line = .button label command kind ∨ line = .footerButton label command kind) :
    handleAction line.action = handleButton line.action := by
  unfold handleAction
  rcases button with rfl | rfl
  · rw [if_neg (by exact Bool.false_ne_true), if_neg (by exact Bool.false_ne_true),
      if_neg (by exact Bool.false_ne_true), if_neg (by exact Bool.false_ne_true), if_pos (by rfl)]
  · rw [if_neg (by exact Bool.false_ne_true), if_neg (by exact Bool.false_ne_true),
      if_neg (by exact Bool.false_ne_true), if_neg (by exact Bool.false_ne_true), if_pos (by rfl)]

theorem handleAction_button {label command : Bytes} {kind : Option Bytes}
    (formed : (PromptLine.button label command kind).WellFormed) (c : PromptCard) :
    Exec.exec (handleAction (PromptLine.button label command kind).action) c =
      (.ok .stay, c.addButton false (PromptLine.shownButton label command kind)) := by
  have spelled : (PromptLine.button label command kind).action =
      bytes "prompt_button" ++ 32 :: PromptLine.fields label command kind := by
    have blank : bytes "prompt_button " = bytes "prompt_button" ++ [32] := by decide
    rw [PromptLine.action, blank, List.append_assoc]
    rfl
  have inBody : (bytes "prompt_footer_button").isPrefixOf
      (bytes "prompt_button" ++ 32 :: PromptLine.fields label command kind) = false := rfl
  have run := handleButton_fields (bytes "prompt_button") (by intro _; rfl) (by decide) label command
    kind formed.1 formed.2 c
  rw [handleAction_handleButton (Or.inl rfl), spelled]
  simp only [inBody] at run
  exact run

theorem handleAction_footerButton {label command : Bytes} {kind : Option Bytes}
    (formed : (PromptLine.footerButton label command kind).WellFormed) (c : PromptCard) :
    Exec.exec (handleAction (PromptLine.footerButton label command kind).action) c =
      (.ok .stay, c.addButton true (PromptLine.shownButton label command kind)) := by
  have spelled : (PromptLine.footerButton label command kind).action =
      bytes "prompt_footer_button" ++ 32 :: PromptLine.fields label command kind := by
    have blank : bytes "prompt_footer_button " = bytes "prompt_footer_button" ++ [32] := by decide
    rw [PromptLine.action, blank, List.append_assoc]
    rfl
  have inFooter : (bytes "prompt_footer_button").isPrefixOf
      (bytes "prompt_footer_button" ++ 32 :: PromptLine.fields label command kind) = true := rfl
  have run := handleButton_fields (bytes "prompt_footer_button") (by intro _; rfl) (by decide) label
    command kind formed.1 formed.2 c
  rw [handleAction_handleButton (Or.inr rfl), spelled]
  simp only [inFooter] at run
  exact run

end Reading

section Following

open PromptLine PromptCard

/-- What the children of the body make of the lines heard, whatever follows: a
group that is open takes the buttons to come on its row. -/
def Continues (lines : List PromptLine) (body : List (Nat × BodyItem)) : Option Nat → Prop
  | none => ∀ tail, bodyOf false (lines ++ tail) = body.map Prod.snd ++ bodyOf false tail
  | some group => ∃ front buttons back, body = front ++ (group, .row buttons) :: back ∧
      ∀ tail, bodyOf false (lines ++ tail) =
        front.map Prod.snd ++ .row (buttons ++ grouped tail) :: (back.map Prod.snd ++ bodyOf true tail)

/-- The card holds what was heard, each child at an address of its own. -/
structure Follows (lines : List PromptLine) (c : PromptCard) : Prop where
  addresses : (c.body.map Prod.fst).Nodup
  allocated : ∀ child ∈ c.body, child.1 < c.allocated
  footer : c.footer = footerOf lines
  body : Continues lines c.body c.buttonGroupCont

theorem Follows.empty (c : PromptCard) (body : c.body = []) (footer : c.footer = [])
    (group : c.buttonGroupCont = none) : Follows [] c := by
  refine ⟨?_, ?_, footer, ?_⟩
  · rw [body]
    exact List.nodup_nil
  · rw [body]
    exact fun child member => nomatch member
  · rw [body, group]
    exact fun tail => rfl

theorem footerOf_snoc (lines : List PromptLine) (said : PromptLine) :
    footerOf (lines ++ [said]) = footerOf lines ++ (footerButton? said).toList := by
  rw [footerOf, List.filterMap_append]
  cases added : footerButton? said with
  | none => simp [footerOf, added]
  | some button => simp [footerOf, added]

variable {lines : List PromptLine} {c : PromptCard}

theorem addChild_addresses (addresses : (c.body.map Prod.fst).Nodup)
    (allocated : ∀ child ∈ c.body, child.1 < c.allocated) (item : BodyItem) :
    ((c.addChild item).body.map Prod.fst).Nodup := by
  simp only [addChild, List.map_append, List.map_cons, List.map_nil]
  refine List.nodup_append.mpr ⟨addresses, List.nodup_singleton _, ?_⟩
  intro address member other single same
  obtain ⟨child, inBody, rfl⟩ := List.mem_map.mp member
  have below := allocated child inBody
  rw [List.mem_singleton.mp single] at same
  omega

theorem addChild_allocated (allocated : ∀ child ∈ c.body, child.1 < c.allocated)
    (item : BodyItem) : ∀ child ∈ (c.addChild item).body, child.1 < (c.addChild item).allocated := by
  intro child member
  rcases List.mem_append.mp member with old | new
  · exact Nat.lt_succ_of_lt (allocated child old)
  · rw [List.mem_singleton.mp new]
    exact Nat.lt_succ_self _

theorem map_onRow {front back : List (Nat × BodyItem)} {row : Nat} {buttons : List PromptButton}
    (distinct : ((front ++ (row, .row buttons) :: back).map Prod.fst).Nodup)
    (button : PromptButton) :
    (front ++ (row, .row buttons) :: back).map (onRow row button) =
      front ++ (row, .row (buttons ++ [button])) :: back := by
  rw [List.map_append, List.map_cons, List.nodup_append, List.nodup_cons] at distinct
  obtain ⟨-, ⟨notBehind, -⟩, apart⟩ := distinct
  have kept : ∀ children : List (Nat × BodyItem), row ∉ children.map Prod.fst →
      children.map (onRow row button) = children := by
    intro children absent
    refine (List.map_congr_left fun child member => ?_).trans (List.map_id children)
    have other : child.1 ≠ row := fun same => absent (same ▸ List.mem_map_of_mem member)
    obtain ⟨address, item⟩ := child
    cases item with
    | row held => simp [onRow, show address ≠ row from other]
    | _ => rfl
  have before : row ∉ front.map Prod.fst := fun member =>
    apart row member row (List.mem_cons_self ..) rfl
  rw [List.map_append, List.map_cons, kept front before, kept back notBehind]
  simp [onRow]

theorem Follows.child (follows : Follows lines c) {said : PromptLine} {item : BodyItem}
    {group : Option Nat} (noFooter : footerButton? said = none)
    (body : Continues (lines ++ [said]) (c.body ++ [(c.allocated, item)]) group) :
    Follows (lines ++ [said]) { c.addChild item with buttonGroupCont := group } where
  addresses := addChild_addresses follows.addresses follows.allocated item
  allocated := addChild_allocated follows.allocated item
  footer := by
    rw [footerOf_snoc, noFooter]
    exact follows.footer.trans (List.append_nil _).symm
  body := body

theorem Follows.still (follows : Follows lines c) {said : PromptLine} {next : PromptCard}
    (noFooter : footerButton? said = none)
    (same : (next.body, next.footer, next.allocated) = (c.body, c.footer, c.allocated))
    (body : Continues (lines ++ [said]) c.body next.buttonGroupCont) :
    Follows (lines ++ [said]) next := by
  obtain ⟨sameBody, rest⟩ := Prod.mk.inj same
  obtain ⟨sameFooter, sameAllocated⟩ := Prod.mk.inj rest
  refine ⟨?_, ?_, ?_, ?_⟩
  · rw [sameBody]
    exact follows.addresses
  · rw [sameBody, sameAllocated]
    exact follows.allocated
  · rw [sameFooter, footerOf_snoc, noFooter]
    exact follows.footer.trans (List.append_nil _).symm
  · rw [sameBody]
    exact body

theorem Continues.snoc_plain {body : List (Nat × BodyItem)} {group : Option Nat}
    (continues : Continues lines body group) {said : PromptLine}
    (silent : ∀ inGroup tail, bodyOf inGroup (said :: tail) = bodyOf inGroup tail)
    (outside : ∀ tail, grouped (said :: tail) = grouped tail) :
    Continues (lines ++ [said]) body group := by
  cases group with
  | none =>
    intro tail
    rw [List.append_assoc, List.singleton_append, continues, silent]
  | some group =>
    obtain ⟨front, buttons, back, whole, rest⟩ := continues
    refine ⟨front, buttons, back, whole, fun tail => ?_⟩
    rw [List.append_assoc, List.singleton_append, rest, silent, outside]

theorem Continues.snoc_text {body : List (Nat × BodyItem)} {group : Option Nat}
    (continues : Continues lines body group) (shown : Bytes) (address : Nat) :
    Continues (lines ++ [.text shown]) (body ++ [(address, .line shown)]) group := by
  cases group with
  | none =>
    intro tail
    rw [List.append_assoc, List.singleton_append, continues]
    simp [bodyOf]
  | some group =>
    obtain ⟨front, buttons, back, whole, rest⟩ := continues
    refine ⟨front, buttons, back ++ [(address, .line shown)], by simp [whole], fun tail => ?_⟩
    rw [List.append_assoc, List.singleton_append, rest]
    simp [bodyOf, grouped]

theorem Continues.closed {body : List (Nat × BodyItem)} {group : Option Nat}
    (continues : Continues lines body group) (said : PromptLine)
    (closes : ∀ tail, grouped (said :: tail) = [])
    (same : ∀ inGroup tail, bodyOf inGroup (said :: tail) = bodyOf false (said :: tail))
    (tail : List PromptLine) :
    bodyOf false (lines ++ said :: tail) = body.map Prod.snd ++ bodyOf false (said :: tail) := by
  cases group with
  | none => exact continues _
  | some group =>
    obtain ⟨front, buttons, back, whole, rest⟩ := continues
    rw [rest, closes, same, whole]
    simp

theorem Follows.button (follows : Follows lines c) (label command : Bytes) (kind : Option Bytes) :
    Follows (lines ++ [.button label command kind])
      (c.addButton false (shownButton label command kind)) := by
  have continues := follows.body
  cases group : c.buttonGroupCont with
  | none =>
    rw [group] at continues
    have added : c.addButton false (shownButton label command kind) =
        { c.addChild (.button (shownButton label command kind)) with buttonGroupCont := none } := by
      simp [addButton, group, addChild]
    rw [added]
    refine follows.child rfl fun tail => ?_
    rw [List.append_assoc, List.singleton_append, continues]
    simp [bodyOf]
  | some row =>
    rw [group] at continues
    obtain ⟨front, buttons, back, whole, rest⟩ := continues
    have distinct := follows.addresses
    rw [whole] at distinct
    have moved : c.body.map (onRow row (shownButton label command kind)) =
        front ++ (row, .row (buttons ++ [shownButton label command kind])) :: back := by
      rw [whole]
      exact map_onRow distinct _
    have added : c.addButton false (shownButton label command kind) =
        { c with body := front ++ (row, .row (buttons ++ [shownButton label command kind])) :: back } := by
      simp [addButton, group, moved]
    rw [added]
    have addresses := follows.addresses
    have allocated := follows.allocated
    rw [whole] at addresses allocated
    refine ⟨by simpa using addresses, fun child member => ?_, ?_, ?_⟩
    · rcases List.mem_append.mp member with inFront | behind
      · exact allocated child (List.mem_append_left _ inFront)
      · rcases List.mem_cons.mp behind with here | later
        · rw [here]
          exact allocated (row, .row buttons) (by simp)
        · exact allocated child (List.mem_append_right _ (List.mem_cons_of_mem _ later))
    · rw [footerOf_snoc]
      exact follows.footer.trans (List.append_nil _).symm
    · rw [group]
      refine ⟨front, buttons ++ [shownButton label command kind], back, rfl, fun tail => ?_⟩
      rw [List.append_assoc, List.singleton_append, rest]
      simp [bodyOf, grouped]

theorem Follows.step (follows : Follows lines c) {input : PromptInput}
    (formed : input.WellFormed) : Follows (heard lines input) (c.step input) := by
  cases input with
  | linkReset => exact ⟨follows.addresses, follows.allocated, follows.footer, follows.body⟩
  | line said =>
    have continues := follows.body
    simp only [PromptCard.step, handleResponse_render, Exec.final]
    cases said with
    | opens title =>
      rw [handleAction_opens]
      exact Follows.empty _ rfl rfl rfl
    | text shown =>
      have plain : 0 ∉ shown := formed
      rw [handleAction_text, addText, cText_plain plain]
      exact follows.child rfl (continues.snoc_text shown c.allocated)
    | groupStart =>
      rw [handleAction_groupStart]
      have opened := continues.closed .groupStart (fun _ => rfl) (fun _ _ => rfl)
      refine follows.child rfl ⟨c.body, [], [], rfl, fun tail => ?_⟩
      rw [List.append_assoc, List.singleton_append, opened]
      rfl
    | groupEnd =>
      rw [handleAction_groupEnd]
      have closed := continues.closed .groupEnd (fun _ => rfl) (fun _ _ => rfl)
      refine follows.still rfl rfl fun tail => ?_
      rw [List.append_assoc, List.singleton_append, closed]
      rfl
    | button label command kind =>
      rw [handleAction_button formed]
      exact follows.button label command kind
    | footerButton label command kind =>
      rw [handleAction_footerButton formed]
      refine ⟨follows.addresses, follows.allocated, ?_,
        continues.snoc_plain (fun _ _ => rfl) (fun _ => rfl)⟩
      exact (congrArg (· ++ [shownButton label command kind]) follows.footer).trans
        (footerOf_snoc lines (.footerButton label command kind)).symm
    | shows =>
      rw [handleAction_shows]
      exact follows.still rfl rfl (continues.snoc_plain (fun _ _ => rfl) (fun _ => rfl))
    | ends =>
      rw [handleAction_ends]
      exact Follows.empty _ rfl rfl rfl

theorem follows_latest {inputs : List PromptInput} (formed : ∀ input ∈ inputs, input.WellFormed)
    {lines : List PromptLine} {c : PromptCard} (follows : Follows lines c) :
    Follows (inputs.foldl heard lines) (run PromptCard.step c inputs) := by
  induction inputs generalizing lines c with
  | nil => exact follows
  | cons input rest ih =>
    refine ih (fun next member => formed next (List.mem_cons_of_mem input member)) ?_
    exact follows.step (formed input (List.mem_cons_self ..))

/-- Whenever the dialog is looked at, its body and its footer hold what was heard
since the latest begin or end, and the active group is a row of this body. -/
theorem card_holds_prompt (inputs : List PromptInput)
    (formed : ∀ input ∈ inputs, input.WellFormed) :
    let c := run PromptCard.step {} inputs
    c.body.map Prod.snd = bodyOf false (latest inputs) ∧
      c.footer = footerOf (latest inputs) ∧
      ∀ group, c.buttonGroupCont = some group → ∃ buttons, (group, .row buttons) ∈ c.body := by
  intro c
  have follows : Follows (latest inputs) c :=
    follows_latest formed (Follows.empty {} rfl rfl rfl)
  have continues := follows.body
  refine ⟨?_, follows.footer, fun group active => ?_⟩
  · cases group : c.buttonGroupCont with
    | none =>
      rw [group] at continues
      have whole := continues []
      rw [List.append_nil] at whole
      rw [whole]
      exact (List.append_nil _).symm
    | some active =>
      rw [group] at continues
      obtain ⟨front, buttons, back, split, rest⟩ := continues
      have whole := rest []
      rw [List.append_nil] at whole
      rw [whole, split]
      simp [bodyOf, grouped]
  · rw [active] at continues
    obtain ⟨front, buttons, back, split, -⟩ := continues
    exact ⟨buttons, by simp [split]⟩

section Witness

/-- A group left open, a link reset in the middle of the prompt and a footer. -/
private def interrupted : List PromptInput :=
  [.line (.opens (bytes "Calibrate")), .line (.text (bytes "old")), .line (.opens (bytes "PID")),
    .line (.text (bytes "Extruder")), .line .groupStart,
    .line (.button (bytes "Go") (bytes "RUN") (some (bytes "primary"))), .linkReset,
    .line (.text (bytes "Bed")), .line (.button (bytes " Skip") (bytes "NEXT") none),
    .line (.footerButton (bytes "Cancel") (bytes "STOP") (some (bytes "error"))), .line .shows]

theorem card_holds_prompt_interrupted :
    (∀ input ∈ interrupted, input.WellFormed) ∧
      (run PromptCard.step {} interrupted).body.map Prod.snd =
        [.line (bytes "Extruder"),
          .row [⟨bytes "Go", bytes "RUN", .primary⟩, ⟨bytes "Skip", bytes "NEXT", .plain⟩],
          .line (bytes "Bed")] := by
  have formed : ∀ input ∈ interrupted, input.WellFormed := by
    simp only [interrupted, List.forall_mem_cons, List.not_mem_nil, false_implies, implies_true,
      PromptInput.WellFormed, PromptLine.WellFormed]
    decide
  exact ⟨formed, (card_holds_prompt interrupted formed).1.trans rfl⟩

end Witness

end Following

end GrumpyScreen
