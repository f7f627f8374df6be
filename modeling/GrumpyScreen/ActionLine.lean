import GrumpyScreen.Dialogue

/-! One action line at a time: what a line cut short leaves behind, and the button
a button line makes of its fields. -/

namespace GrumpyScreen

open Lib Lib.Exec PromptCard

/-- `notify_gcode_response`. -/
def gcodeResponse (resp : String) : Json :=
  .obj [("method", .str "notify_gcode_response"), ("params", .arr [.str resp])]

namespace PromptLine

/-- The line as it would be without an argument. -/
def emptied : PromptLine → PromptLine
  | .opens _ => .opens []
  | .text _ => .text []
  | .button .. => .button [] [] none
  | .footerButton .. => .footerButton [] [] none
  | line => line

/-- The word the line begins with. -/
def keyword : PromptLine → Bytes
  | .opens _ => bytes "prompt_begin"
  | .text _ => bytes "prompt_text"
  | .groupStart => bytes "prompt_button_group_start"
  | .groupEnd => bytes "prompt_button_group_end"
  | .button .. => bytes "prompt_button"
  | .footerButton .. => bytes "prompt_footer_button"
  | .shows => bytes "prompt_show"
  | .ends => bytes "prompt_end"

end PromptLine

/-- The response is no line of the protocol: cut short, without its blank or its bar, with
something behind a word that takes no argument, or no action at all. -/
def Malformed (resp : Bytes) : Prop := ∀ line : PromptLine, resp ≠ line.render

/-- Whatever follows the response is handled as without it. -/
def Unsent (resp : String) : Prop :=
  ∀ (c : PromptCard) (later : List PromptInput),
    run PromptCard.step (final (handleMacroResponse (gcodeResponse resp)) c) later =
      run PromptCard.step c later

/-- Whatever follows the response is handled as behind the line. -/
def SentAs (resp : String) (line : PromptLine) : Prop :=
  ∀ (c : PromptCard) (later : List PromptInput),
    run PromptCard.step (final (handleMacroResponse (gcodeResponse resp)) c) later =
      run PromptCard.step c (.line line :: later)

/-- The response does not throw, and what follows a malformed one is handled as
without it, or as behind the line of its keyword with an empty argument. -/
structure Tolerated (resp : String) : Prop where
  returns : ∀ c : PromptCard, Returns (handleMacroResponse (gcodeResponse resp)) c
  following : Malformed (bytes resp) → Unsent resp ∨
    ∃ line : PromptLine, bytes "// action:" ++ line.keyword <+: bytes resp ∧
      SentAs resp line.emptied

/-- Nothing of the text is shown. -/
def Unseen (text : Bytes) : Prop := ∀ first, text.head? = some first → first = 0

/-- A blank stands between the keyword and its argument, or one other character with nothing
to be shown behind it. -/
def SetOff (rest : Bytes) : Prop := ∃ first shown, rest = first :: shown ∧ (first = 32 ∨ Unseen shown)

/-- A blank stands between the keyword and its fields, or there is no bar behind it, or the
fields have neither a label nor a command nor a type with a style. -/
def FieldsSetOff (rest : Bytes) : Prop :=
  rest.head? = some 32 ∨ ∀ label more, rest = label ++ 124 :: more → 124 ∉ label →
    Unseen label ∧ Unseen (more.takeWhile (· ≠ 124)) ∧
      buttonStyle (more.dropWhile (· ≠ 124)).tail = .plain

/-- Behind the words that take one the response has its argument set off. -/
structure Spaced (resp : Bytes) : Prop where
  title : ∀ rest, resp = bytes "// action:prompt_begin" ++ rest → SetOff rest
  text : ∀ rest, resp = bytes "// action:prompt_text" ++ rest → SetOff rest
  button : ∀ rest, resp = bytes "// action:prompt_button" ++ rest →
    ¬ bytes "_group_start" <+: rest → ¬ bytes "_group_end" <+: rest → FieldsSetOff rest
  footerButton : ∀ rest, resp = bytes "// action:prompt_footer_button" ++ rest → FieldsSetOff rest

theorem handleMacroResponse_text (resp : String) :
    handleMacroResponse (gcodeResponse resp) = handleResponse (bytes resp) := rfl

section Throws

variable {command : Bytes} {c : PromptCard}

theorem handleButton_returns (command : Bytes) (c : PromptCard) :
    Returns (handleButton command) c := by
  unfold handleButton
  cases first : Text.find [124] (labelIndex command) command with
  | none =>
    simp only [first]
    exact ⟨.stay, rfl⟩
  | some indexFirst =>
    obtain ⟨behind, within⟩ := Text.find_within first
    have inside : indexFirst + 1 ≤ command.length := within
    have label := Text.substr_of_le (s := command) (show labelIndex command ≤ command.length by omega)
      (indexFirst - labelIndex command)
    simp only [first, label, orThrow_some, pure_bind]
    cases second : Text.find [124] (indexFirst + 1) command with
    | none =>
      simp only [Text.suffix_of_le inside, orThrow_some, pure_bind]
      exact ⟨.stay, rfl⟩
    | some indexSecond =>
      have closes : indexSecond + 1 ≤ command.length := (Text.find_within second).2
      simp only [Text.substr_of_le inside, Text.substr_of_le closes, orThrow_some, pure_bind]
      exact ⟨.stay, rfl⟩

theorem orThrow_suffix {pos : Nat} :
    Returns (orThrow (Text.suffix pos command)) c ↔ pos ≤ command.length := by
  constructor
  · rintro ⟨text, read⟩
    by_contra past
    rw [Text.suffix_of_lt (Nat.lt_of_not_le past)] at read
    cases read
  · intro within
    rw [Text.suffix_of_le within]
    exact ⟨_, rfl⟩

theorem argument_iff {keyword : Bytes} (starts : keyword <+: command) :
    keyword.length + 1 ≤ command.length ↔ command ≠ keyword := by
  constructor
  · rintro longer rfl
    omega
  · intro other
    have shorter : keyword.length ≠ command.length := fun same =>
      other (starts.eq_of_length same).symm
    have fits := starts.length_le
    omega

theorem handleAction_returns : Returns (handleAction command) c ↔
    command ≠ bytes "prompt_begin" ∧ command ≠ bytes "prompt_text" := by
  have quiet : ∀ {m : PromptExec PromptMove}, Returns m c →
      (bytes "prompt_begin").isPrefixOf command = false →
      (bytes "prompt_text").isPrefixOf command = false →
      (Returns m c ↔ command ≠ bytes "prompt_begin" ∧ command ≠ bytes "prompt_text") := by
    intro m returned noBegin noText
    refine iff_of_true returned ⟨?_, ?_⟩
    · rintro rfl
      cases noBegin
    · rintro rfl
      cases noText
  unfold handleAction
  split
  · rename_i begins
    have other : command ≠ bytes "prompt_text" := by
      rintro rfl
      cases begins
    rw [returns_seq (P := True) fun _ _ => iff_true_intro ⟨.stay, rfl⟩, and_true, orThrow_suffix,
      and_iff_left other]
    exact argument_iff (List.isPrefixOf_iff_prefix.mp begins)
  · rename_i noBegin
    have other : command ≠ bytes "prompt_begin" := by
      rintro rfl
      exact noBegin rfl
    split
    · rename_i texts
      rw [returns_seq (P := True) fun _ _ => iff_true_intro ⟨.stay, rfl⟩, and_true, orThrow_suffix,
        and_iff_right other]
      exact argument_iff (List.isPrefixOf_iff_prefix.mp texts)
    · rename_i noText
      apply quiet _ (Bool.not_eq_true _ ▸ noBegin) (Bool.not_eq_true _ ▸ noText)
      split
      · exact ⟨.stay, rfl⟩
      · split
        · exact ⟨.stay, rfl⟩
        · split
          · exact handleButton_returns command c
          · split
            · exact ⟨.shown, rfl⟩
            · split
              · exact ⟨.ended, rfl⟩
              · exact ⟨.stay, rfl⟩

theorem handleResponse_action (command : Bytes) :
    handleResponse (bytes "// action:" ++ command) = handleAction command := by
  have whole : Text.suffix 10 (bytes "// action:" ++ command) = some command :=
    Text.suffix_append (bytes "// action:") command
  unfold handleResponse
  rw [if_pos (by rfl), whole]
  rfl

theorem handleResponse_other {resp : Bytes} (other : ¬ bytes "// action:" <+: resp) :
    handleResponse resp = pure .stay := by
  unfold handleResponse
  rw [if_neg (by simpa using other)]

theorem handleResponse_returns {resp : Bytes} : Returns (handleResponse resp) c ↔
    resp ≠ bytes "// action:prompt_begin" ∧ resp ≠ bytes "// action:prompt_text" := by
  have spelled : ∀ keyword command : Bytes,
      bytes "// action:" ++ command ≠ bytes "// action:" ++ keyword ↔ command ≠ keyword :=
    fun keyword command => not_congr (List.append_right_inj _)
  by_cases acts : bytes "// action:" <+: resp
  · obtain ⟨command, rfl⟩ := acts
    have first : bytes "// action:prompt_begin" = bytes "// action:" ++ bytes "prompt_begin" := rfl
    have second : bytes "// action:prompt_text" = bytes "// action:" ++ bytes "prompt_text" := rfl
    rw [handleResponse_action, handleAction_returns, first, second, spelled, spelled]
  · rw [handleResponse_other acts]
    refine iff_of_true ⟨.stay, rfl⟩ ⟨?_, ?_⟩
    · rintro rfl
      exact acts ⟨bytes "prompt_begin", rfl⟩
    · rintro rfl
      exact acts ⟨bytes "prompt_text", rfl⟩

end Throws

section Keywords

variable {command rest : Bytes}

/-- The keywords, in the order they are looked for. -/
def keywords : List Bytes :=
  ["prompt_begin", "prompt_text", "prompt_button_group_start", "prompt_button_group_end",
    "prompt_footer_button", "prompt_button", "prompt_show", "prompt_end"].map bytes

theorem keyword_mem (line : PromptLine) : line.keyword ∈ keywords := by
  cases line <;> (simp only [PromptLine.keyword]; decide)

theorem keywords_apart : ∀ own ∈ keywords, ∀ other ∈ keywords,
    own <+: other → own = other ∨ own = bytes "prompt_button" ∧
      (other = bytes "prompt_button_group_start" ∨ other = bytes "prompt_button_group_end") := by
  decide

theorem action_eq (line : PromptLine) : ∃ argument, line.action = line.keyword ++ argument ∧
    (argument = [] ∨ ∃ fields, argument = 32 :: fields) := by
  have behind : ∀ (blank keyword fields : Bytes), blank = keyword ++ [32] →
      blank ++ fields = keyword ++ 32 :: fields := by
    rintro blank keyword fields rfl
    simp
  cases line with
  | opens title => exact ⟨_, behind (bytes "prompt_begin ") _ title (by rfl), .inr ⟨_, rfl⟩⟩
  | text shown => exact ⟨_, behind (bytes "prompt_text ") _ shown (by rfl), .inr ⟨_, rfl⟩⟩
  | button label buttonCommand kind =>
    exact ⟨_, behind (bytes "prompt_button ") _ _ (by rfl), .inr ⟨_, rfl⟩⟩
  | footerButton label buttonCommand kind =>
    exact ⟨_, behind (bytes "prompt_footer_button ") _ _ (by rfl), .inr ⟨_, rfl⟩⟩
  | _ => exact ⟨[], (List.append_nil _).symm, .inl rfl⟩

/-- A keyword that takes an argument, and what stands behind it is no word of a group. -/
structure Takes (own rest : Bytes) : Prop where
  keyword : own ∈ keywords
  argument : own ≠ bytes "prompt_button_group_start" ∧ own ≠ bytes "prompt_button_group_end"
  apart : own = bytes "prompt_button" → ¬ bytes "_group_start" <+: rest ∧ ¬ bytes "_group_end" <+: rest

theorem Takes.own {own : Bytes} (takes : Takes own rest) (line : PromptLine)
    (keyed : line.keyword <+: own ++ rest) : line.keyword = own := by
  rcases List.prefix_or_prefix_of_prefix keyed (List.prefix_append own rest) with short | long
  · rcases keywords_apart _ (keyword_mem line) _ takes.keyword short with same | ⟨-, start | close⟩
    · exact same
    · exact absurd start takes.argument.1
    · exact absurd close takes.argument.2
  · rcases keywords_apart _ takes.keyword _ (keyword_mem line) long with same | ⟨button, group⟩
    · exact same.symm
    · obtain ⟨noStart, noEnd⟩ := takes.apart button
      have grouped : ∀ word : Bytes, bytes "prompt_button" ++ word <+: bytes "prompt_button" ++ rest →
          word <+: rest := fun word => (List.prefix_append_right_inj _).mp
      rw [button] at keyed
      rcases group with start | close
      · rw [start] at keyed
        exact absurd (grouped _ keyed) noStart
      · rw [close] at keyed
        exact absurd (grouped _ keyed) noEnd

theorem Takes.malformed {own : Bytes} (takes : Takes own rest) (nonempty : rest ≠ [])
    (unset : rest.head? ≠ some 32) : Malformed (bytes "// action:" ++ (own ++ rest)) := by
  intro line same
  have action : own ++ rest = line.action := List.append_cancel_left same
  obtain ⟨argument, spelled, form⟩ := action_eq line
  have keyed : line.keyword <+: own ++ rest := ⟨argument, (action.trans spelled).symm⟩
  rw [spelled, takes.own line keyed] at action
  rcases form with none | ⟨fields, blank⟩
  · exact nonempty ((List.append_cancel_left action).trans none)
  · rw [List.append_cancel_left action, blank] at unset
    exact unset rfl

end Keywords

section Glued

variable {label more rest : Bytes} {c : PromptCard}

theorem unseen_iff {text : Bytes} : Unseen text ↔ cText text = [] := by
  cases text with
  | nil => simp [Unseen, cText]
  | cons first rest => simp [Unseen, cText, List.takeWhile_cons]

theorem handleAction_begins (first : UInt8) (shown : Bytes) (c : PromptCard) :
    final (handleAction (bytes "prompt_begin" ++ first :: shown)) c =
      { c.layoutReset with buttonGroupCont := none, header := cText shown } := by
  have argument : Text.suffix 13 (bytes "prompt_begin" ++ [first] ++ shown) = some shown :=
    Text.suffix_append (bytes "prompt_begin" ++ [first]) shown
  rw [List.append_assoc] at argument
  unfold handleAction
  rw [if_pos (by rfl)]
  have whole : Text.suffix 13 (bytes "prompt_begin" ++ first :: shown) = some shown := argument
  rw [whole]
  rfl

theorem handleAction_texts (first : UInt8) (shown : Bytes) (c : PromptCard) :
    final (handleAction (bytes "prompt_text" ++ first :: shown)) c = c.addText shown := by
  have argument : Text.suffix 12 (bytes "prompt_text" ++ [first] ++ shown) = some shown :=
    Text.suffix_append (bytes "prompt_text" ++ [first]) shown
  rw [List.append_assoc] at argument
  have whole : Text.suffix 12 (bytes "prompt_text" ++ first :: shown) = some shown := argument
  unfold handleAction
  rw [if_neg (by exact Bool.false_ne_true), if_pos (by rfl), whole]
  rfl

/-- The keyword of a button line. -/
def buttonWord (inFooter : Bool) : Bytes :=
  bytes (if inFooter then "prompt_footer_button" else "prompt_button")

theorem handleAction_buttonWord (inFooter : Bool)
    (apart : buttonWord inFooter = bytes "prompt_button" →
      ¬ bytes "_group_start" <+: rest ∧ ¬ bytes "_group_end" <+: rest) :
    handleAction (buttonWord inFooter ++ rest) = handleButton (buttonWord inFooter ++ rest) := by
  unfold handleAction
  cases inFooter with
  | true =>
    rw [if_neg (by exact Bool.false_ne_true), if_neg (by exact Bool.false_ne_true),
      if_neg (by exact Bool.false_ne_true), if_neg (by exact Bool.false_ne_true), if_pos (by rfl)]
  | false =>
    obtain ⟨noStart, noEnd⟩ := apart rfl
    have start : (bytes "prompt_button_group_start").isPrefixOf (buttonWord false ++ rest) =
        (bytes "_group_start").isPrefixOf rest := rfl
    have close : (bytes "prompt_button_group_end").isPrefixOf (buttonWord false ++ rest) =
        (bytes "_group_end").isPrefixOf rest := rfl
    rw [if_neg (by exact Bool.false_ne_true), if_neg (by exact Bool.false_ne_true), start, close,
      if_neg (by simpa using noStart), if_neg (by simpa using noEnd), if_pos (by rfl)]

theorem handleButton_barless (inFooter : Bool) (noBar : 124 ∉ rest) :
    handleButton (buttonWord inFooter ++ rest) = pure .stay := by
  have absent : 124 ∉ buttonWord inFooter ++ rest := by
    rw [List.mem_append, not_or]
    exact ⟨by cases inFooter <;> decide, noBar⟩
  have none : Text.find [124] (labelIndex (buttonWord inFooter ++ rest))
      (buttonWord inFooter ++ rest) = none := by
    cases found : Text.find [124] (labelIndex (buttonWord inFooter ++ rest))
        (buttonWord inFooter ++ rest) with
    | none => rfl
    | some place =>
      unfold Text.find at found
      split at found
      · rw [Text.search_absent fun member => absent ((List.drop_suffix _ _).subset member)] at found
        cases found
      · cases found
  simp only [handleButton, none]

theorem fields_split (more : Bytes) : ∃ kind : Option Bytes,
    more = more.takeWhile (· ≠ 124) ++ kind.elim [] (124 :: ·) ∧
      buttonStyle (kind.getD (bytes "none")) = buttonStyle (more.dropWhile (· ≠ 124)).tail := by
  have parts : more.takeWhile (· ≠ 124) ++ more.dropWhile (· ≠ 124) = more :=
    List.takeWhile_append_dropWhile
  cases behind : more.dropWhile (· ≠ 124) with
  | nil =>
    rw [behind] at parts
    exact ⟨none, parts.symm, by decide⟩
  | cons bar kind =>
    have bars : bar = 124 := by
      have first := List.head?_dropWhile_not (fun d : UInt8 => decide (d ≠ 124)) more
      rw [behind] at first
      simpa using first
    rw [behind, bars] at parts
    exact ⟨some kind, parts.symm, rfl⟩

theorem handleButton_glued (inFooter : Bool) (unset : rest.head? ≠ some 32)
    (split : rest = label ++ 124 :: more) (noBar : 124 ∉ label) (c : PromptCard) :
    final (handleButton (buttonWord inFooter ++ rest)) c = c.addButton inFooter
      ⟨cText label, cText (more.takeWhile (· ≠ 124)),
        buttonStyle (more.dropWhile (· ≠ 124)).tail⟩ := by
  obtain ⟨kind, whole, style⟩ := fields_split more
  have noBlank : rest.takeWhile (· = 32) = [] := by
    cases rest with
    | nil => rfl
    | cons first others =>
      have other : first ≠ 32 := fun same => unset (congrArg some same)
      exact List.takeWhile_cons_of_neg (by simpa using other)
  have index : labelIndex (buttonWord inFooter ++ rest) = (buttonWord inFooter).length := by
    have found : Text.find (bytes "button") 0 (buttonWord inFooter ++ rest) =
        some ((buttonWord inFooter).length - 6) := by cases inFooter <;> rfl
    have start : (buttonWord inFooter).length - 6 + 6 = (buttonWord inFooter).length := by
      cases inFooter <;> rfl
    simp only [labelIndex, found, Option.elim_some, start, List.drop_left, noBlank, List.length_nil,
      Nat.add_zero]
  have spelled : buttonWord inFooter ++ rest = buttonWord inFooter ++
      (label ++ 124 :: (more.takeWhile (· ≠ 124) ++ kind.elim [] (124 :: ·))) := by
    rw [← whole, split]
  have noBarAfter : 124 ∉ more.takeWhile (· ≠ 124) := fun member => by
    simpa using List.mem_takeWhile_imp member
  have place : (bytes "prompt_footer_button").isPrefixOf (buttonWord inFooter ++ rest) = inFooter := by
    cases inFooter <;> rfl
  have run := handleButton_split spelled index noBar noBarAfter c
  rw [place, style] at run
  exact congrArg Prod.snd run

theorem handleAction_unkeyed {command : Bytes} (unkeyed : ∀ keyword ∈ keywords, ¬ keyword <+: command)
    (c : PromptCard) : final (handleAction command) c = c := by
  simp only [keywords, List.map_cons, List.forall_mem_cons, ← List.isPrefixOf_iff_prefix,
    Bool.not_eq_true] at unkeyed
  obtain ⟨noBegin, noText, noStart, noGroupEnd, noFooter, noButton, noShow, noEnd, -⟩ := unkeyed
  simp only [handleAction, noBegin, noText, noStart, noGroupEnd, noFooter, noButton, noShow, noEnd,
    Bool.false_eq_true, if_false, Bool.or_self]
  rfl

end Glued

section Followed

variable {resp : String} {command rest : Bytes} {line : PromptLine}

/-- The card behind the response. -/
def behind (resp : String) (c : PromptCard) : PromptCard :=
  final (handleMacroResponse (gcodeResponse resp)) c

theorem behind_action (acts : bytes resp = bytes "// action:" ++ command) (c : PromptCard) :
    behind resp c = final (handleAction command) c := by
  rw [behind, handleMacroResponse_text, acts, handleResponse_action]

theorem unsent_iff : Unsent resp ↔ ∀ c, behind resp c = c :=
  ⟨fun unsent c => unsent c [], fun same c later => congrArg (run PromptCard.step · later) (same c)⟩

theorem sentAs_iff : SentAs resp line ↔ ∀ c, behind resp c = c.step (.line line) :=
  ⟨fun sent c => sent c [], fun same c later => congrArg (run PromptCard.step · later) (same c)⟩

theorem step_line (c : PromptCard) (line : PromptLine) :
    c.step (.line line) = final (handleAction line.action) c := by
  rw [PromptCard.step, handleResponse_render]

theorem step_opens (c : PromptCard) : c.step (.line (.opens [])) =
    { c.layoutReset with buttonGroupCont := none, header := [] } := by
  rw [step_line]
  exact congrArg Prod.snd (handleAction_opens [] c)

theorem step_text (c : PromptCard) : c.step (.line (.text [])) = c.addText [] := by
  rw [step_line]
  exact congrArg Prod.snd (handleAction_text [] c)

/-- The button line of a kind, without an argument. -/
def bareButton (inFooter : Bool) : PromptLine :=
  if inFooter then .footerButton [] [] none else .button [] [] none

theorem step_bareButton (inFooter : Bool) (c : PromptCard) :
    c.step (.line (bareButton inFooter)) = c.addButton inFooter ⟨[], [], .plain⟩ := by
  rw [step_line]
  have plain : (0 : UInt8) ∉ ([] : Bytes) ∧ (124 : UInt8) ∉ ([] : Bytes) := by simp
  cases inFooter with
  | true => exact congrArg Prod.snd (handleAction_footerButton ⟨plain, plain⟩ c)
  | false => exact congrArg Prod.snd (handleAction_button ⟨plain, plain⟩ c)

theorem followed (tolerated : Tolerated resp) {own : Bytes} (takes : Takes own rest)
    (acts : bytes resp = bytes "// action:" ++ (own ++ rest)) (nonempty : rest ≠ [])
    (unset : rest.head? ≠ some 32) : (∀ c, behind resp c = c) ∨
      ∃ line : PromptLine, line.keyword = own ∧ ∀ c, behind resp c = c.step (.line line.emptied) := by
  rcases tolerated.following (acts ▸ takes.malformed nonempty unset) with unsent | ⟨line, keyed, sent⟩
  · exact .inl (unsent_iff.mp unsent)
  · rw [acts, List.prefix_append_right_inj] at keyed
    exact .inr ⟨line, takes.own line keyed, sentAs_iff.mp sent⟩

theorem Tolerated.title (tolerated : Tolerated resp)
    (acts : bytes resp = bytes "// action:prompt_begin" ++ rest) : SetOff rest := by
  cases rest with
  | nil =>
    have returned := tolerated.returns {}
    rw [handleMacroResponse_text, acts, List.append_nil] at returned
    exact absurd rfl (handleResponse_returns.mp returned).1
  | cons first shown =>
    refine ⟨first, shown, rfl, ?_⟩
    by_cases blank : first = 32
    · exact .inl blank
    right
    have takes : Takes (bytes "prompt_begin") (first :: shown) :=
      ⟨by decide, by decide, fun no => absurd no (by decide)⟩
    have spelled : bytes resp = bytes "// action:" ++ (bytes "prompt_begin" ++ first :: shown) := acts
    have said : ∀ c, behind resp c =
        { c.layoutReset with buttonGroupCont := none, header := cText shown } := fun c => by
      rw [behind_action spelled, handleAction_begins]
    rcases followed tolerated takes spelled (by simp) (by simpa using blank) with same | ⟨line, own, as⟩
    · have cleared := (said _).symm.trans (same { body := [(0, .line [])] })
      cases congrArg PromptCard.body cleared
    · cases line with
      | opens title =>
        have titles := (said {}).symm.trans ((as {}).trans (step_opens {}))
        exact unseen_iff.mpr (congrArg PromptCard.header titles)
      | _ => exact absurd own (by simp only [PromptLine.keyword]; decide)

theorem Tolerated.text (tolerated : Tolerated resp)
    (acts : bytes resp = bytes "// action:prompt_text" ++ rest) : SetOff rest := by
  cases rest with
  | nil =>
    have returned := tolerated.returns {}
    rw [handleMacroResponse_text, acts, List.append_nil] at returned
    exact absurd rfl (handleResponse_returns.mp returned).2
  | cons first shown =>
    refine ⟨first, shown, rfl, ?_⟩
    by_cases blank : first = 32
    · exact .inl blank
    right
    have takes : Takes (bytes "prompt_text") (first :: shown) :=
      ⟨by decide, by decide, fun no => absurd no (by decide)⟩
    have spelled : bytes resp = bytes "// action:" ++ (bytes "prompt_text" ++ first :: shown) := acts
    have said : ∀ c, behind resp c = c.addText shown := fun c => by
      rw [behind_action spelled, handleAction_texts]
    rcases followed tolerated takes spelled (by simp) (by simpa using blank) with same | ⟨line, own, as⟩
    · cases congrArg PromptCard.body ((said {}).symm.trans (same {}))
    · cases line with
      | text other =>
        have lines := congrArg PromptCard.body
          ((said {}).symm.trans ((as {}).trans (step_text {})))
        have shown : cText shown = cText [] := by simpa [addText, addChild] using lines
        exact unseen_iff.mpr shown
      | _ => exact absurd own (by simp only [PromptLine.keyword]; decide)

theorem buttonWord_takes (inFooter : Bool) (apart : buttonWord inFooter = bytes "prompt_button" →
    ¬ bytes "_group_start" <+: rest ∧ ¬ bytes "_group_end" <+: rest) :
    Takes (buttonWord inFooter) rest := by
  refine ⟨?_, ?_, apart⟩
  · cases inFooter <;> decide
  · cases inFooter <;> decide

theorem Tolerated.fields (tolerated : Tolerated resp) (inFooter : Bool)
    (acts : bytes resp = bytes "// action:" ++ (buttonWord inFooter ++ rest))
    (apart : buttonWord inFooter = bytes "prompt_button" →
      ¬ bytes "_group_start" <+: rest ∧ ¬ bytes "_group_end" <+: rest) : FieldsSetOff rest := by
  by_cases unset : rest.head? = some 32
  · exact .inl unset
  refine .inr fun label more split noBar => ?_
  have said : ∀ c, behind resp c = c.addButton inFooter
      ⟨cText label, cText (more.takeWhile (· ≠ 124)),
        buttonStyle (more.dropWhile (· ≠ 124)).tail⟩ := fun c => by
    rw [behind_action acts, handleAction_buttonWord inFooter apart,
      handleButton_glued inFooter unset split noBar]
  -- on an empty card the button is the only one
  have only : ∀ button : PromptButton, (({} : PromptCard).addButton inFooter button).footer ++
      (({} : PromptCard).addButton inFooter button).body.flatMap
        (fun child => match child.2 with | .button held => [held] | _ => []) = [button] := by
    intro button
    cases inFooter <;> rfl
  have nonempty : rest ≠ [] := by
    rw [split]
    simp
  rcases followed tolerated (buttonWord_takes inFooter apart) acts nonempty unset with
    same | ⟨line, own, as⟩
  · have none := only ⟨cText label, cText (more.takeWhile (· ≠ 124)),
      buttonStyle (more.dropWhile (· ≠ 124)).tail⟩
    rw [← said {}, same {}] at none
    cases none
  · have bare : line.emptied = bareButton inFooter := by
      cases inFooter with
      | true =>
        cases line with
        | footerButton label command kind => rfl
        | _ => exact absurd own (by simp only [PromptLine.keyword]; decide)
      | false =>
        cases line with
        | button label command kind => rfl
        | _ => exact absurd own (by simp only [PromptLine.keyword]; decide)
    rw [bare] at as
    have added := only ⟨cText label, cText (more.takeWhile (· ≠ 124)),
      buttonStyle (more.dropWhile (· ≠ 124)).tail⟩
    rw [← said {}, as {}, step_bareButton, only] at added
    obtain ⟨noLabel, noCommand, style⟩ := PromptButton.mk.inj (List.singleton_injective added)
    exact ⟨unseen_iff.mpr noLabel.symm, unseen_iff.mpr noCommand.symm, style.symm⟩

theorem Spaced.returns (spaced : Spaced (bytes resp)) (c : PromptCard) :
    Returns (handleMacroResponse (gcodeResponse resp)) c := by
  rw [handleMacroResponse_text, handleResponse_returns]
  constructor
  · intro bare
    obtain ⟨first, shown, no, -⟩ := spaced.title [] (bare.trans (List.append_nil _).symm)
    cases no
  · intro bare
    obtain ⟨first, shown, no, -⟩ := spaced.text [] (bare.trans (List.append_nil _).symm)
    cases no

theorem fields_followed (malformed : Malformed (bytes resp)) (inFooter : Bool)
    (acts : bytes resp = bytes "// action:" ++ (buttonWord inFooter ++ rest))
    (apart : buttonWord inFooter = bytes "prompt_button" →
      ¬ bytes "_group_start" <+: rest ∧ ¬ bytes "_group_end" <+: rest)
    (setOff : FieldsSetOff rest) : Unsent resp ∨ SentAs resp (bareButton inFooter) := by
  have said : ∀ c, behind resp c = final (handleButton (buttonWord inFooter ++ rest)) c := fun c => by
    rw [behind_action acts, handleAction_buttonWord inFooter apart]
  by_cases bar : 124 ∈ rest
  · by_cases blank : rest.head? = some 32
    · obtain ⟨tail, rfl⟩ := List.head?_eq_some_iff.mp blank
      have inTail : 124 ∈ tail := by simpa using bar
      obtain ⟨label, more, split⟩ := List.append_of_mem inTail
      have whole : PromptLine.fields label more none = tail := by
        rw [split, PromptLine.fields, Option.elim_none, List.append_nil]
      rw [← whole] at acts
      cases inFooter with
      | true => exact absurd acts (malformed (.footerButton label more none))
      | false => exact absurd acts (malformed (.button label more none))
    · obtain ⟨label, more, split, noBar⟩ := List.eq_append_cons_of_mem bar
      obtain ⟨noLabel, noCommand, style⟩ := setOff.resolve_left blank label more split noBar
      refine .inr (sentAs_iff.mpr fun c => ?_)
      rw [said, handleButton_glued inFooter blank split noBar, unseen_iff.mp noLabel,
        unseen_iff.mp noCommand, style, step_bareButton]
  · refine .inl (unsent_iff.mpr fun c => ?_)
    rw [said, handleButton_barless inFooter bar]
    rfl

/-- A response that is handled as its keyword alone. -/
theorem keyword_followed (line : PromptLine)
    (acts : bytes resp = bytes "// action:" ++ (line.keyword ++ rest))
    (same : ∀ c, final (handleAction (line.keyword ++ rest)) c = c.step (.line line.emptied)) :
    ∃ line : PromptLine, bytes "// action:" ++ line.keyword <+: bytes resp ∧
      SentAs resp line.emptied := by
  refine ⟨line, ?_, sentAs_iff.mpr fun c => (behind_action acts c).trans (same c)⟩
  rw [acts]
  exact (List.prefix_append_right_inj _).mpr (List.prefix_append _ _)

theorem Spaced.following (spaced : Spaced (bytes resp)) (malformed : Malformed (bytes resp)) :
    Unsent resp ∨ ∃ line : PromptLine, bytes "// action:" ++ line.keyword <+: bytes resp ∧
      SentAs resp line.emptied := by
  by_cases acts : bytes "// action:" <+: bytes resp
  · obtain ⟨command, acts⟩ := acts
    have acts := acts.symm
    by_cases begins : bytes "prompt_begin" <+: command
    · obtain ⟨rest, rfl⟩ := begins
      obtain ⟨first, shown, rfl, rfl | unseen⟩ := spaced.title rest acts
      · exact absurd acts (malformed (.opens shown))
      · refine .inr (keyword_followed (.opens []) acts fun c => ?_)
        refine (handleAction_begins first shown c).trans ?_
        rw [unseen_iff.mp unseen]
        exact (step_opens c).symm
    by_cases texts : bytes "prompt_text" <+: command
    · obtain ⟨rest, rfl⟩ := texts
      obtain ⟨first, shown, rfl, rfl | unseen⟩ := spaced.text rest acts
      · exact absurd acts (malformed (.text shown))
      · refine .inr (keyword_followed (.text []) acts fun c => ?_)
        refine (handleAction_texts first shown c).trans ?_
        rw [PromptLine.emptied, step_text, PromptCard.addText, unseen_iff.mp unseen]
        rfl
    by_cases starts : bytes "prompt_button_group_start" <+: command
    · obtain ⟨rest, rfl⟩ := starts
      exact .inr (keyword_followed .groupStart acts fun c => rfl)
    by_cases closes : bytes "prompt_button_group_end" <+: command
    · obtain ⟨rest, rfl⟩ := closes
      exact .inr (keyword_followed .groupEnd acts fun c => rfl)
    by_cases footer : bytes "prompt_footer_button" <+: command
    · obtain ⟨rest, rfl⟩ := footer
      refine (fields_followed malformed true acts (fun no => absurd no (by decide))
        (spaced.footerButton rest acts)).imp_right fun sent => ?_
      exact keyword_followed (.footerButton [] [] none) acts fun c =>
        (behind_action acts c).symm.trans (sentAs_iff.mp sent c)
    by_cases button : bytes "prompt_button" <+: command
    · obtain ⟨rest, rfl⟩ := button
      have noStart : ¬ bytes "_group_start" <+: rest := fun group =>
        starts ((List.prefix_append_right_inj (bytes "prompt_button")).mpr group)
      have noEnd : ¬ bytes "_group_end" <+: rest := fun group =>
        closes ((List.prefix_append_right_inj (bytes "prompt_button")).mpr group)
      refine (fields_followed malformed false acts (fun _ => ⟨noStart, noEnd⟩)
        (spaced.button rest acts noStart noEnd)).imp_right fun sent => ?_
      exact keyword_followed (.button [] [] none) acts fun c =>
        (behind_action acts c).symm.trans (sentAs_iff.mp sent c)
    by_cases shows : bytes "prompt_show" <+: command
    · obtain ⟨rest, rfl⟩ := shows
      exact .inr (keyword_followed .shows acts fun c => rfl)
    by_cases ends : bytes "prompt_end" <+: command
    · obtain ⟨rest, rfl⟩ := ends
      exact .inr (keyword_followed .ends acts fun c => rfl)
    refine .inl (unsent_iff.mpr fun c => ?_)
    rw [behind_action acts]
    apply handleAction_unkeyed
    simp only [keywords, List.map_cons, List.forall_mem_cons]
    exact ⟨begins, texts, starts, closes, footer, button, shows, ends, List.forall_mem_nil _⟩
  · refine .inl (unsent_iff.mpr fun c => ?_)
    rw [behind, handleMacroResponse_text, handleResponse_other acts]
    rfl

end Followed

section Buttons

/-- `PromptPanel::handle_callback`: the script in the hidden label is sent. -/
def handleCallback (button : PromptButton) : Bytes := button.command

def BodyItem.buttons : BodyItem → List PromptButton
  | .line _ => []
  | .button held => [held]
  | .row buttons => buttons

/-- The buttons above the footer, first to last. -/
def PromptCard.bodyButtons (c : PromptCard) : List PromptButton :=
  c.body.flatMap fun child => child.2.buttons

/-- Any response, or a lost link. -/
inductive PromptSignal where
  | response (resp : Bytes)
  | linkReset

def PromptCard.receive (c : PromptCard) : PromptSignal → PromptCard
  | .response resp => final (handleResponse resp) c
  | .linkReset => c.reset

/-- The children are told apart by their addresses and the active group is one of
the rows. -/
structure Attached (c : PromptCard) : Prop where
  addresses : (c.body.map Prod.fst).Nodup
  allocated : ∀ child ∈ c.body, child.1 < c.allocated
  group : ∀ row, c.buttonGroupCont = some row → ∃ buttons, (row, .row buttons) ∈ c.body

/-- What every operation of the panel keeps. -/
structure KeptByLines (I : PromptCard → Prop) : Prop where
  opened : ∀ c header, I c → I { c.layoutReset with buttonGroupCont := none, header := header }
  text : ∀ c shown, I c → I (c.addText shown)
  row : ∀ c, I c → I c.addButtonRow
  closed : ∀ c, I c → I { c with buttonGroupCont := none }
  button : ∀ c inFooter button, I c → I (c.addButton inFooter button)
  shown : ∀ c showing header, I c → I { c with showing := showing, header := header }

variable {I : PromptCard → Prop}

theorem orThrow_preserves (part : Option Bytes) : Preserves I (orThrow part) :=
  Preserves.ofExcept _

theorem handleButton_preserves (kept : KeptByLines I) (command : Bytes) :
    Preserves I (handleButton command) := by
  simp only [handleButton]
  split
  · exact Preserves.pure _
  · refine (orThrow_preserves _).bind fun label => ?_
    split
    · refine (orThrow_preserves _).bind fun buttonCommand => ?_
      exact (orThrow_preserves _).bind fun kind c holds => kept.button c _ _ holds
    · exact (orThrow_preserves _).bind fun buttonCommand c holds => kept.button c _ _ holds

theorem handleAction_preserves (kept : KeptByLines I) (command : Bytes) :
    Preserves I (handleAction command) := by
  apply Preserves.ite
  · exact (orThrow_preserves _).bind fun header c holds => kept.opened c _ holds
  apply Preserves.ite
  · exact (orThrow_preserves _).bind fun text c holds => kept.text c text holds
  apply Preserves.ite
  · exact fun c holds => kept.row c holds
  apply Preserves.ite
  · exact fun c holds => kept.closed c holds
  apply Preserves.ite
  · exact handleButton_preserves kept command
  apply Preserves.ite
  · exact fun c holds => kept.shown c true c.header holds
  apply Preserves.ite
  · exact fun c holds => kept.shown _ false [] (kept.opened c [] holds)
  · exact Preserves.pure _

theorem receive_preserves (kept : KeptByLines I) (c : PromptCard) (signal : PromptSignal)
    (holds : I c) : I (c.receive signal) := by
  cases signal with
  | linkReset => exact kept.shown c false [] holds
  | response resp =>
    have post : Preserves I (handleResponse resp) :=
      Preserves.ite ((orThrow_preserves _).bind fun command => handleAction_preserves kept command)
        (Preserves.pure _)
    exact post.final holds

theorem Attached.child {c : PromptCard} (attached : Attached c) (item : BodyItem)
    {group : Option Nat}
    (active : ∀ row, group = some row →
      ∃ buttons, (row, .row buttons) ∈ c.body ++ [(c.allocated, item)]) :
    Attached { c.addChild item with buttonGroupCont := group } where
  addresses := addChild_addresses attached.addresses attached.allocated item
  allocated := addChild_allocated attached.allocated item
  group := active

theorem Attached.addButton {c : PromptCard} (attached : Attached c) (button : PromptButton) :
    Attached (c.addButton false button) ∧
      ∃ front back, c.bodyButtons = front ++ back ∧
        (c.addButton false button).bodyButtons = front ++ button :: back := by
  cases active : c.buttonGroupCont with
  | none =>
    have added : c.addButton false button =
        { c.addChild (.button button) with buttonGroupCont := none } := by
      simp [PromptCard.addButton, active, addChild]
    rw [added]
    refine ⟨attached.child _ (fun _ no => by cases no), c.bodyButtons, [], (List.append_nil _).symm, ?_⟩
    simp [bodyButtons, addChild, BodyItem.buttons]
  | some row =>
    obtain ⟨buttons, member⟩ := attached.group row active
    obtain ⟨front, back, whole⟩ := List.append_of_mem member
    have distinct := attached.addresses
    have allocated := attached.allocated
    rw [whole] at distinct allocated
    have added : c.addButton false button =
        { c with body := front ++ (row, .row (buttons ++ [button])) :: back } := by
      simp only [PromptCard.addButton, active, Bool.false_eq_true, if_false]
      rw [whole, map_onRow distinct]
    rw [added]
    refine ⟨⟨by simpa using distinct, ?_, ?_⟩, ?_⟩
    · simpa [or_imp, forall_and] using allocated
    · intro other same
      cases Option.some.inj (active.symm.trans same)
      exact ⟨buttons ++ [button], by simp⟩
    · refine ⟨front.flatMap (fun child => child.2.buttons) ++ buttons,
        back.flatMap (fun child => child.2.buttons), ?_, ?_⟩
      · simp [bodyButtons, whole, BodyItem.buttons]
      · simp [bodyButtons, BodyItem.buttons]

theorem attached_kept : KeptByLines Attached where
  opened c header attached := ⟨List.nodup_nil, (fun _ no => nomatch no), (fun _ no => nomatch no)⟩
  text c shown attached := attached.child _ fun row active => by
    obtain ⟨buttons, member⟩ := attached.group row active
    exact ⟨buttons, List.mem_append_left _ member⟩
  row c attached := attached.child _ fun row active => by
    cases active
    exact ⟨[], List.mem_append_right _ (List.mem_singleton.mpr rfl)⟩
  closed c attached := ⟨attached.addresses, attached.allocated, fun _ no => nomatch no⟩
  button c inFooter button attached := by
    cases inFooter with
    | true => exact ⟨attached.addresses, attached.allocated, attached.group⟩
    | false => exact (attached.addButton button).1
  shown c showing header attached := ⟨attached.addresses, attached.allocated, attached.group⟩

theorem attached_run (signals : List PromptSignal) :
    Attached (run PromptCard.receive {} signals) := by
  have initial : Attached {} :=
    ⟨List.nodup_nil, (fun _ no => nomatch no), (fun _ no => nomatch no)⟩
  exact run_invariant (receive_preserves attached_kept) initial signals

/-- The response of a button line. -/
def buttonLine (inFooter : Bool) (label command : Bytes) (kind : Option Bytes) : Bytes :=
  bytes "// action:" ++ bytes (if inFooter then "prompt_footer_button " else "prompt_button ") ++
    PromptLine.fields label command kind

/-- Whatever came before, a button line makes one button of exactly its fields:
in the footer for the footer form, above it for the plain form. -/
theorem buttonLine_button (signals : List PromptSignal) (inFooter : Bool) (label command : Bytes)
    (kind : Option Bytes) (labelPlain : 0 ∉ label ∧ 124 ∉ label) (unpadded : label.head? ≠ some 32)
    (commandPlain : 0 ∉ command ∧ 124 ∉ command) :
    let c := run PromptCard.receive {} signals
    let after := final (handleResponse (buttonLine inFooter label command kind)) c
    Returns (handleResponse (buttonLine inFooter label command kind)) c ∧
      ∃ button : PromptButton, button.label = label ∧ handleCallback button = command ∧
        button.style = buttonStyle (kind.getD (bytes "none")) ∧
        if inFooter then after.footer = c.footer ++ [button] ∧ after.bodyButtons = c.bodyButtons
        else after.footer = c.footer ∧
          ∃ front back, c.bodyButtons = front ++ back ∧ after.bodyButtons = front ++ button :: back := by
  intro c after
  have whole : label.dropWhile (· = 32) = label := by
    cases label with
    | nil => rfl
    | cons first rest =>
      have other : first ≠ 32 := fun same => unpadded (congrArg some same)
      exact List.dropWhile_cons_of_neg (by simpa using other)
  have said : Exec.exec (handleResponse (buttonLine inFooter label command kind)) c =
      (.ok .stay, c.addButton inFooter (PromptLine.shownButton label command kind)) := by
    cases inFooter with
    | true =>
      have formed : (PromptLine.footerButton label command kind).WellFormed := ⟨labelPlain, commandPlain⟩
      rw [← handleAction_footerButton formed, ← handleResponse_render]
      rfl
    | false =>
      have formed : (PromptLine.button label command kind).WellFormed := ⟨labelPlain, commandPlain⟩
      rw [← handleAction_button formed, ← handleResponse_render]
      rfl
  have reached : after = c.addButton inFooter (PromptLine.shownButton label command kind) :=
    congrArg Prod.snd said
  refine ⟨⟨.stay, congrArg Prod.fst said⟩, PromptLine.shownButton label command kind, whole, rfl, rfl, ?_⟩
  rw [reached]
  cases inFooter with
  | true => exact ⟨rfl, rfl⟩
  | false =>
    refine ⟨?_, ((attached_run signals).addButton _).2⟩
    simp only [PromptCard.addButton, Bool.false_eq_true, if_false]
    split
    · rfl
    · rfl

/-- A label of the searched word, in a group that was started before. -/
theorem buttonLine_button_words :
    let signals := [PromptSignal.response (bytes "// action:prompt_button_group_start")]
    let after := final (handleResponse (buttonLine false (bytes "button") [] (some (bytes "error"))))
      (run PromptCard.receive {} signals)
    ∃ button : PromptButton, button.label = bytes "button" ∧ handleCallback button = [] ∧
      button.style = .error ∧ after.footer = [] ∧ after.bodyButtons = [button] := by
  obtain ⟨-, button, label, command, style, footer, front, back, before, now⟩ :=
    buttonLine_button [.response (bytes "// action:prompt_button_group_start")] false (bytes "button")
      [] (some (bytes "error")) (by decide) (by decide) (by decide)
  obtain ⟨rfl, rfl⟩ := List.append_eq_nil_iff.mp before.symm
  exact ⟨button, label, command, style, footer, now⟩

end Buttons

end GrumpyScreen
