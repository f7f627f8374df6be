import GrumpyScreen.KeypadNumber
import GrumpyScreen.Questions
import GrumpyScreen.Selections

/-! What a command may ask of the printer: the limits every command of a run keeps,
and who sends it. -/

namespace GrumpyScreen

open Lib Lib.Exec

/-- The range the slider widget is built with. -/
def Slider.lo : Slider → Int
  | .fan _ => 0 | .tuneSpeed => 50 | .loadLength => 50

def Slider.hi : Slider → Int
  | .fan _ => 100 | .tuneSpeed => 200 | .loadLength => 300

/-- A slider is released at a value of its range. -/
def Event.InRange {J : Type} : Event J → Prop
  | .slider control value => control.lo ≤ value ∧ value ≤ control.hi
  | _ => True

/-- The values a script may carry, with the nozzle at the temperature reported last. -/
def Script.Within (nozzle : Int) : Script → Prop
  | .jog _ _ step => ∃ i, step = stepValue i
  | .loadFilament temp length => (∃ i, temp = filTemp i) ∧ 50 ≤ length ∧ length ≤ 300
  | .unloadFilament temp => ∃ i, temp = filTemp i
  | .extrude | .retract => minExtrudeTemp ≤ nozzle
  | .heaterTarget .extruder target => 0 ≤ target ∧ target ≤ 300
  | .heaterTarget .bed target => 0 ≤ target ∧ target ≤ 120
  | .speedFactor percent => 10 ≤ percent ∧ percent ≤ 300
  | .flowFactor percent => 50 ≤ percent ∧ percent ≤ 200
  | .partFan duty => 0 ≤ duty ∧ duty ≤ 255
  | .pressureAdvance advance => 0 ≤ advance ∧ advance ≤ 1.0
  | .zOffset offset => 0 ≤ offset ∧ offset.isInf = false
  | .fanSpeed name speed =>
    (name = "model_helper_fan" ∨ name = "box_fan") ∧ 0 ≤ speed ∧ speed ≤ 1.0
  | .led name level =>
    (name = "case" ∨ name = "hotend") ∧ (level = "0" ∨ level = "0.5" ∨ level = "1.0")
  | _ => True

def Command.Within (nozzle : Int) : Command → Prop
  | .gcode script => script.Within nozzle
  | _ => True

/-- The calls send nothing beyond the limits. -/
def Limited (nozzle : Int) (effects : List Effect) : Prop :=
  ∀ command ∈ commandsOf effects, command.Within nozzle

section Values

theorem clampInt_within {lo hi : Int} (range : lo ≤ hi) (v : Int) :
    lo ≤ clampInt lo hi v ∧ clampInt lo hi v ≤ hi := by
  unfold clampInt
  split
  · exact ⟨le_rfl, range⟩
  · split <;> omega

theorem stod_nonneg {text : String} {v : Float} (read : stod text = some v) :
    0 ≤ v ∧ v.isNaN = false ∧ v.isInf = false := by
  replace read := stod_some read
  cases typed : typedNumber text with
  | none =>
    rw [nearestDouble_untyped typed] at read
    cases read
  | some x =>
    obtain ⟨w, gives, same⟩ := nearestDouble_typed typed
    rw [same] at read
    split at read
    · cases read
    · next finite =>
      cases read
      obtain ⟨r, -, held | ⟨-, infinite⟩⟩ := gives
      · exact ⟨held.zero_le, held.isNaN, held.isInf⟩
      · have inf : v.isInf = true := by
          show v.toModel.unpack.isInf = true
          rw [infinite]
          rfl
        exact absurd inf finite

theorem clamped_unit {v : Float} (number : v.isNaN = false) :
    0 ≤ (if v < 0 then 0 else if v > 1.0 then 1.0 else v) ∧
      (if v < 0 then 0 else if v > 1.0 then 1.0 else v) ≤ 1.0 := by
  have unit : (0 : Float) ≤ 0 ∧ (0 : Float) ≤ 1.0 ∧ (1.0 : Float) ≤ 1.0 := by decide +kernel
  split
  · exact ⟨unit.1, unit.2.1⟩
  · next low =>
    split
    · exact unit.2
    · next high =>
      exact ⟨Ieee.le_of_not_lt number rfl low, Ieee.le_of_not_lt rfl number high⟩

theorem fanSpeed_unit {v : Int} (low : 0 ≤ v) (high : v ≤ 100) :
    0 ≤ Float.ofInt v / 100.0 ∧ Float.ofInt v / 100.0 ≤ 1.0 := by
  have each : ∀ i : Fin 101, 0 ≤ Float.ofInt (i.val : Int) / 100.0 ∧
      Float.ofInt (i.val : Int) / 100.0 ≤ 1.0 := by decide +kernel
  obtain ⟨n, rfl⟩ := Int.eq_ofNat_of_zero_le low
  exact each ⟨n, by omega⟩

end Values

/-- What is selected stays within the limits of the commands it goes into. -/
structure Selection.Sound (s : Selection) : Prop where
  step : ∃ i, s.step = stepValue i
  least : 50 ≤ s.length
  most : s.length ≤ 300

section Handlers

variable {L : Type → Type} [Layer L] {p : Panel L} {nozzle : Int}

theorem limited_nil : Limited nozzle [] := by
  intro command member
  cases member

theorem Limited.cons {effect : Effect} {rest : List Effect}
    (first : ∀ command ∈ effect.commands, command.Within nozzle) (others : Limited nozzle rest) :
    Limited nozzle (effect :: rest) := by
  intro command member
  rw [commandsOf, List.flatMap_cons] at member
  rcases List.mem_append.mp member with called | later
  · exact first command called
  · exact others command later

theorem Limited.command {effect : Effect} {c : Command} {rest : List Effect}
    (sends : effect.commands = [c]) (within : c.Within nozzle) (others : Limited nozzle rest) :
    Limited nozzle (effect :: rest) := by
  refine Limited.cons ?_ others
  intro sent member
  rw [sends] at member
  cases List.mem_singleton.mp member
  exact within

theorem Limited.script {effect : Effect} {s : Script} {rest : List Effect}
    (sends : effect.commands = [.gcode s]) (within : s.Within nozzle)
    (others : Limited nozzle rest) : Limited nozzle (effect :: rest) :=
  Limited.command sends within others

theorem Limited.silent {effect : Effect} {rest : List Effect} (silent : effect.commands = [])
    (others : Limited nozzle rest) : Limited nozzle (effect :: rest) := by
  refine Limited.cons ?_ others
  intro command member
  rw [silent] at member
  cases member

theorem limited_one {effect : Effect} {s : Script} (sends : effect.commands = [.gcode s])
    (within : s.Within nozzle) : Limited nozzle [effect] :=
  Limited.script sends within limited_nil

theorem limited_none {effects : List Effect} (silent : commandsOf effects = []) :
    Limited nozzle effects := by
  intro command member
  rw [silent] at member
  cases member

theorem preset_cases (i : Fin 3) : i = 0 ∨ i = 1 ∨ i = 2 := by omega

theorem filTemp_limits (i : Fin 3) : 0 ≤ filTemp i ∧ filTemp i ≤ 300 := by
  rcases preset_cases i with rfl | rfl | rfl
  · decide
  · decide
  · decide

theorem moveEffects_limited {step : Float} (known : ∃ i, step = stepValue i) (button : MoveButton) :
    Limited nozzle (moveEffects step button) := by
  cases button with
  | homeXy | homeAll => exact limited_one rfl trivial
  | motorsOff => exact limited_one rfl trivial
  | _ => exact limited_one rfl known

theorem subTap_limited (sound : p.ui.selection.Sound) (button : SubButton) :
    Limited p.dash.cache.nozzle (subTap p button) := by
  cases button with
  | move button =>
    simp only [subTap]
    split
    · exact limited_nil
    · exact moveEffects_limited sound.step button
  | load => exact limited_one rfl ⟨⟨_, rfl⟩, sound.least, sound.most⟩
  | unload => exact limited_one rfl ⟨_, rfl⟩
  | extrude | retract =>
    simp only [subTap]
    split
    · exact limited_none rfl
    · next hot => exact limited_one rfl (Int.not_lt.mp hot)
  | material i => exact Limited.silent rfl (limited_one rfl (filTemp_limits i))
  | cooldown => exact limited_one rfl trivial
  | nzPreset i => exact limited_one rfl (filTemp_limits i)
  | nzOff => exact limited_one rfl ⟨le_rfl, by decide⟩
  | bdPreset i =>
    refine limited_one rfl ?_
    rcases preset_cases i with rfl | rfl | rfl
    · exact ⟨by decide, by decide⟩
    · exact ⟨by decide, by decide⟩
    · exact ⟨by decide, by decide⟩
  | bdOff => exact limited_one rfl ⟨le_rfl, by decide⟩
  | nzMinus | nzPlus => exact limited_one rfl (clampInt_within (by decide) _)
  | bdMinus | bdPlus => exact limited_one rfl (clampInt_within (by decide) _)
  | standard | omega =>
    simp only [subTap]
    split
    · exact limited_none rfl
    · exact Limited.silent rfl (Limited.script rfl trivial (limited_none rfl))
  | cal i =>
    simp only [subTap]
    split
    · exact limited_none rfl
    · split
      · exact limited_none rfl
      · split <;> exact limited_none rfl
  | system wire =>
    simp only [subTap, populateSystem]
    split <;> exact limited_none rfl
  | integrity =>
    simp only [subTap]
    split <;> exact limited_none rfl
  | install =>
    simp only [subTap]
    split
    · exact limited_nil
    · split <;> exact limited_none rfl
  | lightCase i =>
    refine Limited.script rfl ⟨Or.inl rfl, ?_⟩ (limited_none rfl)
    rcases preset_cases i with rfl | rfl | rfl
    · exact Or.inl rfl
    · exact Or.inr (Or.inl rfl)
    · exact Or.inr (Or.inr rfl)
  | lightHot i =>
    refine Limited.script rfl ⟨Or.inr rfl, ?_⟩ (limited_none rfl)
    rcases preset_cases i with rfl | rfl | rfl
    · exact Or.inl rfl
    · exact Or.inr (Or.inl rfl)
    · exact Or.inr (Or.inr rfl)
  | speedP i =>
    refine Limited.script rfl ?_ (limited_none rfl)
    rcases preset_cases i with rfl | rfl | rfl
    · exact ⟨by decide, by decide⟩
    · exact ⟨by decide, by decide⟩
    · exact ⟨by decide, by decide⟩
  | flowP i =>
    refine Limited.script rfl ?_ (limited_none rfl)
    rcases preset_cases i with rfl | rfl | rfl
    · exact ⟨by decide, by decide⟩
    · exact ⟨by decide, by decide⟩
    · exact ⟨by decide, by decide⟩
  | fanP i =>
    refine Limited.script rfl ?_ (limited_none rfl)
    rcases preset_cases i with rfl | rfl | rfl
    · exact ⟨by decide, by decide⟩
    · exact ⟨by decide, by decide⟩
    · exact ⟨by decide, by decide⟩
  | zoffMinus | zoffPlus => exact Limited.script rfl trivial (limited_none rfl)
  | _ => exact limited_none rfl

theorem homeTap_limited (button : HomeButton) : Limited nozzle (homeTap p button) := by
  cases button with
  | pauseStop =>
    simp only [homeTap]
    split
    · exact limited_one rfl trivial
    · split
      · exact limited_one rfl trivial
      · exact Limited.command (c := .filesList) rfl trivial (limited_none rfl)
  | cancel =>
    simp only [homeTap]
    split <;> exact limited_none rfl
  | files => exact Limited.command (c := .filesList) rfl trivial (limited_none rfl)
  | _ => exact limited_none rfl

theorem runKeypad_limited {value : Float} (typed : 0 ≤ value ∧ value.isNaN = false ∧
    value.isInf = false) (use : KeypadUse) : Limited nozzle (runKeypad p value use) := by
  cases use with
  | nozzle => exact limited_one rfl (clampInt_within (by decide) _)
  | bed => exact limited_one rfl (clampInt_within (by decide) _)
  | speed => exact Limited.script rfl (clampInt_within (by decide) _) (limited_none rfl)
  | flow => exact Limited.script rfl (clampInt_within (by decide) _) (limited_none rfl)
  | pressureAdvance => exact Limited.script rfl (clamped_unit typed.2.1) (limited_none rfl)
  | zOffset => exact Limited.script rfl ⟨typed.1, typed.2.2⟩ (limited_none rfl)
  | fan =>
    have range : 0 ≤ clampInt 0 100 (castInt (value + 0.5)) ∧
        clampInt 0 100 (castInt (value + 0.5)) ≤ 100 := clampInt_within (by decide) _
    refine Limited.script rfl (s := .partFan _) ?_ (limited_none rfl)
    exact ⟨by omega, by omega⟩

theorem fanSliderCb_limited {slider : Slider} {value : Int}
    (range : slider.lo ≤ value ∧ value ≤ slider.hi) :
    Limited nozzle (fanSliderCb p slider value) := by
  obtain ⟨low, high⟩ := range
  unfold fanSliderCb
  split
  · exact limited_none rfl
  · refine Limited.script rfl ⟨?_, ?_⟩ (limited_none rfl)
    · exact le_trans (by decide) low
    · exact le_trans high (by decide)
  · refine Limited.script rfl (s := .partFan _) ?_ (limited_none rfl)
    simp only [Slider.lo, Slider.hi] at low high
    rw [Script.Within, Int.tdiv_eq_ediv_of_nonneg (by omega)]
    exact ⟨by omega, by omega⟩
  · exact Limited.script rfl ⟨Or.inl rfl, fanSpeed_unit low high⟩ (limited_none rfl)
  · exact Limited.script rfl ⟨Or.inr rfl, fanSpeed_unit low high⟩ (limited_none rfl)

theorem runAction_limited (action : Action) : Limited nozzle (runAction p action) := by
  cases action with
  | bedMesh | inputShaper =>
    simp only [runAction]
    split
    · exact limited_none rfl
    · exact limited_one rfl trivial
  | install =>
    simp only [runAction]
    split
    · exact limited_none rfl
    · exact Limited.silent rfl (Limited.command (c := .updateRun) rfl trivial limited_nil)
  | cancelPrint => exact limited_one rfl trivial
  | restartKlipper | restartFirmware => exact Limited.silent rfl (limited_one rfl trivial)
  | emergencyStop => exact Limited.command (c := .emergencyStop) rfl trivial limited_nil
  | reboot =>
    exact Limited.silent rfl (Limited.command (c := .reboot) rfl trivial limited_nil)
  | shutdown =>
    exact Limited.silent rfl (Limited.command (c := .shutdown) rfl trivial limited_nil)
  | printFile filename =>
    exact Limited.command (c := .printStart filename) rfl trivial limited_nil
  | acknowledge => exact limited_nil

theorem effects_limited {J : Type} (sound : p.ui.selection.Sound) {event : Event J}
    (range : event.InRange) : Limited p.dash.cache.nozzle (event.effects p) := by
  cases event with
  | homeTap button => exact homeTap_limited button
  | subTap button => exact subTap_limited sound button
  | fileRow idx =>
    simp only [Event.effects, fileRowCb]
    split <;> exact limited_none rfl
  | slider slider value => exact fanSliderCb_limited range
  | estopTap => exact limited_none rfl
  | callogStop => exact Limited.script rfl trivial (limited_none rfl)
  | confirmTap target =>
    cases target with
    | confirm =>
      simp only [Event.effects]
      split
      · exact runAction_limited _
      · exact limited_nil
    | _ => exact limited_nil
  | key key =>
    cases key with
    | ok =>
      simp only [Event.effects]
      split
      · next read _ => exact runKeypad_limited (stod_nonneg read) _
      · exact limited_nil
    | _ => exact limited_nil
  | _ => exact limited_nil

end Handlers

section Runs

variable {L : Type → Type} [Layer L] [LawfulLayer L] {J : Type}

theorem Selection.Sound.after {s : Selection} (sound : s.Sound) {event : Event J}
    (range : event.InRange) : (s.after event).Sound := by
  cases event with
  | subTap button =>
    cases button with
    | step i => exact ⟨⟨i, rfl⟩, sound.least, sound.most⟩
    | _ => exact ⟨sound.step, sound.least, sound.most⟩
  | slider slider value =>
    cases slider with
    | loadLength => exact ⟨sound.step, range.1, range.2⟩
    | _ => exact ⟨sound.step, sound.least, sound.most⟩
  | _ => exact sound

variable [JsonLib J]

theorem after_sound {events : List (Event J)} (ranged : ∀ event ∈ events, event.InRange) :
    (after events : Panel L).ui.selection.Sound := by
  rw [after_selection]
  induction events using List.reverseRecOn with
  | nil =>
    have initial : (50 : Int) ≤ 100 ∧ (100 : Int) ≤ 300 := by decide
    exact ⟨⟨1, rfl⟩, initial.1, initial.2⟩
  | append_singleton events event ih =>
    rw [run_snoc]
    refine (ih fun e member => ranged e (List.mem_append_left _ member)).after ?_
    exact ranged event (List.mem_append_right _ (List.mem_singleton_self _))

/-- In every run, whatever the printer reports and whatever is typed, in which the sliders
stay within their ranges, every command keeps the limits: heater targets, feed and flow
rates, fan duties, pressure advance, jog steps and load lengths, and the extruder is
driven only with the nozzle reported hot enough. -/
theorem commands_within_limits (before : List (Event J)) (event : Event J)
    (ranged : ∀ e ∈ before ++ [event], e.InRange) :
    ∀ command ∈ dispatched (after before : Panel L) event,
      command.Within (after before : Panel L).dash.cache.nozzle := by
  intro command member
  have sound : (after before : Panel L).ui.selection.Sound :=
    after_sound fun e earlier => ranged e (List.mem_append_left _ earlier)
  have range := ranged event (List.mem_append_right _ (List.mem_singleton_self _))
  obtain ⟨names, sent⟩ := dispatched_eq (after before : Panel L) event
  rw [sent] at member
  rcases List.mem_append.mp member with called | asked
  · exact effects_limited sound range command called
  · obtain ⟨name, -, rfl⟩ := List.mem_map.mp asked
    trivial

/-- The load length is slid to 250 mm and Load is tapped. -/
theorem commands_within_limits_load :
    let before : List (Event Json) := [.slider .loadLength 250]
    ∀ command ∈ dispatched (after before : Panel ZStack) (.subTap .load : Event Json),
      command.Within (after before : Panel ZStack).dash.cache.nozzle := by
  intro before
  refine commands_within_limits before (.subTap .load) fun e member => ?_
  rcases List.mem_cons.mp member with rfl | later
  · exact ⟨by decide, by decide⟩
  · cases List.mem_singleton.mp later
    trivial

end Runs

section Traffic

variable {L : Type → Type} [Layer L] {J : Type}

def Command.isFilesList : Command → Bool
  | .filesList => true
  | _ => false

def metadataSent (p : Panel L) : Nat := p.sent.countP Command.isMetadata

def listsSent (p : Panel L) : Nat := p.sent.countP Command.isFilesList

/-- Forty files for each list asked for, less what lists still to come may ask. -/
def Paced (p : Panel L) : Prop := metadataSent p + 40 * p.waits.filesLists ≤ 40 * listsSent p

theorem paced_of_same {p q : Panel L} (sent : q.sent = p.sent)
    (lists : q.waits.filesLists = p.waits.filesLists) (paced : Paced p) : Paced q := by
  unfold Paced metadataSent listsSent
  rw [sent, lists]
  exact paced

theorem perform_paced [LawfulLayer L] {p : Panel L} {effect : Effect}
    (other : ∀ command ∈ effect.commands, command.isMetadata = false) (paced : Paced p) :
    Paced (perform p effect) := by
  have none : effect.commands.countP Command.isMetadata = 0 :=
    List.countP_eq_zero.mpr fun command member => by simp [other command member]
  unfold Paced metadataSent listsSent at paced ⊢
  rw [perform_sent, List.countP_append, List.countP_append, none]
  cases effect with
  | populateFiles =>
    have waiting : (perform p .populateFiles).waits.filesLists = p.waits.filesLists + 1 := rfl
    have asked : (Effect.populateFiles).commands.countP Command.isFilesList = 1 := rfl
    rw [waiting, asked]
    omega
  | checkUpdate =>
    obtain ⟨_, _, _, -, left⟩ := perform_checkUpdate p
    rw [left]
    show _ + 0 + 40 * p.waits.filesLists ≤ _
    omega
  | _ =>
    show _ + 0 + 40 * p.waits.filesLists ≤ _
    omega

variable [JsonLib J]

theorem filesReply_paced {p : Panel L} (j : J)
    (paced : metadataSent p + 40 * (p.waits.filesLists + 1) ≤ 40 * listsSent p) :
    Paced (final (filesReply j) p) := by
  let rung : Nat → Panel L → Prop := fun n q =>
    metadataSent q ≤ metadataSent p + n ∧ listsSent q = listsSent p ∧
      q.waits.filesLists = p.waits.filesLists
  have higher : ∀ n q, rung n q → rung (n + 1) q := fun n q low => ⟨by have := low.1; omega, low.2⟩
  have entry : ∀ gen n (f : J),
      Triple (rung n) (listEntry gen f) (fun _ => rung (n + 1)) (rung (n + 1)) := by
    intro gen n f
    refine Triple.bind (Q := fun _ => rung n) ?_ fun path => ?_
    · exact Triple.ofExcept _ (higher n) fun _ _ _ low => low
    refine Triple.ite (fun _ q low => higher n q low) fun _ => ?_
    refine Triple.bind (Q := fun _ => rung n) (fun q low => low) fun _ => ?_
    refine Triple.bind (Q := fun _ => rung n) ?_ fun size => ?_
    · exact Triple.ofExcept _ (higher n) fun _ _ _ low => low
    · intro q low
      show rung (n + 1) (addFile gen path size q)
      have one : metadataSent (addFile gen path size q) = metadataSent q + 1 :=
        List.countP_append
      have none : listsSent (addFile gen path size q) = listsSent q + 0 := List.countP_append
      exact ⟨by rw [one]; exact Nat.succ_le_succ low.1, none.trans low.2.1, low.2.2⟩
  have replied : Triple (rung 0) (filesReply j) (fun _ => rung 40) (rung 40) := by
    have most : ∀ q, rung 0 q → rung 40 q := fun q low => ⟨by have := low.1; omega, low.2⟩
    refine Triple.bind (Q := fun _ => rung 0) (fun q low => low) fun _ => ?_
    refine Triple.bind (Q := fun _ => rung 0) (fun q low => low) fun start => ?_
    refine Triple.bind (Q := fun _ => rung 0) ?_ fun res => ?_
    · exact Triple.ofExcept _ most fun _ _ _ low => low
    have few : (if JsonLib.isArray res then (JsonLib.elements res).take 40 else []).length ≤ 40 := by
      split
      · exact List.length_take_le _ _
      · exact Nat.zero_le _
    simp only
    generalize (if JsonLib.isArray res then (JsonLib.elements res).take 40 else []) = entries at few ⊢
    have within : ∀ q, rung (0 + entries.length) q → rung 40 q := fun q low =>
      ⟨by have := low.1; omega, low.2⟩
    have looped : Triple (rung 0) (entries.forM (listEntry start.ui.filesGen)) (fun _ => rung 40)
        (rung 40) :=
      (Triple.forM_ladder higher (fun n f _ => entry start.ui.filesGen n f) 0).weaken
        (fun _ low => low) (fun _ => within) within
    exact Triple.bind looped fun _ q low => low
  have left := replied p ⟨le_rfl, rfl, rfl⟩
  have reached : rung 40 (final (filesReply j) p) := by
    unfold final
    rcases ran : exec (filesReply j) p with ⟨result, q⟩
    rw [ran] at left
    cases result <;> exact left
  obtain ⟨asked, lists, waiting⟩ := reached
  unfold Paced
  rw [lists, waiting]
  omega

variable [LawfulLayer L]

theorem handled_paced {p : Panel L} {event : Event J} (tap : event.isHandled = true)
    (paced : Paced p) : Paced (step p event) := by
  refine handled_preserves Paced tap (fun q effect member holds => ?_) (fun _ _ holds => holds)
    (fun _ _ holds => holds) paced
  exact perform_paced (fun command called =>
    effects_metadata p event command (List.mem_flatMap.mpr ⟨effect, member, called⟩)) holds

theorem background_sent (p : Panel L) (event : Event J) (idle : event.isHandled = false)
    (other : ∀ j, event ≠ .filesReply j) :
    (step p event).sent = p.sent ∧ (step p event).waits.filesLists = p.waits.filesLists := by
  let view : Panel L → List Command × Nat := fun q => (q.sent, q.waits.filesLists)
  have same : ∀ {q : Panel L}, view q = view p →
      q.sent = p.sent ∧ q.waits.filesLists = p.waits.filesLists := Prod.mk.inj
  cases event with
  | filesReply j => exact absurd rfl (other j)
  | metadataReply i s j =>
    simp only [step]
    split
    · next captured _ =>
      have kept : Preserves (fun q => view q = view p) (metadataReply captured s j) :=
        metadataReply_preserves captured s j fun _ _ holds => holds
      exact same (kept.final rfl)
    · exact ⟨rfl, rfl⟩
  | delta j => exact same (consume_view view (fun _ _ _ _ => rfl) j p)
  | staleTick between => exact same (checkStale_view view (fun _ _ _ _ _ => rfl) between p)
  | loopPass inactive => exact same (loopPass_view view (fun _ _ _ => rfl) inactive p)
  | printStartReply j =>
    simp only [step, printStartReply]
    split
    · exact ⟨rfl, rfl⟩
    · split
      · split <;> exact ⟨rfl, rfl⟩
      · exact ⟨rfl, rfl⟩
  | actionDone _ | updateChecked _ _ _ | updateFinished _ _ | tick _ =>
    apply same
    exact side_view view (fun _ _ _ _ _ _ _ _ _ _ _ => rfl) p _ rfl
  | homeTap _ | subTap _ | fileRow _ | slider _ _ | estopTap | callogStop | confirmTap _
  | key _ => cases idle
  | _ => exact ⟨rfl, rfl⟩

theorem step_paced (p : Panel L) (event : Event J) (paced : Paced p) : Paced (step p event) := by
  cases handled : event.isHandled with
  | true => exact handled_paced handled paced
  | false =>
    by_cases replied : ∃ j, event = .filesReply j
    · obtain ⟨j, rfl⟩ := replied
      simp only [step]
      split
      · exact paced
      · next waiting =>
        apply filesReply_paced
        have positive : p.waits.filesLists - 1 + 1 = p.waits.filesLists := by omega
        show metadataSent p + 40 * (p.waits.filesLists - 1 + 1) ≤ 40 * listsSent p
        rw [positive]
        exact paced
    · obtain ⟨sent, lists⟩ := background_sent p event handled fun j same => replied ⟨j, same⟩
      exact paced_of_same sent lists paced

omit [LawfulLayer L] [JsonLib J] in
theorem isHandled_of_background {event : Event J} (other : event.isTap = false) :
    event.isHandled = false := by
  cases event <;> first | rfl | cases other

theorem background_dispatched (p : Panel L) {event : Event J} (other : event.isTap = false)
    {command : Command} (member : command ∈ dispatched p event) :
    ∃ j path, event = .filesReply j ∧ command = .fileMetadata path ∧ path ∈ listedPaths j := by
  by_cases replied : ∃ j, event = .filesReply j
  · obtain ⟨j, rfl⟩ := replied
    rw [dispatched] at member
    simp only [step] at member
    split at member
    · rw [List.drop_length] at member
      cases member
    · obtain ⟨paths, sent, listed⟩ := (filesReply_names j
        { p with waits := { p.waits with filesLists := p.waits.filesLists - 1 } }).asked
      rw [sent, List.drop_left] at member
      obtain ⟨path, asked, rfl⟩ := List.mem_map.mp member
      exact ⟨j, path, rfl, rfl, listed path asked⟩
  · have sent := (background_sent p event (isHandled_of_background other)
      fun j same => replied ⟨j, same⟩).1
    rw [dispatched, sent, List.drop_length] at member
    cases member

/-- In every run nothing leaves the panel but by the operator's taps, the metadata requests of
a list reply apart: those are for files the reply names, and there are at most forty for
each list that was asked for. A run without taps sends nothing at all. -/
theorem sent_by_operator (events : List (Event J)) :
    (∀ before event, before ++ [event] <+: events → event.isTap = false →
        ∀ command ∈ dispatched (after before : Panel L) event, ∃ j path,
          event = .filesReply j ∧ command = .fileMetadata path ∧ path ∈ listedPaths j) ∧
      metadataSent (after events : Panel L) ≤ 40 * listsSent (after events : Panel L) ∧
      ((∀ e ∈ events, e.isTap = false) → (after events : Panel L).sent = []) := by
  refine ⟨fun before event _ other command member => background_dispatched _ other member, ?_, ?_⟩
  · have initial : Paced (Panel.initial : Panel L) := Nat.zero_le _
    have paced : Paced (after events : Panel L) := run_invariant step_paced initial events
    exact (Nat.le_add_right _ _).trans paced
  · intro idle
    -- without a tap no list was asked for, so none is answered
    have silent : (after events : Panel L).sent = [] ∧
        (after events : Panel L).waits.filesLists = 0 := by
      induction events using List.reverseRecOn with
      | nil => exact ⟨rfl, rfl⟩
      | append_singleton events event ih =>
        obtain ⟨sent, lists⟩ := ih fun e member => idle e (List.mem_append_left _ member)
        have other := idle event (List.mem_append_right _ (List.mem_singleton_self _))
        have taken : (after (events ++ [event]) : Panel L) = step (after events) event :=
          run_snoc _ _ _
        rw [taken]
        by_cases replied : ∃ j, event = .filesReply j
        · obtain ⟨j, rfl⟩ := replied
          simp only [step]
          rw [if_pos lists]
          exact ⟨sent, lists⟩
        · obtain ⟨kept, waiting⟩ := background_sent (after events : Panel L) event
            (isHandled_of_background other) fun j same => replied ⟨j, same⟩
          exact ⟨kept.trans sent, waiting.trans lists⟩
    exact silent.1

/-- The Files screen is opened and its list comes in. -/
theorem sent_by_operator_files :
    (∀ before event, before ++ [event] <+: oneFileListed → event.isTap = false →
        ∀ command ∈ dispatched (after before : Panel ZStack) event, ∃ j path,
          event = .filesReply j ∧ command = .fileMetadata path ∧ path ∈ listedPaths j) ∧
      metadataSent (after oneFileListed : Panel ZStack) ≤
        40 * listsSent (after oneFileListed : Panel ZStack) ∧
      ((∀ e ∈ oneFileListed, e.isTap = false) → (after oneFileListed : Panel ZStack).sent = []) :=
  sent_by_operator oneFileListed

end Traffic

end GrumpyScreen
