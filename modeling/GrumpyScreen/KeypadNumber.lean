import GrumpyScreen.Frame
import GrumpyScreen.Lib.Binary64

/-! The number pad on the fields that take a whole number: the text that was typed, the
number it stands for and the command that is sent for it. -/

namespace GrumpyScreen

open Lib

/-- The fields whose callback rounds and clamps the number. -/
inductive NumberField where
  | filTemp
  | nzCur
  | bdCur
  | speed
  | flow
  | fan
deriving DecidableEq

namespace NumberField

def button : NumberField → SubButton
  | .filTemp => .filTemp
  | .nzCur => .nzCur
  | .bdCur => .bdCur
  | .speed => .speed
  | .flow => .flow
  | .fan => .fan

/-- The callback the field gives the keypad. -/
def use : NumberField → KeypadUse
  | .filTemp | .nzCur => .nozzle
  | .bdCur => .bed
  | .speed => .speed
  | .flow => .flow
  | .fan => .fan

def lo : NumberField → Int
  | .filTemp | .nzCur | .bdCur | .fan => 0
  | .speed => 10
  | .flow => 50

def hi : NumberField → Int
  | .filTemp | .nzCur | .speed => 300
  | .bdCur => 120
  | .flow => 200
  | .fan => 100

/-- What is sent for a number within the limits; the fan takes it as a percentage. -/
def command : NumberField → Int → Command
  | .filTemp, n | .nzCur, n => .gcode (.heaterTarget .extruder n)
  | .bdCur, n => .gcode (.heaterTarget .bed n)
  | .speed, n => .gcode (.speedFactor n)
  | .flow, n => .gcode (.flowFactor n)
  | .fan, n => .gcode (.partFan (n * 255 / 100))

def clamp (field : NumberField) (n : Int) : Int := clampInt field.lo field.hi n

theorem clamp_bounds (field : NumberField) (n : Int) :
    field.lo ≤ field.clamp n ∧ field.clamp n ≤ field.hi := by
  unfold clamp clampInt
  cases field <;> simp only [lo, hi] <;> split_ifs <;> omega

theorem command_clamp_inj (field : NumberField) {n m : Int}
    (same : field.command (field.clamp n) = field.command (field.clamp m)) :
    field.clamp n = field.clamp m := by
  have first := field.clamp_bounds n
  have second := field.clamp_bounds m
  cases field with
  | fan =>
    simp only [command, Command.gcode.injEq, Script.partFan.injEq] at same
    simp only [lo, hi] at first second
    omega
  | filTemp => simpa [command] using same
  | nzCur => simpa [command] using same
  | bdCur => simpa [command] using same
  | speed => simpa [command] using same
  | flow => simpa [command] using same

theorem clamp_succ (field : NumberField) (n : Int) :
    field.clamp (n + 1) = field.clamp n ↔ n + 1 ≤ field.lo ∨ field.hi ≤ n := by
  unfold clamp clampInt
  cases field <;> simp only [lo, hi] <;> split_ifs <;> omega

theorem clamp_of_le (field : NumberField) {n : Int} (above : field.hi ≤ n) :
    field.clamp n = field.hi := by
  unfold clamp clampInt
  cases field <;> simp only [lo, hi] at above ⊢ <;> split_ifs <;> omega

end NumberField

section Typed

/-- The longest numeric prefix of a text as an exact decimal. -/
def typedNumber (text : String) : Option ℚ :=
  let (whole, frac) := numericPrefix text
  if (whole ++ frac).isEmpty then none
  else some (decimal whole + decimal frac / 10 ^ frac.length)

theorem foldl_decimal (digits : List Char) (n : Nat) :
    digits.foldl (fun n c => 10 * n + (c.toNat - '0'.toNat)) n =
      n * 10 ^ digits.length + decimal digits := by
  induction digits generalizing n with
  | nil => simp [decimal]
  | cons c rest ih =>
    have one : decimal (c :: rest) = (10 * 0 + (c.toNat - '0'.toNat)) * 10 ^ rest.length +
        decimal rest := ih _
    rw [List.foldl_cons, ih, one, List.length_cons, pow_succ]
    ring

theorem decimal_append (first second : List Char) :
    decimal (first ++ second) = decimal first * 10 ^ second.length + decimal second := by
  rw [decimal, List.foldl_append]
  exact foldl_decimal second (decimal first)

theorem typedNumber_nonneg {text : String} {x : ℚ} (typed : typedNumber text = some x) : 0 ≤ x := by
  unfold typedNumber at typed
  generalize numericPrefix text = pieces at typed
  obtain ⟨whole, frac⟩ := pieces
  simp only at typed
  split at typed
  · cases typed
  · cases typed
    positivity

/-- A text is read as the double nearest to its number, or not at all where that is
infinite. -/
theorem nearestDouble_typed {text : String} {x : ℚ} (typed : typedNumber text = some x) :
    ∃ v, Ieee.Gives x v ∧ nearestDouble text = if v.isInf then none else some v := by
  unfold nearestDouble
  unfold typedNumber at typed
  generalize numericPrefix text = pieces at typed ⊢
  obtain ⟨whole, frac⟩ := pieces
  simp only at typed ⊢
  split at typed
  · cases typed
  · rename_i digits
    have exact : (decimal whole + decimal frac / 10 ^ frac.length : ℚ) =
        (decimal (whole ++ frac) : ℕ) / 10 ^ frac.length := by
      rw [decimal_append]
      push_cast
      field_simp
    rw [exact] at typed
    cases typed
    exact ⟨_, Ieee.gives_ofScientific _ _, if_neg digits⟩

theorem nearestDouble_untyped {text : String} (typed : typedNumber text = none) :
    nearestDouble text = none := by
  unfold nearestDouble
  unfold typedNumber at typed
  generalize numericPrefix text = pieces at typed ⊢
  obtain ⟨whole, frac⟩ := pieces
  simp only at typed ⊢
  split at typed
  · rename_i digits
    exact if_pos digits
  · cases typed

theorem stod_some {text : String} {v : Float} (read : stod text = some v) :
    nearestDouble text = some v := by
  unfold stod at read
  split at read
  · cases read
  · exact read

theorem decimal_lt {m n k : ℕ} (below : 2 ^ k * m < 10 ^ n) : (m : ℚ) / 10 ^ n < 1 / 2 ^ k := by
  have cast : (2 : ℚ) ^ k * m < 10 ^ n := by exact_mod_cast below
  rw [div_lt_div_iff₀ (by positivity) (by positivity), one_mul, mul_comm]
  exact cast

theorem tiny_of_underflows {text : String} (reported : underflows text = true) :
    ∃ x, typedNumber text = some x ∧ 0 < x ∧ x < 1 / 2 ^ 1022 := by
  unfold underflows at reported
  unfold typedNumber
  generalize numericPrefix text = pieces at reported ⊢
  obtain ⟨whole, frac⟩ := pieces
  simp only [Bool.and_eq_true, decide_eq_true_eq, bne_iff_ne] at reported ⊢
  obtain ⟨below, inexact⟩ := reported
  have positive : 0 < decimal (whole ++ frac) := by
    apply Nat.pos_of_ne_zero
    intro zero
    rw [zero, Nat.mul_zero, Nat.zero_mod] at inexact
    exact inexact rfl
  have digits : ¬ (whole ++ frac).isEmpty = true := by
    intro none
    rw [List.isEmpty_iff.mp none] at positive
    exact absurd positive (lt_irrefl 0)
  have exact : (decimal whole + decimal frac / 10 ^ frac.length : ℚ) =
      (decimal (whole ++ frac) : ℕ) / 10 ^ frac.length := by
    rw [decimal_append]
    push_cast
    field_simp
  refine ⟨_, if_neg digits, ?_, ?_⟩
  · rw [exact]
    exact div_pos (Nat.cast_pos.mpr positive) (by positivity)
  · rw [exact]
    exact decimal_lt below

end Typed

section Pressed

/-- The keys that change the text. -/
inductive TypingKey where
  | digit (d : Fin 10)
  | dot
  | backspace
deriving DecidableEq

def TypingKey.key : TypingKey → Key
  | .digit d => .char (Nat.digitChar d)
  | .dot => .char '.'
  | .backspace => .backspace

/-- What `std::stod` makes of a text. It also throws where the C library reports an
underflow, which it may do for a number too small for a normal double. -/
structure DoubleReader where
  read : String → Option Float
  reads : ∀ text, read text = nearestDouble text ∨
    read text = none ∧ ∃ x, typedNumber text = some x ∧ 0 < x ∧ x < 1 / 2 ^ 1022

/-- A library that reports none. -/
def DoubleReader.plain : DoubleReader := ⟨nearestDouble, fun _ => Or.inl rfl⟩

/-- The one that the machine is built with. -/
def DoubleReader.stod : DoubleReader where
  read := GrumpyScreen.stod
  reads text := by
    unfold GrumpyScreen.stod
    split
    · next reported => exact Or.inr ⟨rfl, tiny_of_underflows reported⟩
    · exact Or.inl rfl

variable {L : Type → Type} [Layer L] [LawfulLayer L]

/-- A tap on a field, then keys of the pad that comes up. -/
def pressedOn (field : NumberField) (keys : List TypingKey) (p : Panel L) : Panel L :=
  run keypadInput (performAll p (subTap p field.button)) (keys.map TypingKey.key)

/-- `OK` in `Numpad::handle_input`. -/
def okPressed (reader : DoubleReader) (p : Panel L) : Panel L :=
  let ran :=
    match reader.read p.ov.keypad.text, p.ov.keypad.readyCb with
    | some value, some use => performAll p (runKeypad p value use)
    | _, _ => p
  { ran with ov := dismissKeypad ran.ov }

example (p : Panel L) : okPressed .stod p = keypadInput p .ok := rfl

/-- What is sent for a number that was read. -/
def sentFor (field : NumberField) : Option Float → List Command
  | some v => [field.command (field.clamp (castInt (v + 0.5)))]
  | none => []

theorem pressedOn_kept (field : NumberField) (keys : List TypingKey) (p : Panel L) :
    (pressedOn field keys p).sent = p.sent ∧
      (pressedOn field keys p).ov.keypad.readyCb = some field.use := by
  unfold pressedOn
  induction keys using List.reverseRecOn with
  | nil => cases field <;> exact ⟨rfl, rfl⟩
  | append_singleton keys key ih =>
    rw [List.map_append, List.map_singleton, run_snoc]
    cases key <;> exact ih

theorem okPressed_sent (reader : DoubleReader) (field : NumberField) (keys : List TypingKey)
    (p : Panel L) :
    (okPressed reader (pressedOn field keys p)).sent =
      p.sent ++ sentFor field (reader.read (pressedOn field keys p).ov.keypad.text) := by
  obtain ⟨sent, ready⟩ := pressedOn_kept field keys p
  unfold okPressed
  rw [ready]
  cases reader.read (pressedOn field keys p).ov.keypad.text with
  | none => exact sent.trans (List.append_nil _).symm
  | some v =>
    refine (performAll_sent _ _).trans ?_
    rw [sent]
    cases field <;> rfl

end Pressed

section Sent

/-- What is to come of a number that was typed, however it is read. -/
structure SendsRounded (field : NumberField) (typed : Option ℚ) (read : Option Float)
    (sent : List Command) : Prop where
  single : sent.length ≤ 1
  defined : ∀ v, read = some v → Ieee.fitsInt (v + 0.5) = true
  rounded : ∀ command ∈ sent, ∃ x, typed = some x ∧
    command = field.command (field.clamp ⌊x + 1 / 2⌋)
  upper : ∀ x, typed = some x → (field.hi : ℚ) < x → sent = [field.command field.hi]

/-- A number that an int holds when it is rounded, and that is not so little below a half
that another number within the limits is commanded. -/
def SafeNumber (field : NumberField) (x : ℚ) : Prop :=
  x < 2 ^ 31 - 1 / 2 - 1 / 2 ^ 23 ∧
    (Carries x → ⌊x + 1 / 2⌋ + 1 ≤ field.lo ∨ field.hi ≤ ⌊x + 1 / 2⌋)

variable {field : NumberField} {x : ℚ} {v : Float}

theorem clamp_floor (above : (field.hi : ℚ) < x) : field.clamp ⌊x + 1 / 2⌋ = field.hi := by
  apply field.clamp_of_le
  apply Int.le_floor.mpr
  linarith

theorem clamp_carried :
    field.clamp (⌊x + 1 / 2⌋ + if Carries x then 1 else 0) = field.clamp ⌊x + 1 / 2⌋ ↔
      (Carries x → ⌊x + 1 / 2⌋ + 1 ≤ field.lo ∨ field.hi ≤ ⌊x + 1 / 2⌋) := by
  by_cases carries : Carries x
  · rw [if_pos carries, field.clamp_succ]
    exact (imp_iff_right carries).symm
  · rw [if_neg carries, add_zero]
    exact iff_of_true rfl (fun held => absurd held carries)

theorem sendsRounded_unread {typed : Option ℚ} (low : ∀ x, typed = some x → x ≤ field.hi) :
    SendsRounded field typed none [] where
  single := Nat.zero_le 1
  defined := by
    intro v read
    cases read
  rounded := by
    intro command sent
    cases sent
  upper := by
    intro x number above
    exact absurd above (low x number).not_gt

theorem sendsRounded_read (read : Ieee.Gives x v) (nonneg : 0 ≤ x) :
    SendsRounded field (some x) (some v) (sentFor field (some v)) ↔ SafeNumber field x := by
  obtain ⟨fits, value⟩ := read.half_up nonneg
  have cast : x < 2 ^ 31 - 1 / 2 - 1 / 2 ^ 23 →
      castInt (v + 0.5) = ⌊x + 1 / 2⌋ + if Carries x then 1 else 0 := value
  constructor
  · intro held
    have small := fits.mp (held.defined v rfl)
    refine ⟨small, clamp_carried.mp ?_⟩
    obtain ⟨y, typed, same⟩ := held.rounded _ (List.mem_singleton_self _)
    cases typed
    rw [cast small] at same
    exact field.command_clamp_inj same
  · intro safe
    obtain ⟨small, kept⟩ := safe
    have clamped := clamp_carried.mpr kept
    rw [sentFor, cast small, clamped]
    refine { single := le_rfl, defined := ?_, rounded := ?_, upper := ?_ }
    · intro w read
      cases read
      exact fits.mpr small
    · intro command sent
      exact ⟨x, rfl, List.mem_singleton.mp sent⟩
    · intro y typed above
      cases typed
      rw [clamp_floor above]

theorem sendsRounded_large (large : 2 ^ 31 < x) :
    SendsRounded field (some x) none [] ↔ SafeNumber field x := by
  apply iff_of_false
  · intro held
    have limit : (field.hi : ℚ) < x := by
      have most : field.hi ≤ 300 := by cases field <;> decide
      have cast : (field.hi : ℚ) ≤ (300 : ℤ) := Int.cast_le.mpr most
      push_cast at cast
      norm_num at large
      linarith
    have some := held.upper x rfl limit
    cases some
  · intro safe
    have small := safe.1
    norm_num at large small
    linarith

theorem sendsRounded_tiny (positive : 0 < x) (tiny : x < 1 / 2 ^ 1022) :
    SendsRounded field (some x) none [] ↔ SafeNumber field x := by
  have small : x < 1 / 4 := by
    have power : (2 : ℚ) ^ 2 < 2 ^ 1022 := pow_lt_pow_right₀ one_lt_two (by decide)
    calc x < 1 / 2 ^ 1022 := tiny
      _ < 1 / 2 ^ 2 := one_div_lt_one_div_of_lt (by norm_num) power
      _ = 1 / 4 := by norm_num
  clear tiny
  apply iff_of_true
  · apply sendsRounded_unread
    intro y typed
    cases typed
    have one : 1 ≤ field.hi := by cases field <;> decide
    have bound : ((1 : ℤ) : ℚ) ≤ field.hi := Int.cast_le.mpr one
    push_cast at bound
    linarith
  · constructor
    · norm_num
      linarith
    · intro carries
      have floor : ⌊x + 1 / 2⌋ = 0 := by
        rw [Int.floor_eq_iff]
        push_cast
        constructor <;> linarith
      rw [carries_zero floor] at carries
      norm_num at carries
      linarith

theorem sendsRounded_iff (reader : DoubleReader) (field : NumberField) (text : String) :
    SendsRounded field (typedNumber text) (reader.read text)
        (sentFor field (reader.read text)) ↔
      ∀ x, typedNumber text = some x → SafeNumber field x := by
  cases typed : typedNumber text with
  | none =>
    have unread : reader.read text = none := by
      rcases reader.reads text with same | ⟨same, -⟩
      · rw [same, nearestDouble_untyped typed]
      · exact same
    rw [unread]
    apply iff_of_true
    · apply sendsRounded_unread
      intro x none
      cases none
    · intro x none
      cases none
  | some x =>
    have single : (∀ y, some x = some y → SafeNumber field y) ↔ SafeNumber field x := by
      simp only [Option.some.injEq, forall_eq']
    rw [single]
    rcases reader.reads text with same | ⟨same, y, number, positive, tiny⟩
    · obtain ⟨v, gives, read⟩ := nearestDouble_typed typed
      rw [same, read]
      by_cases infinite : v.isInf = true
      · rw [if_pos infinite]
        exact sendsRounded_large (gives.large infinite)
      · rw [if_neg infinite]
        exact sendsRounded_read gives (typedNumber_nonneg typed)
    · rw [typed] at number
      cases number
      rw [same]
      exact sendsRounded_tiny positive tiny

variable {L : Type → Type} [Layer L] [LawfulLayer L]

/-- `OK` sends what it is to send just when the number is safe. -/
theorem keypad_rounded_iff (reader : DoubleReader) (field : NumberField) (keys : List TypingKey)
    (p : Panel L) :
    ∃ sent, (okPressed reader (pressedOn field keys p)).sent = p.sent ++ sent ∧
      (SendsRounded field (typedNumber (pressedOn field keys p).ov.keypad.text)
          (reader.read (pressedOn field keys p).ov.keypad.text) sent ↔
        ∀ x, typedNumber (pressedOn field keys p).ov.keypad.text = some x →
          SafeNumber field x) := by
  have sent := okPressed_sent reader field keys p
  exact ⟨_, sent, sendsRounded_iff reader field _⟩

/-- Ten nines typed for the nozzle. -/
def tenNines : Panel ZStack := pressedOn .nzCur (List.replicate 10 (.digit 9)) Panel.initial

/-- No int holds them, so nothing is promised of the cast that comes before the clamp. -/
theorem tenNines_undefined :
    ¬ ∃ sent, (okPressed .plain tenNines).sent = (Panel.initial : Panel ZStack).sent ++ sent ∧
      SendsRounded .nzCur (typedNumber tenNines.ov.keypad.text)
        (DoubleReader.plain.read tenNines.ov.keypad.text) sent := by
  rintro ⟨sent, total, held⟩
  have typed : typedNumber tenNines.ov.keypad.text = some 9999999999 := by decide +kernel
  have same := List.append_cancel_left
    (total.symm.trans (okPressed_sent .plain .nzCur _ Panel.initial))
  rw [same] at held
  have small := ((sendsRounded_iff .plain .nzCur _).mp held _ typed).1
  norm_num at small

theorem two_fifty_rounded :
    let typing : Panel ZStack := pressedOn .nzCur [.digit 2, .digit 5, .digit 0] Panel.initial
    ∃ sent, (okPressed .plain typing).sent = (Panel.initial : Panel ZStack).sent ++ sent ∧
      SendsRounded .nzCur (typedNumber typing.ov.keypad.text)
        (DoubleReader.plain.read typing.ov.keypad.text) sent := by
  intro typing
  obtain ⟨sent, total, right⟩ :=
    keypad_rounded_iff .plain .nzCur [.digit 2, .digit 5, .digit 0] (Panel.initial : Panel ZStack)
  refine ⟨sent, total, right.mpr ?_⟩
  have typed : typedNumber typing.ov.keypad.text = some 250 := by decide +kernel
  intro x same
  cases typed.symm.trans same
  constructor
  · norm_num
  · intro carries
    have floor : ⌊(250 : ℚ) + 1 / 2⌋ = (250 : ℕ) := by norm_num
    rw [carries_pos floor (by decide)] at carries
    have place : Nat.log2 250 = 7 := by decide
    rw [place] at carries
    norm_num at carries

end Sent

end GrumpyScreen
