import GrumpyScreen.Lib.Ieee
import GrumpyScreen.Lib.Rounding

/-! The doubles that are not negative as the numbers they stand for: every operation on
them here rounds the number it would have exactly. -/

namespace GrumpyScreen.Lib.Ieee

open Float.Model (Format UnpackedFloat totalExponent)
open Float.Model.UnpackedFloat (Accuracy ExtendedMantissa)

section Mantissas

/-- What is kept of a number on its way to a mantissa: its whole part, whether the rest
reaches a half and whether it is anything but a half or nothing. -/
structure Holds (em : ExtendedMantissa) (y : ℚ) : Prop where
  whole : (em.mantissa : ℤ) = ⌊y⌋
  round : em.roundBit = true ↔ 1 / 2 ≤ Int.fract y
  sticky : em.stickyBit = true ↔ Int.fract y ≠ 0 ∧ Int.fract y ≠ 1 / 2

variable {em : ExtendedMantissa} {y : ℚ}

theorem Holds.shiftRightOne (held : Holds em y) : Holds em.shiftRightOne (y / 2) := by
  have parts := Int.floor_add_fract y
  have nonneg := Int.fract_nonneg y
  have small := Int.fract_lt_one y
  have halves : (em.mantissa : ℚ) = 2 * (em.mantissa / 2 : ℕ) + (em.mantissa % 2 : ℕ) := by
    have split := Nat.div_add_mod em.mantissa 2
    exact_mod_cast split.symm
  rw [← held.whole, Int.cast_natCast] at parts
  have bit : em.mantissa % 2 = 0 ∨ em.mantissa % 2 = 1 := by omega
  have bound : ((em.mantissa % 2 : ℕ) : ℚ) ≤ 1 := by
    have most : em.mantissa % 2 ≤ 1 := by omega
    exact_mod_cast most
  have floor : ⌊y / 2⌋ = (em.mantissa / 2 : ℕ) := by
    rw [Int.floor_eq_iff, Int.cast_natCast]
    have least : (0 : ℚ) ≤ (em.mantissa % 2 : ℕ) := Nat.cast_nonneg _
    constructor <;> linarith
  have fract : Int.fract (y / 2) = ((em.mantissa % 2 : ℕ) + Int.fract y) / 2 := by
    rw [Int.fract, floor, Int.cast_natCast]
    linarith
  refine { whole := floor.symm, round := ?_, sticky := ?_ }
  · rw [fract]
    rcases bit with zero | one
    · simp [ExtendedMantissa.shiftRightOne, zero]
      linarith
    · simp [ExtendedMantissa.shiftRightOne, one]
      linarith
  · have any : (em.roundBit || em.stickyBit) = true ↔ Int.fract y ≠ 0 := by
      rw [Bool.or_eq_true, held.round, held.sticky]
      constructor
      · rintro (half | ⟨rest, -⟩)
        · linarith
        · exact rest
      · intro rest
        by_cases half : 1 / 2 ≤ Int.fract y
        · exact Or.inl half
        · exact Or.inr ⟨rest, fun same => half same.ge⟩
    refine any.trans ?_
    rw [fract]
    rcases bit with zero | one
    · rw [zero, Nat.cast_zero, zero_add]
      constructor
      · intro rest
        exact ⟨fun same => rest (by linarith), fun same => by linarith⟩
      · intro both same
        exact both.1 (by rw [same, zero_div])
    · rw [one, Nat.cast_one]
      constructor
      · intro rest
        exact ⟨fun same => by linarith, fun same => rest (by linarith)⟩
      · intro both same
        exact both.2 (by rw [same, add_zero])

theorem Holds.shiftRight (held : Holds em y) (n : ℕ) : Holds (em >>> n) (y / 2 ^ n) := by
  show Holds (n.repeat ExtendedMantissa.shiftRightOne em) _
  induction n with
  | zero =>
    rw [pow_zero, div_one]
    exact held
  | succ n ih =>
    rw [Nat.repeat, pow_succ, ← div_div]
    exact ih.shiftRightOne

theorem Holds.roundedMantissa (held : Holds em y) : (em.roundedMantissa : ℤ) = roundEven y := by
  obtain ⟨m, round, sticky⟩ := em
  obtain ⟨whole, half, rest⟩ := held
  simp only at whole half rest
  unfold roundEven
  cases round with
  | false =>
    have low : Int.fract y < 1 / 2 := by simpa using half
    rw [if_pos low, ← whole]
    cases sticky <;> rfl
  | true =>
    have high : 1 / 2 ≤ Int.fract y := by simpa using half
    rw [if_neg (not_lt.mpr high), ← whole]
    cases sticky with
    | false =>
      have other : Int.fract y ≠ 0 := by linarith
      have same : Int.fract y = 1 / 2 := by simpa [other] using rest
      rw [if_neg same.not_gt]
      exact Int.natCast_add m (m % 2)
    | true =>
      have other : Int.fract y ≠ 1 / 2 := by
        have both : Int.fract y ≠ 0 ∧ Int.fract y ≠ 1 / 2 := by simpa using rest
        exact both.2
      rw [if_pos (lt_of_le_of_ne high other.symm)]
      rfl

theorem holds_natCast (m : ℕ) : Holds (.ofMantissaAndAccuracy m .exact) m where
  whole := (Int.floor_natCast m).symm
  round := by
    rw [Int.fract_natCast]
    exact iff_of_false Bool.false_ne_true (by norm_num)
  sticky := by
    rw [Int.fract_natCast]
    exact iff_of_false Bool.false_ne_true (fun both => both.1 rfl)

theorem holds_div (n : ℕ) {d : ℕ} (positive : 0 < d) :
    Holds (.ofMantissaAndAccuracy (n / d) (UnpackedFloat.accuracyOfFraction (n % d) d))
      ((n : ℚ) / d) := by
  have size : (0 : ℚ) < d := Nat.cast_pos.mpr positive
  have floor : ((n / d : ℕ) : ℤ) = ⌊(n : ℚ) / d⌋ := by
    have least : n / d * d ≤ n := Nat.div_mul_le_self n d
    have most : n < (n / d + 1) * d := Nat.lt_mul_of_div_lt (Nat.lt_succ_self _) positive
    symm
    rw [Int.floor_eq_iff, le_div_iff₀ size, div_lt_iff₀ size]
    exact ⟨by exact_mod_cast least, by exact_mod_cast most⟩
  have fract : Int.fract ((n : ℚ) / d) = (n % d : ℕ) / d :=
    Int.fract_div_natCast_eq_div_natCast_mod
  have zero : Int.fract ((n : ℚ) / d) ≠ 0 ↔ n % d ≠ 0 := by
    rw [fract, ne_eq, div_eq_zero_iff, or_iff_left size.ne', Nat.cast_eq_zero]
  have half : 1 / 2 ≤ Int.fract ((n : ℚ) / d) ↔ d ≤ 2 * (n % d) := by
    rw [fract, div_le_div_iff₀ two_pos size, one_mul, mul_comm]
    exact_mod_cast Iff.rfl
  have same : Int.fract ((n : ℚ) / d) ≠ 1 / 2 ↔ 2 * (n % d) ≠ d := by
    rw [fract, ne_eq, div_eq_div_iff size.ne' two_ne_zero, one_mul, mul_comm]
    exact_mod_cast Iff.rfl
  unfold UnpackedFloat.accuracyOfFraction
  by_cases none : n % d = 0
  · rw [if_pos none]
    refine { whole := floor, round := ?_, sticky := ?_ }
    · rw [half, none]
      exact iff_of_false Bool.false_ne_true (by omega)
    · rw [zero]
      exact iff_of_false Bool.false_ne_true (fun both => both.1 none)
  · rw [if_neg none]
    cases order : compare (2 * (n % d)) d with
    | lt =>
      have below := compare_lt_iff_lt.mp order
      refine { whole := floor, round := ?_, sticky := ?_ }
      · rw [half]
        exact iff_of_false Bool.false_ne_true (by omega)
      · rw [zero, same]
        exact iff_of_true rfl ⟨none, by omega⟩
    | eq =>
      have level := compare_eq_iff_eq.mp order
      refine { whole := floor, round := ?_, sticky := ?_ }
      · rw [half]
        exact iff_of_true rfl (by omega)
      · rw [zero, same]
        exact iff_of_false Bool.false_ne_true (fun both => both.2 level)
    | gt =>
      have above := compare_gt_iff_gt.mp order
      refine { whole := floor, round := ?_, sticky := ?_ }
      · rw [half]
        exact iff_of_true rfl (by omega)
      · rw [zero, same]
        exact iff_of_true rfl ⟨none, by omega⟩

end Mantissas

section Stored

/-- A number that is not negative as a double has it: all 53 binary places, or fewer at
the last place there is. -/
inductive Canonical : UnpackedFloat → ℚ → Prop
  | zero : Canonical (.zero .positive) 0
  | finite (m : ℕ) (e : ℤ) (positive : 0 < m) (below : m < 2 ^ 53) (least : -1074 ≤ e)
    (full : e = -1074 ∨ 2 ^ 52 ≤ m) : Canonical (.finite .positive m e positive) (m * 2 ^ e)

variable {u : UnpackedFloat} {x r : ℚ}

theorem Canonical.nonneg (held : Canonical u r) : 0 ≤ r := by
  cases held with
  | zero => exact le_rfl
  | finite m e => exact mul_nonneg (Nat.cast_nonneg m) (pow_pos_two e).le

theorem Canonical.rounds (held : Canonical u r) : Rounds r r := by
  cases held with
  | zero =>
    refine ⟨-1074, le_rfl, Or.inl rfl, pow_pos_two _, ?_⟩
    rw [zero_div]
    exact (by rw [← Int.cast_zero, roundEven_intCast, Int.cast_zero, zero_mul])
  | finite m e positive below least full =>
    have place := pow_pos_two e
    refine ⟨e, least, ?_, ?_, ?_⟩
    · apply full.imp_right
      intro full
      rw [add_comm, zpow_add₀ two_ne_zero]
      apply mul_le_mul_of_nonneg_right _ place.le
      exact_mod_cast full
    · rw [add_comm, zpow_add₀ two_ne_zero]
      apply mul_lt_mul_of_pos_right _ place
      exact_mod_cast below
    · rw [mul_div_cancel_right₀ _ place.ne', ← Int.cast_natCast, roundEven_intCast]

end Stored

section Round

variable {m : ℕ} {e : ℤ} {accuracy : Accuracy} {x : ℚ}

theorem targetExponent_eq (total : ℤ) :
    Format.binary64.targetExponent total = max (total - 53) (-1074) := rfl

theorem ofMantissaAndAccuracy_mantissa (m : ℕ) (accuracy : Accuracy) :
    (ExtendedMantissa.ofMantissaAndAccuracy m accuracy).mantissa = m := by
  rcases accuracy with - | order
  · rfl
  · cases order <;> rfl

theorem shift_kept (fits : m < 2 ^ 53) (least : -1074 ≤ e) :
    UnpackedFloat.shiftToTargetExponent .binary64 m e .exact = (⟨m, false, false⟩, e) := by
  have bits : m.log2 ≤ 52 := by
    by_cases zero : m = 0
    · rw [zero]
      decide
    · have log := (Nat.log2_lt zero).mpr fits
      omega
  have none : (Format.binary64.targetExponent (totalExponent m e) - e).toNat = 0 := by
    rw [targetExponent_eq, totalExponent]
    omega
  simp only [UnpackedFloat.shiftToTargetExponent, UnpackedFloat.shiftToExponent, none]
  rw [Int.natCast_zero, add_zero]
  rfl

theorem shift_carried (least : -1074 ≤ e) :
    UnpackedFloat.shiftToTargetExponent .binary64 (2 ^ 53) e .exact =
      (⟨2 ^ 52, false, false⟩, e + 1) := by
  have one : (Format.binary64.targetExponent (totalExponent (2 ^ 53) e) - e).toNat = 1 := by
    rw [targetExponent_eq, totalExponent, Nat.log2_two_pow]
    omega
  simp only [UnpackedFloat.shiftToTargetExponent, UnpackedFloat.shiftToExponent, one]
  rfl

theorem Holds.roundsAt (held : Holds (.ofMantissaAndAccuracy m accuracy) (x / 2 ^ e))
    (low : e ≤ Format.binary64.targetExponent (totalExponent m e)) :
    ∃ (em : ExtendedMantissa) (t : ℤ),
      UnpackedFloat.shiftToTargetExponent .binary64 m e accuracy = (em, t) ∧
        RoundsAt t x (em.roundedMantissa * 2 ^ t) := by
  have whole := held.whole
  rw [ofMantissaAndAccuracy_mantissa] at whole
  have place := pow_pos_two e
  obtain ⟨s, target⟩ := Int.le.dest low
  have shift : (Format.binary64.targetExponent (totalExponent m e) - e).toNat = s := by omega
  have shifted := (held.shiftRight s).roundedMantissa
  rw [div_div, ← zpow_natCast, ← zpow_add₀ two_ne_zero] at shifted
  refine ⟨ExtendedMantissa.ofMantissaAndAccuracy m accuracy >>> s, e + s, ?_, ?_⟩
  · simp only [UnpackedFloat.shiftToTargetExponent, UnpackedFloat.shiftToExponent, shift]
  · rw [targetExponent_eq, totalExponent] at target
    refine { least := by omega, full := ?_, below := ?_, value := ?_ }
    · by_cases last : e + s = -1074
      · exact Or.inl last
      · right
        have bits : 52 ≤ m.log2 := by omega
        have some : m ≠ 0 := by
          intro zero
          rw [zero, Nat.log2_zero] at bits
          omega
        have least : ((2 ^ m.log2 : ℕ) : ℚ) ≤ m := Nat.cast_le.mpr (Nat.log2_self_le some)
        have floor : (m : ℚ) ≤ x / 2 ^ e := by
          rw [← Int.cast_natCast, whole]
          exact Int.floor_le _
        have power : (2 : ℚ) ^ (e + s + 52) = 2 ^ m.log2 * 2 ^ e := by
          rw [← zpow_natCast, ← zpow_add₀ two_ne_zero]
          congr 1
          omega
        rw [power]
        apply (le_div_iff₀ place).mp
        push_cast at least
        exact least.trans floor
    · have most : (m : ℚ) + 1 ≤ 2 ^ (m.log2 + 1) := by
        have bound : m + 1 ≤ 2 ^ (m.log2 + 1) := Nat.lt_log2_self
        exact_mod_cast bound
      have floor : x / 2 ^ e < m + 1 := by
        rw [← Int.cast_natCast, whole]
        exact Int.lt_floor_add_one _
      have size := (div_lt_iff₀ place).mp (floor.trans_le most)
      rw [← zpow_natCast, ← zpow_add₀ two_ne_zero] at size
      apply size.trans_le
      apply pow_two_le.mpr
      omega
    · rw [← shifted, Int.cast_natCast]

theorem rounded_bounds {t : ℤ} {n : ℕ} (rounded : RoundsAt t x (n * 2 ^ t)) :
    n ≤ 2 ^ 53 ∧ (t = -1074 ∨ 2 ^ 52 ≤ n) := by
  have place := pow_pos_two t
  have same : (n : ℤ) = roundEven (x / 2 ^ t) := by
    have value := mul_right_cancel₀ place.ne' rounded.value
    exact_mod_cast value
  constructor
  · have most : roundEven (x / 2 ^ t) ≤ 2 ^ 53 := by
      apply roundEven_le
      have below := rounded.below
      rw [add_comm, zpow_add₀ two_ne_zero] at below
      have size := (div_lt_iff₀ place).mpr below
      norm_num at size ⊢
      linarith
    rw [← same] at most
    exact_mod_cast most
  · apply rounded.full.imp_right
    intro full
    have least : 2 ^ 52 ≤ roundEven (x / 2 ^ t) := by
      apply le_roundEven
      rw [add_comm, zpow_add₀ two_ne_zero] at full
      have size := (le_div_iff₀ place).mpr full
      norm_num at size ⊢
      linarith
    rw [← same] at least
    exact_mod_cast least

theorem rounds_roundWithAccuracy
    (held : Holds (.ofMantissaAndAccuracy m accuracy) (x / 2 ^ e))
    (low : e ≤ Format.binary64.targetExponent (totalExponent m e)) :
    ∃ r, Rounds x r ∧
      Canonical (UnpackedFloat.roundWithAccuracy .binary64 .positive m e accuracy) r := by
  obtain ⟨em, t, first, rounded⟩ := held.roundsAt low
  refine ⟨_, ⟨t, rounded⟩, ?_⟩
  obtain ⟨most, full⟩ := rounded_bounds rounded
  simp only [UnpackedFloat.roundWithAccuracy, first]
  rcases most.lt_or_eq with fits | carry
  · simp only [shift_kept fits rounded.least]
    by_cases zero : em.roundedMantissa = 0
    · rw [dif_pos zero, zero, Nat.cast_zero, zero_mul]
      exact .zero
    · rw [dif_neg zero]
      exact .finite _ t _ fits rounded.least full
  · have second : UnpackedFloat.shiftToTargetExponent .binary64 em.roundedMantissa t .exact =
        (⟨2 ^ 52, false, false⟩, t + 1) := by
      rw [carry]
      exact shift_carried rounded.least
    have same : (em.roundedMantissa : ℚ) * 2 ^ t = ((2 ^ 52 : ℕ) : ℚ) * 2 ^ (t + 1) := by
      rw [carry, zpow_add_one₀ two_ne_zero]
      push_cast
      ring
    have least := rounded.least
    simp only [second, same]
    exact .finite _ (t + 1) (by decide) (by decide) (by omega) (Or.inr le_rfl)

theorem log2_shiftLeft {m : ℕ} (positive : 0 < m) (k : ℕ) : (m <<< k).log2 = m.log2 + k := by
  have some : m <<< k ≠ 0 := by
    rw [Nat.shiftLeft_eq]
    exact (Nat.mul_pos positive (Nat.two_pow_pos k)).ne'
  rw [Nat.log2_eq_iff some, Nat.shiftLeft_eq, pow_add, add_right_comm, pow_add]
  constructor
  · exact Nat.mul_le_mul_right _ (Nat.log2_self_le positive.ne')
  · exact Nat.mul_lt_mul_of_pos_right Nat.lt_log2_self (Nat.two_pow_pos k)

theorem rounds_round {m : ℕ} (e : ℤ) (positive : 0 < m) :
    ∃ r, Rounds (m * 2 ^ e) r ∧ Canonical (UnpackedFloat.round .binary64 .positive m e) r := by
  simp only [UnpackedFloat.round, UnpackedFloat.decreaseExponent]
  generalize same : (e - Format.binary64.targetExponent (totalExponent m e)).toNat = k
  apply rounds_roundWithAccuracy
  · have exact : (m : ℚ) * 2 ^ e / 2 ^ (e - k) = ((m <<< k : ℕ) : ℚ) := by
      rw [mul_div_assoc, ← zpow_sub₀ two_ne_zero, sub_sub_cancel, zpow_natCast, Nat.shiftLeft_eq]
      push_cast
      rfl
    rw [exact]
    exact holds_natCast (m <<< k)
  · rw [targetExponent_eq, totalExponent] at same ⊢
    rw [log2_shiftLeft positive]
    omega

end Round

section Operations

variable {m₁ m₂ : ℕ} {e₁ e₂ : ℤ}

theorem rounds_normalize {n : ℕ} (e : ℤ) (positive : 0 < n) :
    ∃ r, Rounds (n * 2 ^ e) r ∧
      Canonical (UnpackedFloat.normalize .binary64 n e .positive) r := by
  have order : compare (n : ℤ) 0 = .gt := compare_gt_iff_gt.mpr (Int.natCast_pos.mpr positive)
  simp only [UnpackedFloat.normalize, order, Int.toNat_natCast]
  exact rounds_round e positive

theorem rounds_div (positive₁ : 0 < m₁) (positive₂ : 0 < m₂) :
    ∃ r, Rounds (m₁ * 2 ^ e₁ / (m₂ * 2 ^ e₂)) r ∧
      Canonical (UnpackedFloat.div .binary64 (.finite .positive m₁ e₁ positive₁)
        (.finite .positive m₂ e₂ positive₂)) r := by
  simp only [UnpackedFloat.div, UnpackedFloat.divCore]
  generalize place : min (e₁ - e₂) (Format.binary64.targetExponent
    (totalExponent m₁ e₁ - totalExponent m₂ e₂)) = t
  obtain ⟨s, shift⟩ := Int.le.dest (place ▸ min_le_left _ _ : t ≤ e₁ - e₂)
  have amount : (e₁ - e₂ - t).toNat = s := by omega
  rw [amount]
  apply rounds_roundWithAccuracy
  · have exact : (m₁ : ℚ) * 2 ^ e₁ / (m₂ * 2 ^ e₂) / 2 ^ t = ((m₁ <<< s : ℕ) : ℚ) / m₂ := by
      have split : e₁ = s + t + e₂ := by omega
      have size : (m₂ : ℚ) ≠ 0 := Nat.cast_ne_zero.mpr positive₂.ne'
      have first := (pow_pos_two e₂).ne'
      have second := (pow_pos_two t).ne'
      rw [split, zpow_add₀ two_ne_zero, zpow_add₀ two_ne_zero, zpow_natCast, Nat.shiftLeft_eq]
      push_cast
      field_simp
    rw [exact]
    exact holds_div (m₁ <<< s) positive₂
  · rw [targetExponent_eq] at place ⊢
    by_cases last : t ≤ -1074
    · omega
    · -- above the last place the quotient has all its bits
      have bits : m₂.log2 + 53 ≤ m₁.log2 + s := by
        simp only [totalExponent] at place
        omega
      have quotient : 2 ^ 52 ≤ m₁ <<< s / m₂ := by
        rw [Nat.le_div_iff_mul_le positive₂, Nat.shiftLeft_eq]
        calc 2 ^ 52 * m₂ ≤ 2 ^ 52 * 2 ^ (m₂.log2 + 1) :=
              Nat.mul_le_mul_left _ Nat.lt_log2_self.le
          _ = 2 ^ (m₂.log2 + 53) := by ring
          _ ≤ 2 ^ (m₁.log2 + s) := Nat.pow_le_pow_right two_pos bits
          _ = 2 ^ m₁.log2 * 2 ^ s := pow_add 2 _ s
          _ ≤ m₁ * 2 ^ s := Nat.mul_le_mul_right _ (Nat.log2_self_le positive₁.ne')
      have log := (Nat.le_log2 (Nat.two_pow_pos 52 |>.trans_le quotient).ne').mpr quotient
      rw [totalExponent]
      omega

theorem finer_eq (m : ℕ) {e t : ℤ} (finer : t ≤ e) :
    (m : ℚ) * 2 ^ e = (m <<< (e - t).toNat : ℕ) * 2 ^ t := by
  obtain ⟨k, rfl⟩ := Int.le.dest finer
  rw [add_sub_cancel_left, Int.toNat_natCast, Nat.shiftLeft_eq, zpow_add₀ two_ne_zero,
    zpow_natCast]
  push_cast
  ring

theorem rounds_add (positive₁ : 0 < m₁) (positive₂ : 0 < m₂) :
    ∃ r, Rounds (m₁ * 2 ^ e₁ + m₂ * 2 ^ e₂) r ∧
      Canonical (UnpackedFloat.add .binary64 (.finite .positive m₁ e₁ positive₁)
        (.finite .positive m₂ e₂ positive₂)) r := by
  have some : 0 < m₁ <<< (e₁ - min e₁ e₂).toNat + m₂ <<< (e₂ - min e₁ e₂).toNat := by
    apply Nat.add_pos_left
    rw [Nat.shiftLeft_eq]
    exact Nat.mul_pos positive₁ (Nat.two_pow_pos _)
  rw [finer_eq m₁ (min_le_left e₁ e₂), finer_eq m₂ (min_le_right e₁ e₂), ← add_mul, ← Nat.cast_add]
  exact rounds_normalize (min e₁ e₂) some

variable {u v : UnpackedFloat} {r q : ℚ}

theorem Canonical.add (first : Canonical u r) (second : Canonical v q) :
    ∃ w, Rounds (r + q) w ∧ Canonical (UnpackedFloat.add .binary64 u v) w := by
  cases first with
  | zero =>
    rw [zero_add]
    refine ⟨q, second.rounds, ?_⟩
    cases second with
    | zero => exact .zero
    | finite m e positive below least full => exact .finite m e positive below least full
  | finite m₁ e₁ positive₁ below₁ least₁ full₁ =>
    cases second with
    | zero =>
      have held : Canonical _ _ := .finite m₁ e₁ positive₁ below₁ least₁ full₁
      rw [add_zero]
      exact ⟨_, held.rounds, held⟩
    | finite m₂ e₂ positive₂ => exact rounds_add positive₁ positive₂

theorem rounds_zero {x : ℚ} (nonneg : 0 ≤ x) (tiny : x < 2 ^ (-1075 : ℤ)) : Rounds x 0 := by
  have place := pow_pos_two (-1074)
  have half : x / 2 ^ (-1074 : ℤ) < 1 / 2 := by
    have power : (2 : ℚ) ^ (-1075 : ℤ) = 1 / 2 * 2 ^ (-1074 : ℤ) := by
      rw [show (-1075 : ℤ) = -1 + -1074 by norm_num, zpow_add₀ two_ne_zero, zpow_neg_one,
        one_div]
    rw [div_lt_iff₀ place, ← power]
    exact tiny
  have quotient : 0 ≤ x / 2 ^ (-1074 : ℤ) := div_nonneg nonneg place.le
  have none : roundEven (x / 2 ^ (-1074 : ℤ)) = 0 := by
    apply le_antisymm
    · apply roundEven_le
      rw [Int.cast_zero, zero_add]
      exact half
    · apply le_roundEven
      rw [Int.cast_zero]
      linarith
  refine ⟨-1074, le_rfl, Or.inl rfl, tiny.trans (pow_two_lt.mpr (by norm_num)), ?_⟩
  rw [none, Int.cast_zero, zero_mul]

theorem rounds_mul (positive₁ : 0 < m₁) (positive₂ : 0 < m₂)
    (low : e₁ + e₂ ≤ Format.binary64.targetExponent (totalExponent (m₁ * m₂) (e₁ + e₂))) :
    ∃ r, Rounds (m₁ * 2 ^ e₁ * (m₂ * 2 ^ e₂)) r ∧
      Canonical (UnpackedFloat.mul .binary64 (.finite .positive m₁ e₁ positive₁)
        (.finite .positive m₂ e₂ positive₂)) r := by
  refine rounds_roundWithAccuracy ?_ low
  have place := (pow_pos_two (e₁ + e₂)).ne'
  have exact : (m₁ : ℚ) * 2 ^ e₁ * (m₂ * 2 ^ e₂) / 2 ^ (e₁ + e₂) = ((m₁ * m₂ : ℕ) : ℚ) := by
    rw [div_eq_iff place, zpow_add₀ two_ne_zero]
    push_cast
    ring
  rw [exact]
  exact holds_natCast (m₁ * m₂)

theorem decimal_lt_pow {m n k : ℕ} (digits : m.log2 + 1 + k ≤ n) :
    (m : ℚ) / 10 ^ n < 2 ^ (-k : ℤ) := by
  have size : m * 2 ^ k < 10 ^ n :=
    calc m * 2 ^ k < 2 ^ (m.log2 + 1) * 2 ^ k :=
          Nat.mul_lt_mul_of_pos_right Nat.lt_log2_self (Nat.two_pow_pos k)
      _ = 2 ^ (m.log2 + 1 + k) := (pow_add 2 _ k).symm
      _ ≤ 2 ^ n := Nat.pow_le_pow_right two_pos digits
      _ ≤ 10 ^ n := Nat.pow_le_pow_left (by decide) n
  rw [zpow_neg, ← one_div, zpow_natCast, div_lt_div_iff₀ (by positivity) (by positivity), one_mul]
  exact_mod_cast size

theorem rounds_ofScientific (m n : ℕ) :
    ∃ r, Rounds (m / 10 ^ n) r ∧
      Canonical (UnpackedFloat.ofScientific .binary64 m (-n)) r := by
  unfold UnpackedFloat.ofScientific
  by_cases zero : m = 0
  · rw [dif_pos zero, zero, Nat.cast_zero, zero_div]
    exact ⟨0, Canonical.zero.rounds, .zero⟩
  have positive := Nat.pos_of_ne_zero zero
  rw [dif_neg zero, if_neg (by norm_num)]
  by_cases tiny : (-n : ℤ) < -((2 ^ Format.binary64.exponentBits : ℤ) + m.log2)
  · rw [if_pos tiny]
    have digits : m.log2 + 1 + 1075 ≤ n := by
      norm_num at tiny
      omega
    exact ⟨0, rounds_zero (by positivity) (decimal_lt_pow digits), .zero⟩
  rw [if_neg tiny]
  by_cases whole : (0 : ℤ) ≤ -n
  · obtain rfl : n = 0 := by omega
    have shifted : 0 < m <<< Format.binary64.mantissaBits := by
      rw [Nat.shiftLeft_eq]
      exact Nat.mul_pos positive (Nat.two_pow_pos _)
    have one : 0 < 10 ^ 0 := Nat.one_pos
    have low : (-53 + 0 : ℤ) ≤ Format.binary64.targetExponent
        (totalExponent (m <<< Format.binary64.mantissaBits * 10 ^ 0) (-53 + 0)) := by
      rw [pow_zero, mul_one, targetExponent_eq, totalExponent, log2_shiftLeft positive]
      simp only [Format.mantissaBits]
      omega
    have held := rounds_mul shifted one low
    have same : ((m <<< Format.binary64.mantissaBits : ℕ) : ℚ) * 2 ^ (-53 : ℤ) *
        (((10 ^ 0 : ℕ) : ℚ) * 2 ^ (0 : ℤ)) = m / 10 ^ 0 := by
      rw [Nat.shiftLeft_eq]
      push_cast
      norm_num [Format.mantissaBits]
      ring
    rw [if_pos whole, ← same]
    exact held
  · have power : 0 < 10 ^ n := Nat.pow_pos (by decide)
    have held := @rounds_div m (10 ^ n) 0 0 positive power
    rw [zpow_zero, mul_one, mul_one, Nat.cast_pow, Nat.cast_ofNat] at held
    rw [if_neg whole]
    simp only [neg_neg, Int.toNat_natCast]
    exact held

end Operations

section Packed

variable {u : UnpackedFloat} {r : ℚ}

theorem exponent_ofNat {n : ℕ} (low : 0 < n) (high : n < 2047) :
    (BitVec.ofNat 11 n).toNat = n ∧ BitVec.ofNat 11 n ≠ -1#11 ∧ BitVec.ofNat 11 n ≠ 0#11 := by
  have value : (BitVec.ofNat 11 n).toNat = n := by
    rw [BitVec.toNat_ofNat, Nat.mod_eq_of_lt (by omega)]
  refine ⟨value, fun same => ?_, fun same => ?_⟩
  · rw [same] at value
    have ones : (-1#11).toNat = 2047 := by decide
    omega
  · rw [same, BitVec.toNat_zero] at value
    omega

theorem mantissa_ofNat {m : ℕ} (below : m < 2 ^ 53) (full : 2 ^ 52 ≤ m) :
    (1#1 ++ BitVec.ofNat 52 m).toNat = m := by
  have one : (1#1).toNat = 1 := rfl
  rw [BitVec.toNat_append, ← Nat.shiftLeft_add_eq_or_of_lt (BitVec.isLt _), one,
    BitVec.toNat_ofNat, Nat.shiftLeft_eq]
  omega

theorem unpack_normal {m b : ℕ} (positive : 0 < m) (below : m < 2 ^ 53) (full : 2 ^ 52 ≤ m)
    (low : 0 < b) (high : b < 2047) :
    UnpackedFloat.unpack .binary64
        (UnpackedFloat.packComponents .binary64 .positive (.ofNat 11 b) (.ofNat 52 m)) =
      .finite .positive m (b - 1075) positive := by
  obtain ⟨value, ones, zeros⟩ := exponent_ofNat low high
  simp only [UnpackedFloat.unpack, UnpackedFloat.unpackMantissa_packComponents,
    UnpackedFloat.unpackExponent_packComponents, UnpackedFloat.unpackSign_packComponents,
    UnpackedFloat.Sign.ofBitVec_toBitVec]
  rw [if_neg ones, if_neg zeros, UnpackedFloat.finite.injEq, value]
  exact ⟨rfl, mantissa_ofNat below full, rfl⟩

theorem unpack_subnormal {m : ℕ} (positive : 0 < m) (below : m < 2 ^ 52) :
    UnpackedFloat.unpack .binary64
        (UnpackedFloat.packComponents .binary64 .positive 0#11 (.ofNat 52 m)) =
      .finite .positive m (-1074) positive := by
  have value : (BitVec.ofNat 52 m).toNat = m := by
    rw [BitVec.toNat_ofNat, Nat.mod_eq_of_lt below]
  have some : BitVec.ofNat 52 m ≠ 0#52 := by
    intro same
    rw [same, BitVec.toNat_zero] at value
    omega
  have ones : (0#11 : BitVec 11) ≠ -1#11 := by decide
  simp only [UnpackedFloat.unpack, UnpackedFloat.unpackMantissa_packComponents,
    UnpackedFloat.unpackExponent_packComponents, UnpackedFloat.unpackSign_packComponents,
    UnpackedFloat.Sign.ofBitVec_toBitVec]
  rw [if_neg ones, if_pos trivial, dif_neg some, UnpackedFloat.finite.injEq, value]
  exact ⟨rfl, rfl, rfl⟩

theorem Canonical.unpack_pack (held : Canonical u r) :
    r < 2 ^ (1024 : ℤ) ∧ UnpackedFloat.unpack .binary64 (UnpackedFloat.pack .binary64 u) = u ∨
      2 ^ (1024 : ℤ) ≤ r ∧ UnpackedFloat.unpack .binary64 (UnpackedFloat.pack .binary64 u) =
        .infinity .positive := by
  cases held with
  | zero => exact Or.inl ⟨pow_pos_two 1024, UnpackedFloat.unpack_packedZero⟩
  | finite m e positive below least full =>
    have place := pow_pos_two e
    obtain ⟨b, biased⟩ := Int.eq_ofNat_of_zero_le (a := e + 1075) (by omega)
    have exponent : (e + Format.binary64.exponentBias +
        Format.binary64.mantissaBitsWithoutImplicit).toNat = b := by
      have bias : (Format.binary64.exponentBias : ℤ) = 1023 := rfl
      have bits : (Format.binary64.mantissaBitsWithoutImplicit : ℤ) = 52 := rfl
      rw [bias, bits]
      omega
    by_cases large : 972 ≤ e
    · right
      constructor
      · have least : ((2 ^ 52 : ℕ) : ℚ) ≤ m := Nat.cast_le.mpr (full.resolve_left (by omega))
        calc (2 : ℚ) ^ (1024 : ℤ) ≤ 2 ^ (52 + e) := pow_two_le.mpr (by omega)
          _ = ((2 ^ 52 : ℕ) : ℚ) * 2 ^ e := by
            rw [zpow_add₀ two_ne_zero]
            push_cast
            norm_num
          _ ≤ m * 2 ^ e := mul_le_mul_of_nonneg_right least place.le
      · simp only [UnpackedFloat.pack, exponent]
        rw [if_pos (by show 2048 ≤ b + 1; omega)]
        rfl
    · left
      constructor
      · have most : (m : ℚ) < ((2 ^ 53 : ℕ) : ℚ) := Nat.cast_lt.mpr below
        calc (m : ℚ) * 2 ^ e < ((2 ^ 53 : ℕ) : ℚ) * 2 ^ e := mul_lt_mul_of_pos_right most place
          _ = 2 ^ (53 + e) := by
            rw [zpow_add₀ two_ne_zero]
            push_cast
            norm_num
          _ ≤ 2 ^ (1024 : ℤ) := pow_two_le.mpr (by omega)
      · simp only [UnpackedFloat.pack, exponent]
        rw [if_neg (by show ¬ 2048 ≤ b + 1; omega)]
        by_cases normal : 2 ^ 52 ≤ m
        · have bits : m.log2 + 1 = Format.binary64.mantissaBits := by
            have least := (Nat.le_log2 positive.ne').mpr normal
            have most := (Nat.log2_lt positive.ne').mpr below
            show m.log2 + 1 = 53
            omega
          have same : e = b - 1075 := by omega
          rw [if_pos bits, unpack_normal positive below normal (by omega) (by omega)]
          simp only [same]
        · have bits : ¬ m.log2 + 1 = Format.binary64.mantissaBits := by
            have most := (Nat.log2_lt positive.ne').mpr (not_le.mp normal)
            show ¬ m.log2 + 1 = 53
            omega
          have same : e = -1074 := full.resolve_right normal
          rw [if_neg bits, unpack_subnormal positive (not_le.mp normal)]
          simp only [same]

end Packed

section Doubles

/-- A double that stands for a number. -/
def Is (x : Float) (r : ℚ) : Prop := Canonical x.toModel.unpack r

/-- A double that an exact number was rounded to, infinite where the number is too large. -/
def Gives (x : ℚ) (f : Float) : Prop :=
  ∃ r, Rounds x r ∧ (Is f r ∨ 2 ^ (1024 : ℤ) ≤ r ∧ f.toModel.unpack = .infinity .positive)

variable {a b : Float} {r q x : ℚ} {u : UnpackedFloat}

theorem gives_of_canonical (rounded : ∃ r, Rounds x r ∧ Canonical u r) :
    Gives x (.ofModel (.pack u)) := by
  obtain ⟨r, rounds, held⟩ := rounded
  refine ⟨r, rounds, ?_⟩
  rcases held.unpack_pack with ⟨-, same⟩ | ⟨large, infinite⟩
  · left
    show Canonical (UnpackedFloat.unpack .binary64 (UnpackedFloat.pack .binary64 u)) r
    rw [same]
    exact held
  · exact Or.inr ⟨large, infinite⟩

theorem Is.add (first : Is a r) (second : Is b q) : Gives (r + q) (a + b) :=
  gives_of_canonical (Canonical.add first second)

theorem Is.div (first : Is a r) (second : Is b q) (positive : 0 < q) : Gives (r / q) (a / b) := by
  apply gives_of_canonical
  unfold Is at first second
  generalize a.toModel.unpack = u at first ⊢
  generalize b.toModel.unpack = v at second ⊢
  cases second with
  | zero => exact absurd positive (lt_irrefl 0)
  | finite m₂ e₂ positive₂ =>
    cases first with
    | zero =>
      rw [zero_div]
      exact ⟨0, Canonical.zero.rounds, .zero⟩
    | finite m₁ e₁ positive₁ => exact rounds_div positive₁ positive₂

theorem is_toFloat {m : ℕ} (fits : m < 2 ^ 53) : Is m.toUInt64.toFloat m := by
  have value : m.toUInt64.toNat = m := by
    rw [UInt64.toNat_ofNat']
    omega
  show Canonical (UnpackedFloat.unpack .binary64 (UnpackedFloat.pack .binary64
    (UnpackedFloat.normalize .binary64 m.toUInt64.toNat 0 .positive))) m
  rw [value]
  by_cases zero : m = 0
  · rw [zero, Nat.cast_zero]
    exact .zero
  · obtain ⟨r, rounds, held⟩ := rounds_normalize 0 (Nat.pos_of_ne_zero zero)
    rw [zpow_zero, mul_one] at rounds
    rw [rounds.of_natCast fits] at held
    rcases held.unpack_pack with ⟨-, same⟩ | ⟨large, -⟩
    · rw [same]
      exact held
    · have power : (2 : ℚ) ^ (53 : ℤ) ≤ 2 ^ (1024 : ℤ) := pow_two_le.mpr (by omega)
      have small : (m : ℚ) < 2 ^ (53 : ℤ) := by exact_mod_cast fits
      exact absurd (large.trans_lt (small.trans_le power)) (lt_irrefl _)

/-- A double that holds a power of ten. -/
def holdsPower (x : Float) (n : ℕ) : Bool :=
  match x.toModel.unpack with
  | .finite .positive m e _ =>
    decide (-52 ≤ e ∧ m < 2 ^ 53 ∧ 2 ^ 52 ≤ m ∧ m * 2 ^ (e + 52).toNat = 10 ^ n * 2 ^ 52)
  | _ => false

theorem is_of_holdsPower {n : ℕ} (held : holdsPower a n = true) : Is a (10 ^ n) := by
  unfold holdsPower at held
  unfold Is
  split at held
  · rename_i m e positive same
    obtain ⟨least, below, full, value⟩ := of_decide_eq_true held
    obtain ⟨k, exponent⟩ := Int.le.dest least
    obtain rfl : e = k - 52 := by omega
    have number : (m : ℚ) * 2 ^ (k - 52 : ℤ) = 10 ^ n := by
      have cast : (m : ℚ) * 2 ^ k = 10 ^ n * 2 ^ 52 := by
        rw [sub_add_cancel, Int.toNat_natCast] at value
        exact_mod_cast value
      rw [zpow_sub₀ two_ne_zero, zpow_natCast, mul_div_assoc', cast]
      norm_num
    rw [same, ← number]
    exact .finite m _ positive below (by omega) (Or.inr full)
  · cases held

theorem powersOfTen_held : ∀ i : Fin Float.exactlyRepresentablePowersOfTen.size,
    holdsPower Float.exactlyRepresentablePowersOfTen[i] i = true := by decide +kernel

theorem is_powerOfTen {n : ℕ} (inside : n < Float.exactlyRepresentablePowersOfTen.size) :
    Is Float.exactlyRepresentablePowersOfTen[n] (10 ^ n) :=
  is_of_holdsPower (powersOfTen_held ⟨n, inside⟩)

theorem gives_ofScientific (m n : ℕ) : Gives (m / 10 ^ n) (Float.ofScientific m true n) := by
  unfold Float.ofScientific
  split
  · rename_i small
    exact (is_toFloat small.1).div (is_powerOfTen _) (by positivity)
  · have exponent : Int.negOfNat n = -n := Int.negOfNat_eq
    simp only [if_true, exponent]
    exact gives_of_canonical (rounds_ofScientific m n)

end Doubles

section Truncate

/-- A double whose number without its fraction is an int. -/
def fitsInt (x : Float) : Bool :=
  match x.toModel.unpack with
  | .finite s m e _ =>
    let n := UnpackedFloat.roundToInt s m e
    decide (-2 ^ 31 ≤ n ∧ n < 2 ^ 31)
  | .zero _ => true
  | _ => false

variable {x : Float} {r : ℚ}

theorem roundToInt_eq (m : ℕ) (e : ℤ) :
    UnpackedFloat.roundToInt .positive m e = ⌊(m : ℚ) * 2 ^ e⌋ := by
  simp only [UnpackedFloat.roundToInt, UnpackedFloat.decreaseExponent,
    UnpackedFloat.shiftToExponent, UnpackedFloat.Sign.apply, sub_zero]
  generalize amount : (0 - (e - e.toNat)).toNat = s
  have held := (holds_natCast (m <<< e.toNat)).shiftRight s
  have same : ((m <<< e.toNat : ℕ) : ℚ) / 2 ^ s = m * 2 ^ e := by
    rw [Nat.shiftLeft_eq, ← zpow_natCast]
    push_cast
    rw [← zpow_natCast, mul_div_assoc, ← zpow_sub₀ two_ne_zero]
    congr 2
    omega
  rw [same] at held
  exact held.whole

theorem Is.fitsInt_iff (held : Is x r) : fitsInt x = true ↔ ⌊r⌋ < 2 ^ 31 := by
  have nonneg := Canonical.nonneg held
  unfold Is at held
  unfold fitsInt
  cases value : x.toModel.unpack with
  | zero s =>
    rw [value] at held
    cases held
    exact iff_of_true rfl (by norm_num)
  | finite s m e =>
    rw [value] at held
    cases held
    rw [decide_eq_true_eq, roundToInt_eq]
    have least := Int.floor_nonneg.mpr nonneg
    omega
  | infinity s =>
    rw [value] at held
    cases held
  | notANumber =>
    rw [value] at held
    cases held

theorem Canonical.toInt {u : UnpackedFloat} (held : Canonical u r) (low high : ℤ) :
    u.toInt low high = ⌊r⌋ := by
  cases held with
  | zero => exact Int.floor_zero.symm
  | finite m e => exact roundToInt_eq m e

theorem Is.toInt32 (held : Is x r) (fits : ⌊r⌋ < 2 ^ 31) : x.toModel.toInt32.toInt = ⌊r⌋ := by
  have least := Int.floor_nonneg.mpr (Canonical.nonneg held)
  show (Int32.ofIntClamp (x.toModel.unpack.toInt _ _)).toInt = ⌊r⌋
  rw [Canonical.toInt held]
  apply Int32.toInt_ofIntClamp
  · have low : Int32.minValue.toInt = -2 ^ 31 := by decide
    omega
  · have high : Int32.maxValue.toInt = 2 ^ 31 - 1 := by decide
    omega

end Truncate

section HalfUp

theorem unpack_half : (0.5 : Float).toModel.unpack =
    .finite .positive (2 ^ 52) (-53) (by decide) := rfl

theorem is_half : Is 0.5 (1 / 2) := by
  have value : (1 / 2 : ℚ) = ((2 ^ 52 : ℕ) : ℚ) * 2 ^ (-53 : ℤ) := by norm_num
  unfold Is
  rw [unpack_half, value]
  exact .finite _ _ _ (by decide) (by decide) (Or.inr le_rfl)

theorem Is.isInf {x : Float} {r : ℚ} (held : Is x r) : x.isInf = false := by
  unfold Is at held
  show x.toModel.unpack.isInf = false
  generalize x.toModel.unpack = u at held ⊢
  cases held <;> rfl

theorem Is.isNaN {x : Float} {r : ℚ} (held : Is x r) : x.isNaN = false := by
  unfold Is at held
  show x.toModel.unpack.isNaN = false
  generalize x.toModel.unpack = u at held ⊢
  cases held <;> rfl

theorem Is.zero_le {x : Float} {r : ℚ} (held : Is x r) : 0 ≤ x := by
  apply (le_iff_place rfl held.isNaN).mpr
  have zero : place 0 = toLex (0, toLex (0, 0)) := rfl
  rw [zero, place]
  unfold Is at held
  generalize x.toModel.unpack = u at held ⊢
  cases held with
  | zero => exact le_rfl
  | finite m e =>
    apply le_of_lt
    rw [rank, Prod.Lex.toLex_lt_toLex]
    exact Or.inl one_pos

theorem fitsInt_infinity {x : Float} (infinite : x.toModel.unpack = .infinity .positive) :
    fitsInt x = false := by
  unfold fitsInt
  rw [infinite]

theorem infinity_add_half {v : Float} (infinite : v.toModel.unpack = .infinity .positive) :
    (v + 0.5).toModel.unpack = .infinity .positive := by
  show UnpackedFloat.unpack .binary64 (UnpackedFloat.pack .binary64
    (UnpackedFloat.add .binary64 v.toModel.unpack (0.5 : Float).toModel.unpack)) = _
  rw [infinite, unpack_half]
  rfl

variable {x : ℚ} {v : Float}

theorem rounds_small {r : ℚ} (rounds : Rounds x r) (large : 2 ^ (1024 : ℤ) ≤ r) : 2 ^ 31 < x := by
  by_contra small
  have bound : x ≤ ((1 : ℤ) : ℚ) * 2 ^ (31 : ℤ) := by
    norm_num at small ⊢
    exact small
  have fits : x < 2 ^ ((31 : ℤ) + 53) := by
    norm_num at small ⊢
    linarith
  have rounded := rounds.le_multiple (by omega) fits bound
  rw [Int.cast_one, one_mul] at rounded
  have order := pow_two_le.mp (large.trans rounded)
  omega

theorem Gives.large (read : Gives x v) (infinite : v.isInf = true) : 2 ^ 31 < x := by
  obtain ⟨r, rounds, held | ⟨large, -⟩⟩ := read
  · rw [held.isInf] at infinite
    cases infinite
  · exact rounds_small rounds large

/-- A number read and rounded to an int by adding a half and cutting the fraction off:
whether it fits an int, and which int it is then. -/
theorem Gives.half_up (read : Gives x v) (nonneg : 0 ≤ x) :
    (fitsInt (v + 0.5) = true ↔ x < 2 ^ 31 - 1 / 2 - 1 / 2 ^ 23) ∧
      (x < 2 ^ 31 - 1 / 2 - 1 / 2 ^ 23 →
        (v + 0.5).toModel.toInt32.toInt = ⌊x + 1 / 2⌋ + if Carries x then 1 else 0) := by
  obtain ⟨r, first, held | ⟨large, infinite⟩⟩ := read
  · obtain ⟨w, second, sum | ⟨large, infinite⟩⟩ := held.add is_half
    · have fits := floor_lt_iff first second nonneg
      refine ⟨sum.fitsInt_iff.trans fits, fun small => ?_⟩
      have size : x + 1 / 2 < 2 ^ 51 := by
        norm_num at small ⊢
        linarith
      rw [sum.toInt32 (fits.mpr small), floor_half_up first second nonneg size]
    · have big : ¬ x < 2 ^ 31 - 1 / 2 - 1 / 2 ^ 23 := by
        rw [← floor_lt_iff first second nonneg, Int.floor_lt]
        have power : (2 : ℚ) ^ (31 : ℤ) ≤ 2 ^ (1024 : ℤ) := pow_two_le.mpr (by omega)
        have more := power.trans large
        norm_num at more ⊢
        exact more
      exact ⟨iff_of_false (by simp [fitsInt_infinity infinite]) big, fun small => absurd small big⟩
  · have big : ¬ x < 2 ^ 31 - 1 / 2 - 1 / 2 ^ 23 := by
      have more := rounds_small first large
      norm_num at more ⊢
      linarith
    have sum := infinity_add_half infinite
    exact ⟨iff_of_false (by simp [fitsInt_infinity sum]) big, fun small => absurd small big⟩

end HalfUp

end GrumpyScreen.Lib.Ieee
