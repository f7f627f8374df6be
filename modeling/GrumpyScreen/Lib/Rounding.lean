import Mathlib.Algebra.Order.Field.Power
import Mathlib.Data.Rat.Floor
import Mathlib.Tactic.FieldSimp
import Mathlib.Tactic.Linarith
import Mathlib.Tactic.NormNum
import Mathlib.Tactic.Ring

/-! Rounding to the nearest double, ties to the even one, on the rational numbers, and
what adding a half and cutting the fraction off makes of a number that was rounded. -/

namespace GrumpyScreen.Lib

section RoundEven

/-- The nearest integer, of two the even one. -/
def roundEven (y : ℚ) : ℤ :=
  if Int.fract y < 1 / 2 then ⌊y⌋
  else if 1 / 2 < Int.fract y then ⌊y⌋ + 1
  else ⌊y⌋ + ⌊y⌋ % 2

variable {y : ℚ} {n : ℤ}

theorem le_roundEven (below : (n : ℚ) - 1 / 2 < y) : n ≤ roundEven y := by
  have parts := Int.floor_add_fract y
  have small := Int.fract_lt_one y
  unfold roundEven
  split_ifs with low high
  · have close : (n : ℚ) < (⌊y⌋ + 1 : ℤ) := by
      push_cast
      linarith
    exact Int.lt_add_one_iff.mp (Int.cast_lt.mp close)
  · have close : (n : ℚ) < (⌊y⌋ + 1 + 1 : ℤ) := by
      push_cast
      linarith
    exact Int.lt_add_one_iff.mp (Int.cast_lt.mp close)
  · have close : (n : ℚ) < (⌊y⌋ + 1 : ℤ) := by
      push_cast
      linarith
    have least := Int.lt_add_one_iff.mp (Int.cast_lt.mp close)
    omega

theorem roundEven_le (above : y < n + 1 / 2) : roundEven y ≤ n := by
  have parts := Int.floor_add_fract y
  have nonneg := Int.fract_nonneg y
  unfold roundEven
  split_ifs with low high
  · have close : (⌊y⌋ : ℚ) < (n + 1 : ℤ) := by
      push_cast
      linarith
    exact Int.lt_add_one_iff.mp (Int.cast_lt.mp close)
  · have close : (⌊y⌋ : ℚ) < n := by linarith
    exact Int.cast_lt.mp close
  · have close : (⌊y⌋ : ℚ) < n := by linarith
    have least := Int.cast_lt.mp close
    omega

theorem le_roundEven_of_even (even : n % 2 = 0) (below : (n : ℚ) - 1 / 2 ≤ y) :
    n ≤ roundEven y := by
  rcases below.lt_or_eq with nearer | halfway
  · exact le_roundEven nearer
  · have under : ⌊y⌋ = n - 1 := by
      rw [← halfway, Int.floor_eq_iff]
      push_cast
      constructor <;> linarith
    have parts := Int.floor_add_fract y
    rw [under] at parts
    push_cast at parts
    have half : Int.fract y = 1 / 2 := by linarith
    rw [roundEven, if_neg half.not_lt, if_neg half.not_gt, under]
    omega

theorem roundEven_le_of_even (even : n % 2 = 0) (above : y ≤ n + 1 / 2) : roundEven y ≤ n := by
  rcases above.lt_or_eq with nearer | halfway
  · exact roundEven_le nearer
  · have under : ⌊y⌋ = n := by
      rw [halfway, Int.floor_eq_iff]
      constructor <;> linarith
    have parts := Int.floor_add_fract y
    rw [under] at parts
    have half : Int.fract y = 1 / 2 := by linarith
    rw [roundEven, if_neg half.not_lt, if_neg half.not_gt, under]
    omega

@[simp] theorem roundEven_intCast (n : ℤ) : roundEven n = n := by
  apply le_antisymm
  · exact roundEven_le (by linarith)
  · exact le_roundEven (by linarith)

end RoundEven

section Places

/-- A number rounded at the place `e`: 53 binary places of it, or fewer where they
would go below the last place there is. -/
structure RoundsAt (e : ℤ) (x r : ℚ) : Prop where
  least : -1074 ≤ e
  full : e = -1074 ∨ (2 : ℚ) ^ (e + 52) ≤ x
  below : x < (2 : ℚ) ^ (e + 53)
  value : r = roundEven (x / 2 ^ e) * 2 ^ e

/-- A number and the double nearest to it. -/
def Rounds (x r : ℚ) : Prop := ∃ e, RoundsAt e x r

variable {e p : ℤ} {x r : ℚ} {n : ℤ}

theorem pow_pos_two (e : ℤ) : (0 : ℚ) < 2 ^ e := zpow_pos two_pos e

theorem pow_two_lt {a b : ℤ} : (2 : ℚ) ^ a < 2 ^ b ↔ a < b := zpow_lt_zpow_iff_right₀ one_lt_two

theorem pow_two_le {a b : ℤ} : (2 : ℚ) ^ a ≤ 2 ^ b ↔ a ≤ b := zpow_le_zpow_iff_right₀ one_lt_two

theorem RoundsAt.coarse (held : RoundsAt e x r) (least : -1074 ≤ p) (small : x < 2 ^ (p + 53)) :
    e ≤ p := by
  rcases held.full with last | full
  · omega
  · have order := pow_two_lt.mp (full.trans_lt small)
    omega

theorem multiple_finer (n e : ℤ) (k : ℕ) :
    (n : ℚ) * 2 ^ (e + k) = ((n * 2 ^ k : ℤ) : ℚ) * 2 ^ e := by
  rw [zpow_add₀ two_ne_zero, zpow_natCast]
  push_cast
  ring

theorem Rounds.multiple_le (held : Rounds x r) (least : -1074 ≤ p) (small : x < 2 ^ (p + 53))
    (below : n * 2 ^ p ≤ x) : n * 2 ^ p ≤ r := by
  obtain ⟨e, held⟩ := held
  obtain ⟨k, rfl⟩ := Int.le.dest (held.coarse least small)
  rw [multiple_finer] at below ⊢
  rw [held.value]
  apply mul_le_mul_of_nonneg_right _ (pow_pos_two e).le
  have quotient := (le_div_iff₀ (pow_pos_two e)).mpr below
  exact Int.cast_le.mpr (le_roundEven (by linarith))

theorem Rounds.le_multiple (held : Rounds x r) (least : -1074 ≤ p) (small : x < 2 ^ (p + 53))
    (above : x ≤ n * 2 ^ p) : r ≤ n * 2 ^ p := by
  obtain ⟨e, held⟩ := held
  obtain ⟨k, rfl⟩ := Int.le.dest (held.coarse least small)
  rw [multiple_finer] at above ⊢
  rw [held.value]
  apply mul_le_mul_of_nonneg_right _ (pow_pos_two e).le
  have quotient := (div_le_iff₀ (pow_pos_two e)).mpr above
  exact Int.cast_le.mpr (roundEven_le (by linarith))

theorem Rounds.at_place (held : Rounds x r) (least : -1074 ≤ p) (full : 2 ^ (p + 52) ≤ x)
    (small : x < 2 ^ (p + 53)) : r = roundEven (x / 2 ^ p) * 2 ^ p := by
  obtain ⟨e, held⟩ := held
  have coarse := held.coarse least small
  have order := pow_two_lt.mp (full.trans_lt held.below)
  have same : e = p := by omega
  rw [held.value, same]

theorem Rounds.pow_le (held : Rounds x r) {a : ℤ} (least : -1074 ≤ a) (above : 2 ^ a ≤ x) :
    2 ^ a ≤ r := by
  by_cases fine : x < 2 ^ (a + 53)
  · have one : ((1 : ℤ) : ℚ) * 2 ^ a ≤ x := by rwa [Int.cast_one, one_mul]
    have kept := held.multiple_le least fine one
    rwa [Int.cast_one, one_mul] at kept
  · obtain ⟨e, held⟩ := held
    have order := pow_two_lt.mp ((not_lt.mp fine).trans_lt held.below)
    have full : (2 : ℚ) ^ (e + 52) ≤ x := held.full.resolve_left (by omega)
    have many : (((2 : ℤ) ^ 52 : ℤ) : ℚ) ≤ x / 2 ^ e := by
      apply (le_div_iff₀ (pow_pos_two e)).mpr
      rw [zpow_add₀ two_ne_zero] at full
      push_cast
      rw [mul_comm]
      exact full
    have rounded : (2 : ℤ) ^ 52 ≤ roundEven (x / 2 ^ e) := le_roundEven (by linarith)
    calc (2 : ℚ) ^ a ≤ 2 ^ (52 + e) := pow_two_le.mpr (by omega)
      _ = ((2 ^ 52 : ℤ) : ℚ) * 2 ^ e := by rw [zpow_add₀ two_ne_zero]; norm_num
      _ ≤ roundEven (x / 2 ^ e) * 2 ^ e := by
        exact mul_le_mul_of_nonneg_right (Int.cast_le.mpr rounded) (pow_pos_two e).le
      _ = r := held.value.symm

theorem Rounds.of_natCast {n : ℕ} (held : Rounds n r) (fits : n < 2 ^ 53) : r = n := by
  have small : (n : ℚ) < 2 ^ ((0 : ℤ) + 53) := by
    have cast : ((n : ℕ) : ℚ) < ((2 ^ 53 : ℕ) : ℚ) := Nat.cast_lt.mpr fits
    rw [zero_add]
    exact_mod_cast cast
  have whole : ((n : ℤ) : ℚ) * 2 ^ (0 : ℤ) = n := by rw [zpow_zero, mul_one, Int.cast_natCast]
  apply le_antisymm
  · exact (held.le_multiple (by omega) small whole.ge).trans whole.le
  · exact whole.ge.trans (held.multiple_le (by omega) small whole.le)

end Places

section HalfUp

/-- Numbers so little below a half that it is lost on the way to the nearest integer:
rounded, a half added and rounded again, they reach the next one. -/
def Carries (x : ℚ) : Prop :=
  if ⌊x + 1 / 2⌋ = 0 then 1 / 2 - 3 / 2 ^ 55 < x
  else ⌊x + 1 / 2⌋ + 1 / 2 - 2 ^ ((⌊x + 1 / 2⌋.toNat.log2 : ℤ) - 53) ≤ x

instance : DecidablePred Carries := fun _ => inferInstanceAs (Decidable (ite _ _ _))

variable {x v w : ℚ}

theorem carries_zero (zero : ⌊x + 1 / 2⌋ = 0) : Carries x ↔ 1 / 2 - 3 / 2 ^ 55 < x := by
  rw [Carries, if_pos zero]

theorem carries_pos {k : ℕ} (floor : ⌊x + 1 / 2⌋ = k) (positive : k ≠ 0) :
    Carries x ↔ (k : ℚ) + 1 / 2 - 2 ^ ((k.log2 : ℤ) - 53) ≤ x := by
  rw [Carries, floor, if_neg (Int.natCast_ne_zero.mpr positive), Int.toNat_natCast,
    Int.cast_natCast]

section Small

theorem small_carried (first : Rounds x v) (low : 1 / 2 - 3 / 2 ^ 55 < x)
    (high : x < 1 / 2) : 1 / 2 - 1 / 2 ^ 54 ≤ v ∧ v ≤ 1 / 2 := by
  have place : v = roundEven (x / 2 ^ (-54 : ℤ)) * 2 ^ (-54 : ℤ) := by
    apply first.at_place (by omega)
    · norm_num at low ⊢
      linarith
    · norm_num at high ⊢
      linarith
  constructor
  · have rounded : (2 : ℤ) ^ 53 - 1 ≤ roundEven (x / 2 ^ (-54 : ℤ)) := by
      apply le_roundEven
      norm_num at low ⊢
      linarith
    have cast := Int.cast_le (R := ℚ).mpr rounded
    rw [place]
    norm_num at cast ⊢
    linarith
  · have bound := first.le_multiple (p := -54) (n := 2 ^ 53) (by omega)
      (by norm_num at high ⊢; linarith) (by norm_num at high ⊢; linarith)
    norm_num at bound ⊢
    exact bound

theorem small_kept (first : Rounds x v) (nonneg : 0 ≤ x) (low : x ≤ 1 / 2 - 3 / 2 ^ 55) :
    0 ≤ v ∧ v ≤ 1 / 2 - 1 / 2 ^ 53 := by
  have small : x < 2 ^ ((-54 : ℤ) + 53) := by
    norm_num at low ⊢
    linarith
  constructor
  · have bound := first.multiple_le (p := -54) (n := 0) (by omega) small (by simpa using nonneg)
    simpa using bound
  · by_cases reached : x ≤ ((2 ^ 53 - 2 : ℤ) : ℚ) * 2 ^ (-54 : ℤ)
    · have bound := first.le_multiple (by omega) small reached
      norm_num at bound ⊢
      exact bound
    · have place : v = roundEven (x / 2 ^ (-54 : ℤ)) * 2 ^ (-54 : ℤ) := by
        apply first.at_place (by omega) _ small
        norm_num at reached ⊢
        linarith
      have rounded : roundEven (x / 2 ^ (-54 : ℤ)) ≤ 2 ^ 53 - 2 := by
        apply roundEven_le_of_even (by decide)
        norm_num at low ⊢
        linarith
      have cast := Int.cast_le (R := ℚ).mpr rounded
      rw [place]
      norm_num at cast ⊢
      linarith

theorem small_floor (first : Rounds x v) (second : Rounds (v + 1 / 2) w) (nonneg : 0 ≤ x)
    (high : x < 1 / 2) : ⌊w⌋ = if 1 / 2 - 3 / 2 ^ 55 < x then 1 else 0 := by
  by_cases low : 1 / 2 - 3 / 2 ^ 55 < x
  · obtain ⟨least, most⟩ := small_carried first low high
    have top := second.le_multiple (p := 0) (n := 1) (by omega) (by norm_num; linarith)
      (by norm_num; linarith)
    have one : 1 ≤ w := by
      by_cases reached : 1 ≤ v + 1 / 2
      · have bound := second.multiple_le (p := 0) (n := 1) (by omega) (by norm_num; linarith)
          (by simpa using reached)
        simpa using bound
      · have place : w = roundEven ((v + 1 / 2) / 2 ^ (-53 : ℤ)) * 2 ^ (-53 : ℤ) := by
          apply second.at_place (by omega)
          · norm_num at least ⊢
            linarith
          · norm_num
            linarith
        have rounded : (2 : ℤ) ^ 53 ≤ roundEven ((v + 1 / 2) / 2 ^ (-53 : ℤ)) := by
          apply le_roundEven_of_even (by decide)
          norm_num at least ⊢
          linarith
        have cast := Int.cast_le (R := ℚ).mpr rounded
        rw [place]
        norm_num at cast ⊢
        linarith
    rw [if_pos low, Int.floor_eq_iff]
    norm_num at top ⊢
    constructor <;> linarith
  · obtain ⟨least, most⟩ := small_kept first nonneg (not_lt.mp low)
    have small : v + 1 / 2 < 2 ^ ((-53 : ℤ) + 53) := by
      norm_num at most ⊢
      linarith
    have bottom := second.multiple_le (p := -53) (n := 0) (by omega) small (by norm_num; linarith)
    have top := second.le_multiple (p := -53) (n := 2 ^ 53 - 1) (by omega) small
      (by norm_num at most ⊢; linarith)
    rw [if_neg low, Int.floor_eq_iff]
    norm_num at top bottom ⊢
    constructor <;> linarith

end Small

section Large

variable {k d : ℕ}

theorem halves_eq (j : ℤ) (d : ℕ) :
    (j : ℚ) / 2 = ((j * 2 ^ d : ℤ) : ℚ) * 2 ^ (-1 - d : ℤ) := by
  rw [zpow_sub₀ two_ne_zero, zpow_natCast]
  push_cast
  have positive : (0 : ℚ) < 2 ^ d := pow_pos two_pos d
  field_simp

theorem half_place (d : ℕ) : (2 : ℚ) ^ (-2 - d : ℤ) = 2 ^ (-1 - d : ℤ) / 2 := by
  rw [show (-2 - d : ℤ) = (-1 - d) - 1 by omega, zpow_sub₀ two_ne_zero, zpow_one]

/-- The multiples of a half around a number are multiples of its place. -/
structure Between (k d : ℕ) (x : ℚ) : Prop where
  size : d ≤ 51
  even : 1 ≤ d
  low : 2 ^ (51 - d) ≤ k
  high : k < 2 ^ (52 - d)
  least : k - 1 / 2 ≤ x
  most : x < k + 1 / 2

theorem Between.pow_le (held : Between k d x) : (2 : ℚ) ^ ((-1 - d : ℤ) + 52) ≤ k := by
  have same : ((-1 - d : ℤ) + 52) = ((51 - d : ℕ) : ℤ) := by
    have size := held.size
    omega
  rw [same, zpow_natCast]
  exact_mod_cast held.low

theorem Between.lt_pow (held : Between k d x) : (k : ℚ) + 1 ≤ 2 ^ ((-1 - d : ℤ) + 53) := by
  have same : ((-1 - d : ℤ) + 53) = ((52 - d : ℕ) : ℤ) := by
    have size := held.size
    omega
  rw [same, zpow_natCast]
  exact_mod_cast held.high

theorem Between.lt_size (held : Between k d x) : x < 2 ^ ((-1 - d : ℤ) + 53) := by
  have bound := held.lt_pow
  have most := held.most
  linarith

theorem Between.place_le (held : Between k d x) : (2 : ℚ) ^ (-1 - d : ℤ) ≤ 1 / 4 := by
  have order : (2 : ℚ) ^ (-1 - d : ℤ) ≤ 2 ^ (-2 : ℤ) := by
    apply pow_two_le.mpr
    have even := held.even
    omega
  norm_num at order ⊢
  exact order

theorem Between.carried (held : Between k d x) (first : Rounds x v)
    (near : k + 1 / 2 - 2 ^ (-2 - d : ℤ) ≤ x) : v = k + 1 / 2 := by
  have size := held.size
  have half : (k : ℚ) + 1 / 2 = (((2 * k + 1) * 2 ^ d : ℤ) : ℚ) * 2 ^ (-1 - d : ℤ) := by
    rw [← halves_eq]
    push_cast
    ring
  have small := held.place_le
  have place_pos := pow_pos_two (-1 - d)
  rw [half_place] at near
  have below := held.lt_size
  have place : v = roundEven (x / 2 ^ (-1 - d : ℤ)) * 2 ^ (-1 - d : ℤ) := by
    apply first.at_place (by omega) _ below
    have bound := held.pow_le
    linarith
  apply le_antisymm
  · rw [half]
    apply first.le_multiple (by omega) below
    rw [← half]
    exact held.most.le
  · rw [place, half]
    apply mul_le_mul_of_nonneg_right _ place_pos.le
    apply Int.cast_le.mpr
    apply le_roundEven_of_even
    · obtain ⟨c, rfl⟩ := Nat.exists_eq_add_of_le' held.even
      rw [pow_succ, ← mul_assoc]
      exact Int.mul_emod_left _ 2
    · rw [le_div_iff₀ place_pos, sub_mul, ← half]
      linarith

theorem Between.kept (held : Between k d x) (first : Rounds x v)
    (far : x < k + 1 / 2 - 2 ^ (-2 - d : ℤ)) :
    k - 1 / 2 ≤ v ∧ v ≤ k + 1 / 2 - 2 ^ (-1 - d : ℤ) := by
  have size := held.size
  have half : (k : ℚ) + 1 / 2 - 2 ^ (-1 - d : ℤ) =
      (((2 * k + 1) * 2 ^ d - 1 : ℤ) : ℚ) * 2 ^ (-1 - d : ℤ) := by
    rw [Int.cast_sub, sub_mul, ← halves_eq]
    push_cast
    ring
  have under : (k : ℚ) - 1 / 2 = (((2 * k - 1) * 2 ^ d : ℤ) : ℚ) * 2 ^ (-1 - d : ℤ) := by
    rw [← halves_eq]
    push_cast
    ring
  have small := held.place_le
  have place_pos := pow_pos_two (-1 - d)
  rw [half_place] at far
  have below := held.lt_size
  constructor
  · rw [under]
    apply first.multiple_le (by omega) below
    rw [← under]
    exact held.least
  · by_cases reached : x ≤ k + 1 / 2 - 2 ^ (-1 - d : ℤ)
    · rw [half]
      apply first.le_multiple (by omega) below
      rw [← half]
      exact reached
    · have place : v = roundEven (x / 2 ^ (-1 - d : ℤ)) * 2 ^ (-1 - d : ℤ) := by
        apply first.at_place (by omega) _ below
        have bound := held.pow_le
        linarith
      rw [place, half]
      apply mul_le_mul_of_nonneg_right _ place_pos.le
      apply Int.cast_le.mpr
      apply roundEven_le
      rw [div_lt_iff₀ place_pos, add_mul, ← half]
      linarith

theorem Between.floor (held : Between k d x) (first : Rounds x v) (second : Rounds (v + 1 / 2) w) :
    ⌊w⌋ = if k + 1 / 2 - 2 ^ (-2 - d : ℤ) ≤ x then (k + 1 : ℤ) else k := by
  have size := held.size
  have small := held.place_le
  have place_pos := pow_pos_two (-1 - d)
  by_cases near : k + 1 / 2 - 2 ^ (-2 - d : ℤ) ≤ x
  · rw [held.carried first near] at second
    have whole : (k : ℚ) + 1 / 2 + 1 / 2 = ((k + 1 : ℕ) : ℚ) := by
      push_cast
      ring
    rw [whole] at second
    have fits : k + 1 < 2 ^ 53 := by
      have power : 2 ^ (52 - d) ≤ 2 ^ 52 := Nat.pow_le_pow_right two_pos (by omega)
      have high := held.high
      omega
    rw [if_pos near, second.of_natCast fits, Int.floor_natCast]
    push_cast
    rfl
  · obtain ⟨least, most⟩ := held.kept first (not_le.mp near)
    have below : v + 1 / 2 < 2 ^ ((-1 - d : ℤ) + 53) := by
      have bound := held.lt_pow
      linarith
    have whole : (k : ℚ) = ((2 * k * 2 ^ d : ℤ) : ℚ) * 2 ^ (-1 - d : ℤ) := by
      rw [← halves_eq]
      push_cast
      ring
    have under : (k : ℚ) + 1 - 2 ^ (-1 - d : ℤ) =
        (((2 * k + 2) * 2 ^ d - 1 : ℤ) : ℚ) * 2 ^ (-1 - d : ℤ) := by
      rw [Int.cast_sub, sub_mul, ← halves_eq]
      push_cast
      ring
    have bottom : (k : ℚ) ≤ w := by
      rw [whole]
      apply second.multiple_le (by omega) below
      rw [← whole]
      linarith
    have top : w ≤ k + 1 - 2 ^ (-1 - d : ℤ) := by
      rw [under]
      apply second.le_multiple (by omega) below
      rw [← under]
      linarith
    rw [if_neg near, Int.floor_eq_iff]
    push_cast
    constructor <;> linarith

end Large

/-- Rounding, adding a half, rounding and cutting the fraction off is rounding half up,
except for the numbers that carry. -/
theorem floor_half_up (first : Rounds x v) (second : Rounds (v + 1 / 2) w) (nonneg : 0 ≤ x)
    (size : x + 1 / 2 < 2 ^ 51) : ⌊w⌋ = ⌊x + 1 / 2⌋ + if Carries x then 1 else 0 := by
  have floor_le := Int.floor_le (x + 1 / 2)
  have lt_floor := Int.lt_floor_add_one (x + 1 / 2)
  obtain ⟨k, floor⟩ : ∃ k : ℕ, ⌊x + 1 / 2⌋ = k :=
    Int.eq_ofNat_of_zero_le (Int.floor_nonneg.mpr (by linarith))
  rw [floor, Int.cast_natCast] at floor_le lt_floor
  by_cases zero : k = 0
  · rw [zero, Nat.cast_zero] at lt_floor
    rw [zero, Nat.cast_zero] at floor
    rw [small_floor first second nonneg (by linarith), floor, zero_add]
    exact if_congr (carries_zero floor).symm rfl rfl
  · have fits : k < 2 ^ 51 := by
      have cast : (k : ℚ) < ((2 ^ 51 : ℕ) : ℚ) := by
        push_cast
        linarith
      exact Nat.cast_lt.mp cast
    have most : k.log2 < 51 := (Nat.log2_lt zero).mpr fits
    have between : Between k (51 - k.log2) x :=
      { size := Nat.sub_le 51 _
        even := by omega
        low := by
          rw [Nat.sub_sub_self most.le]
          exact Nat.log2_self_le zero
        high := by
          rw [show 52 - (51 - k.log2) = k.log2 + 1 by omega]
          exact Nat.lt_log2_self
        least := by linarith
        most := by linarith }
    have place : (-2 - (51 - k.log2 : ℕ) : ℤ) = (k.log2 : ℤ) - 53 := by omega
    have carried := between.floor first second
    rw [place] at carried
    rw [carried, floor]
    by_cases near : Carries x
    · rw [if_pos near, if_pos ((carries_pos floor zero).mp near)]
    · rw [if_neg near, if_neg (mt (carries_pos floor zero).mpr near), add_zero]

/-- The numbers that end below `2 ^ 31` are those more than half a place below the half
under it. -/
theorem floor_lt_iff (first : Rounds x v) (second : Rounds (v + 1 / 2) w) (nonneg : 0 ≤ x) :
    ⌊w⌋ < 2 ^ 31 ↔ x < 2 ^ 31 - 1 / 2 - 1 / 2 ^ 23 := by
  by_cases size : x + 1 / 2 < 2 ^ 51
  · have floor := floor_half_up first second nonneg size
    have most : Carries x → ⌊x + 1 / 2⌋ = 2 ^ 31 - 1 → 2 ^ 31 - 1 / 2 - 1 / 2 ^ 23 ≤ x := by
      intro carries last
      have near := (carries_pos (k := 2 ^ 31 - 1) last (by decide)).mp carries
      have place : (2 ^ 31 - 1).log2 = 30 := by decide
      rw [place] at near
      norm_num at near ⊢
      linarith
    have last : 2 ^ 31 - 1 / 2 - 1 / 2 ^ 23 ≤ x → x + 1 / 2 < 2 ^ 31 →
        ⌊x + 1 / 2⌋ = 2 ^ 31 - 1 ∧ Carries x := by
      intro near below
      have same : ⌊x + 1 / 2⌋ = ((2 ^ 31 - 1 : ℕ) : ℤ) := by
        rw [Int.floor_eq_iff]
        norm_num at near below ⊢
        constructor <;> linarith
      refine ⟨same, (carries_pos same (by decide)).mpr ?_⟩
      have place : (2 ^ 31 - 1).log2 = 30 := by decide
      rw [place]
      norm_num at near ⊢
      linarith
    have above : ⌊x + 1 / 2⌋ < 2 ^ 31 ↔ x + 1 / 2 < 2 ^ 31 := by
      rw [Int.floor_lt]
      norm_num
    rw [floor]
    constructor
    · intro fits
      by_contra near
      have below : x + 1 / 2 < 2 ^ 31 := by
        apply above.mp
        split_ifs at fits <;> omega
      obtain ⟨same, carries⟩ := last (not_lt.mp near) below
      rw [if_pos carries, same] at fits
      omega
    · intro near
      have below := above.mpr (by norm_num at near ⊢; linarith)
      by_cases carries : Carries x
      · have other := mt (most carries) (not_le.mpr near)
        rw [if_pos carries]
        omega
      · rw [if_neg carries]
        omega
  · have large : (2 : ℚ) ^ (50 : ℤ) ≤ x := by
      norm_num at size ⊢
      linarith
    have rounded := first.pow_le (by omega) large
    have sum : (2 : ℚ) ^ (50 : ℤ) ≤ v + 1 / 2 := by linarith
    have ended := second.pow_le (by omega) sum
    apply iff_of_false
    · rw [Int.floor_lt]
      norm_num at ended ⊢
      linarith
    · norm_num at large ⊢
      linarith

end HalfUp

end GrumpyScreen.Lib
