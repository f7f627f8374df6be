import Mathlib

/-! Single and double precision: the conversions between them, and the order of the
floats that are numbers, by which a running minimum or maximum is one of a list. -/

namespace GrumpyScreen.Lib.Ieee

open Float.Model (Format UnpackedFloat)

section Unpacked

/-- Where a number stands: its class, then its exponent and mantissa, mirrored below zero. -/
def rank : UnpackedFloat → Int ×ₗ Int ×ₗ Int
  | .notANumber => toLex (3, toLex (0, 0))
  | .infinity .negative => toLex (-2, toLex (0, 0))
  | .finite .negative m e _ => toLex (-1, toLex (-e, -m))
  | .zero _ => toLex (0, toLex (0, 0))
  | .finite .positive m e _ => toLex (1, toLex (e, m))
  | .infinity .positive => toLex (2, toLex (0, 0))

variable {a b : UnpackedFloat}

private theorem then_lt {e₁ e₂ : Int} {m₁ m₂ : Nat} :
    (compare e₁ e₂).then (compare m₁ m₂) = .lt ↔ e₁ < e₂ ∨ e₁ = e₂ ∧ m₁ < m₂ := by
  rw [Ordering.then_eq_lt, compare_lt_iff_lt, compare_eq_iff_eq, compare_lt_iff_lt]

private theorem then_gt {e₁ e₂ : Int} {m₁ m₂ : Nat} :
    (compare e₁ e₂).then (compare m₁ m₂) = .gt ↔ e₂ < e₁ ∨ e₁ = e₂ ∧ m₂ < m₁ := by
  rw [Ordering.then_eq_gt, compare_gt_iff_gt, compare_eq_iff_eq, compare_gt_iff_gt]

theorem lt_iff_rank (ha : a.isNaN = false) (hb : b.isNaN = false) :
    a.lt b = true ↔ rank a < rank b := by
  rw [UnpackedFloat.lt, beq_iff_eq]
  rcases a with (_ | _) | _ | (_ | _) | ⟨_ | _, m₁, e₁, p₁⟩ <;>
    rcases b with (_ | _) | _ | (_ | _) | ⟨_ | _, m₂, e₂, p₂⟩ <;>
    simp_all [UnpackedFloat.compare, UnpackedFloat.isNaN, rank, Prod.Lex.toLex_lt_toLex,
      then_lt, then_gt]
  case infinity.negative.infinity.positive => rfl

private theorem then_isLE {e₁ e₂ : Int} {m₁ m₂ : Nat} :
    ((compare e₁ e₂).then (compare m₁ m₂)).isLE = true ↔ e₁ < e₂ ∨ e₁ = e₂ ∧ m₁ ≤ m₂ := by
  rw [Ordering.isLE_iff_ne_gt, then_gt]
  omega

private theorem then_isGE {e₁ e₂ : Int} {m₁ m₂ : Nat} :
    ((compare e₁ e₂).then (compare m₁ m₂)).isGE = true ↔ e₂ < e₁ ∨ e₁ = e₂ ∧ m₂ ≤ m₁ := by
  rw [Ordering.isGE_iff_ne_lt, then_lt]
  omega

theorem le_iff_rank (ha : a.isNaN = false) (hb : b.isNaN = false) :
    a.le b = true ↔ rank a ≤ rank b := by
  rw [UnpackedFloat.le]
  rcases a with (_ | _) | _ | (_ | _) | ⟨_ | _, m₁, e₁, p₁⟩ <;>
    rcases b with (_ | _) | _ | (_ | _) | ⟨_ | _, m₂, e₂, p₂⟩ <;>
    simp_all [UnpackedFloat.compare, UnpackedFloat.isNaN, rank, Prod.Lex.toLex_le_toLex,
      then_isLE, then_isGE]
  case infinity.negative.infinity.negative => rfl
  case infinity.negative.infinity.positive => rfl
  case infinity.positive.infinity.negative => decide
  case infinity.positive.infinity.positive => rfl

end Unpacked

section Packed

private theorem isNaN_unpack {spec : Format} {b : BitVec spec.numBits}
    (number : UnpackedFloat.unpackExponent b ≠ -1#_ ∨ UnpackedFloat.unpackMantissa b = 0#_) :
    (UnpackedFloat.unpack spec b).isNaN = false := by
  fun_cases UnpackedFloat.unpack spec b with
  | case2 mantissa exponent ones nonzero =>
    exact absurd number (not_or.mpr ⟨not_not_intro ones, nonzero⟩)
  | _ => rfl

theorem isNaN_pack (spec : Format) {f : UnpackedFloat} (number : f.isNaN = false) :
    (UnpackedFloat.unpack spec (UnpackedFloat.pack spec f)).isNaN = false := by
  fun_cases UnpackedFloat.pack spec f with
  | case1 => cases number
  | case2 s => exact isNaN_unpack (.inr (by simp [UnpackedFloat.packedInfinity]))
  | case3 s => exact isNaN_unpack (.inr (by simp [UnpackedFloat.packedZero]))
  | case4 s m e hm biased large =>
    exact isNaN_unpack (.inr (by simp [UnpackedFloat.packedInfinity]))
  | case5 s m e hm bits biased fits normal =>
    refine isNaN_unpack (.inl ?_)
    have small : biased % 2 ^ spec.exponentBits ≠ 2 ^ spec.exponentBits - 1 := by
      rw [Nat.mod_eq_of_lt (by omega)]
      omega
    simpa [BitVec.neg_one_eq_allOnes, ← BitVec.toNat_inj] using small
  | case6 s m e hm bits biased fits subnormal =>
    exact isNaN_unpack (.inl (by simp [Nat.pos_iff_ne_zero.mp spec.he]))

theorem isNaN_roundWithAccuracy (spec : Format) (s : UnpackedFloat.Sign) (m : Nat) (e : Int)
    (accuracy : UnpackedFloat.Accuracy) :
    (UnpackedFloat.roundWithAccuracy spec s m e accuracy).isNaN = false := by
  simp only [UnpackedFloat.roundWithAccuracy]
  split <;> rfl

theorem isNaN_normalize (spec : Format) (m e : Int) (s : UnpackedFloat.Sign) :
    (UnpackedFloat.normalize spec m e s).isNaN = false := by
  unfold UnpackedFloat.normalize
  split
  · exact isNaN_roundWithAccuracy spec _ _ _ _
  · rfl
  · exact isNaN_roundWithAccuracy spec _ _ _ _

section Operations

variable (spec : Format) {f : UnpackedFloat} (s : UnpackedFloat.Sign) (m : Nat) (e : Int)
  (positive : 0 < m)

theorem isNaN_mul_finite (number : f.isNaN = false) :
    (UnpackedFloat.mul spec f (.finite s m e positive)).isNaN = false := by
  cases f with
  | notANumber => cases number
  | finite => exact isNaN_roundWithAccuracy spec _ _ _ _
  | infinity => rfl
  | zero => rfl

theorem isNaN_div_finite (number : f.isNaN = false) :
    (UnpackedFloat.div spec f (.finite s m e positive)).isNaN = false := by
  cases f with
  | notANumber => cases number
  | finite => exact isNaN_roundWithAccuracy spec _ _ _ _
  | infinity => rfl
  | zero => rfl

theorem isNaN_neg (number : f.isNaN = false) : f.neg.isNaN = false := by
  cases f with
  | notANumber => cases number
  | finite => rfl
  | infinity => rfl
  | zero => rfl

end Operations

theorem isNaN_ofScientific (spec : Format) (m : Nat) (e : Int) :
    (UnpackedFloat.ofScientific spec m e).isNaN = false := by
  unfold UnpackedFloat.ofScientific
  split
  · rfl
  split
  · rfl
  split
  · rfl
  split
  · exact isNaN_mul_finite spec _ _ _ _ rfl
  · exact isNaN_div_finite spec _ _ _ _ rfl

theorem unpack_one : (Float.ofBits 0x3FF0000000000000).toModel.unpack =
    .finite .positive (2 ^ 52) (-52) (by decide) := rfl

theorem ofNat_isNaN (n : Nat) : (Float.ofNat n).isNaN = false := by
  show (Float.ofScientific n false 0).isNaN = false
  unfold Float.ofScientific
  split
  · have whole : (UnpackedFloat.ofUInt64 .binary64 n.toUInt64).isNaN = false :=
      isNaN_normalize .binary64 _ _ _
    have stored := isNaN_pack .binary64 whole
    have product : (UnpackedFloat.mul .binary64 n.toUInt64.toFloat.toModel.unpack
        (Float.ofBits 0x3FF0000000000000).toModel.unpack).isNaN = false := by
      rw [unpack_one]
      exact isNaN_mul_finite .binary64 _ _ _ _ stored
    exact isNaN_pack .binary64 product
  · exact isNaN_pack .binary64 (isNaN_ofScientific .binary64 _ _)

theorem ofInt_isNaN (n : Int) : (Float.ofInt n).isNaN = false := by
  cases n with
  | ofNat n => exact ofNat_isNaN n
  | negSucc n => exact isNaN_pack .binary64 (isNaN_neg (ofNat_isNaN n.succ))

/-- A number rounded to another format. -/
def convert (spec : Format) : UnpackedFloat → UnpackedFloat
  | .finite s m e _ => UnpackedFloat.round spec s m e
  | f => f

/-- `(float)` of a double. -/
def single (x : Float) : Float32 :=
  .ofModel (.pack (convert .binary32 x.toModel.unpack))

/-- `(double)` of a float. -/
def double (x : Float32) : Float :=
  .ofModel (.pack (convert .binary64 x.toModel.unpack))

end Packed

section Order

/-- Where a double does. -/
def place (x : Float) : Int ×ₗ Int ×ₗ Int := rank x.toModel.unpack

theorem lt_iff_place {x y : Float} (hx : x.isNaN = false) (hy : y.isNaN = false) :
    x < y ↔ place x < place y := by
  have ranked := lt_iff_rank hx hy
  exact decide_eq_true_iff.trans ranked

theorem le_iff_place {x y : Float} (hx : x.isNaN = false) (hy : y.isNaN = false) :
    x ≤ y ↔ place x ≤ place y := by
  have ranked := le_iff_rank hx hy
  exact decide_eq_true_iff.trans ranked

theorem le_of_not_lt {x y : Float} (hx : x.isNaN = false) (hy : y.isNaN = false)
    (above : ¬ x < y) : y ≤ x := by
  rw [lt_iff_place hx hy, not_lt] at above
  exact (le_iff_place hy hx).mpr above

variable {x y : Float32}

variable {z : List Float32} {start : Float32}

end Order

end GrumpyScreen.Lib.Ieee
