import Mathlib.Algebra.Group.Nat.Defs
import Mathlib.Logic.Basic

/-!
# Whole numbers as floats

Averages are formed by dividing by a count in double precision, and a count becomes a float by
rounding: only its leading 53 bits are kept.  What is lost does not matter here, but the count must not
be lost altogether, since it is divided by.

## From a count to its bits and back

A whole number is widened or narrowed until its mantissa has at most 53 bits, and neither step takes its
leading bit away (`shiftToTargetExponent_spec`).  What comes out has a mantissa and an exponent that
have room in the bits of a float (`HasRoom`), so that one of the two is not zero there
(`pack_ne_zero`), and bits of which one of the two is not zero are not those of the number zero
(`unpack_ne_zero`).

## Main statement

`WholeFloat.toFloat_beq_zero`: a count that is not zero is not zero as a float.
-/

namespace AuctionHooks

namespace WholeFloat

open Float.Model UnpackedFloat

/-! ## Rounding -/

theorem mantissa_shiftRight (em : ExtendedMantissa) (n : Nat) :
    (em >>> n).mantissa = em.mantissa / 2 ^ n := by
  show (n.repeat ExtendedMantissa.shiftRightOne em).mantissa = _
  induction n with
  | zero => exact (Nat.div_one em.mantissa).symm
  | succ n ih =>
    show (n.repeat ExtendedMantissa.shiftRightOne em).mantissa / 2 = _
    rw [ih, Nat.div_div_eq_div_mul, Nat.pow_succ]

/-- Rounding only ever adds to the mantissa. -/
theorem le_roundedMantissa (em : ExtendedMantissa) : em.mantissa ≤ em.roundedMantissa := by
  show em.mantissa ≤ Accuracy.roundToNearestEven em.mantissa em.accuracy
  cases em.accuracy with
  | exact => exact Nat.le_refl _
  | inexact rest =>
    cases rest with
    | lt => exact Nat.le_refl _
    | eq => exact Nat.le_add_right _ _
    | gt => exact Nat.le_succ _

/-- Narrowing a mantissa to 53 bits leaves its leading bit. -/
theorem shiftToTargetExponent_spec {m : Nat} {e : Int} (hm : 0 < m) (he : -1074 ≤ e) :
    0 < (shiftToTargetExponent .binary64 m e .exact).1.mantissa ∧
      (shiftToTargetExponent .binary64 m e .exact).1.mantissa < 2 ^ 53 ∧
      e ≤ (shiftToTargetExponent .binary64 m e .exact).2 := by
  have htarget : Format.binary64.targetExponent (totalExponent m e) =
      max ((m.log2 : Int) + 1 + e - 53) (-1074) := rfl
  obtain ⟨n, hn⟩ : ∃ n : Nat,
    (Format.binary64.targetExponent (totalExponent m e) - e).toNat = n := ⟨_, rfl⟩
  have hmantissa : (shiftToTargetExponent .binary64 m e .exact).1.mantissa = m / 2 ^ n := by
    rw [← hn]
    exact mantissa_shiftRight ⟨m, false, false⟩ _
  have hexponent : (shiftToTargetExponent .binary64 m e .exact).2 = e + n := by
    rw [← hn]
    rfl
  rw [htarget] at hn
  rw [hmantissa, hexponent]
  refine ⟨?_, ?_, by omega⟩
  · have hlow : 2 ^ m.log2 ≤ m := Nat.log2_self_le (Nat.ne_of_gt hm)
    have hn_le : n ≤ m.log2 := by omega
    exact Nat.div_pos (Nat.le_trans (Nat.pow_le_pow_right (by decide) hn_le) hlow)
      (Nat.two_pow_pos n)
  · have hhigh : m < 2 ^ (m.log2 + 1) := Nat.lt_log2_self
    have hle_n : m.log2 + 1 ≤ 53 + n := by omega
    rw [Nat.div_lt_iff_lt_mul (Nat.two_pow_pos n), ← Nat.pow_add]
    exact Nat.lt_of_lt_of_le hhigh (Nat.pow_le_pow_right (by decide) hle_n)

/-- Whether this is a number other than zero whose mantissa and exponent have room in a float. -/
def HasRoom : UnpackedFloat → Prop
  | .finite _ m e _ => m < 2 ^ 53 ∧ -1074 ≤ e
  | _ => False

theorem hasRoom_roundWithAccuracy {m : Nat} {e : Int} (hm : 0 < m) (he : -1074 ≤ e) (s : Sign) :
    HasRoom (roundWithAccuracy .binary64 s m e .exact) := by
  obtain ⟨hpos, -, hle⟩ := shiftToTargetExponent_spec hm he
  -- Rounding may carry into a 54th bit, so the result is narrowed a second time.
  have hrounded := Nat.lt_of_lt_of_le hpos (le_roundedMantissa _)
  obtain ⟨hpos', hlt, hle'⟩ := shiftToTargetExponent_spec hrounded (Int.le_trans he hle)
  have hfinite : roundWithAccuracy .binary64 s m e .exact = .finite s _ _ hpos' :=
    dif_neg (Nat.ne_of_gt hpos')
  rw [hfinite]
  exact ⟨hlt, Int.le_trans he (Int.le_trans hle hle')⟩

theorem hasRoom_ofNat {n : Nat} (hn : 0 < n) : HasRoom (UnpackedFloat.ofNat .binary64 n) := by
  obtain ⟨k, hk⟩ : ∃ k : Nat,
    (0 - Format.binary64.targetExponent (totalExponent n 0)).toNat = k := ⟨_, rfl⟩
  have hround : UnpackedFloat.ofNat .binary64 n =
      roundWithAccuracy .binary64 .positive (n <<< k) (0 - k) .exact := by
    obtain ⟨p, rfl⟩ := Nat.exists_eq_add_of_lt hn
    rw [← hk, Nat.zero_add]
    rfl
  have htarget : -1074 ≤ Format.binary64.targetExponent (totalExponent n 0) :=
    Int.le_max_right _ _
  have hwide : 0 < n <<< k := by
    rw [Nat.shiftLeft_eq]
    exact Nat.mul_pos hn (Nat.two_pow_pos k)
  rw [hround]
  exact hasRoom_roundWithAccuracy hwide (by omega) _

/-! ## The bits -/

theorem ofNat_ne_zero {width n : Nat} (h : n % 2 ^ width ≠ 0) : BitVec.ofNat width n ≠ 0 := by
  intro hzero
  exact h ((BitVec.toNat_ofNat n width).symm.trans
    ((congrArg BitVec.toNat hzero).trans (Nat.zero_mod _)))

/-- A number that has room does not leave both mantissa and exponent empty. -/
theorem pack_ne_zero {a : UnpackedFloat} (h : HasRoom a) :
    unpackExponent (UnpackedFloat.pack .binary64 a) ≠ 0 ∨
      unpackMantissa (UnpackedFloat.pack .binary64 a) ≠ 0 := by
  obtain ⟨s, m, e, hm, rfl⟩ : ∃ s m e hm, a = .finite s m e hm := by
    cases a with
    | finite s m e hm => exact ⟨s, m, e, hm, rfl⟩
    | _ => exact h.elim
  obtain ⟨hlt, he⟩ := h
  show unpackExponent (ite (2 ^ 11 ≤ (e + 1023 + 52).toNat + 1) _
      (ite (m.log2 + 1 = 53) _ _)) ≠ 0 ∨
    unpackMantissa (ite (2 ^ 11 ≤ (e + 1023 + 52).toNat + 1) _ (ite (m.log2 + 1 = 53) _ _)) ≠ 0
  split
  · -- too large: this becomes infinity, whose exponent has all bits set
    exact .inl fun hzero => absurd (unpackExponent_packComponents.symm.trans hzero) (by decide)
  · split
    · refine .inl fun hzero => ofNat_ne_zero ?_ (unpackExponent_packComponents.symm.trans hzero)
      show (e + 1023 + 52).toNat % 2 ^ 11 ≠ 0
      omega
    · -- the leading bit is among the 52 that are kept, so the mantissa is not empty
      have hlog : m.log2 < 53 := (Nat.log2_lt (Nat.ne_of_gt hm)).2 hlt
      have hm52 : m < 2 ^ 52 := (Nat.log2_lt (Nat.ne_of_gt hm)).1 (by omega)
      refine .inr fun hzero => ofNat_ne_zero ?_ (unpackMantissa_packComponents.symm.trans hzero)
      show m % 2 ^ 52 ≠ 0
      omega

/-- Bits of which either the exponent or the mantissa is not empty are not those of zero. -/
theorem unpack_ne_zero {b : BitVec Format.binary64.numBits}
    (h : unpackExponent b ≠ 0 ∨ unpackMantissa b ≠ 0) (s : Sign) :
    UnpackedFloat.unpack .binary64 b ≠ .zero s := by
  intro hzero
  have hunpacked : (ite (unpackExponent b = -1) (ite (unpackMantissa b = 0) _ _)
      (ite (unpackExponent b = 0) (dite (unpackMantissa b = 0) _ _) _) : UnpackedFloat) =
    .zero s := hzero
  by_cases hfull : unpackExponent b = -1
  · rw [if_pos hfull] at hunpacked
    by_cases hmantissa : unpackMantissa b = 0
    · rw [if_pos hmantissa] at hunpacked
      cases hunpacked
    · rw [if_neg hmantissa] at hunpacked
      cases hunpacked
  · rw [if_neg hfull] at hunpacked
    by_cases hexponent : unpackExponent b = 0
    · rw [if_pos hexponent, dif_neg (h.resolve_left (not_not_intro hexponent))] at hunpacked
      cases hunpacked
    · rw [if_neg hexponent] at hunpacked
      cases hunpacked

theorem beq_zero {a : UnpackedFloat} (h : ∀ s, a ≠ .zero s) (s : Sign) : a.beq (.zero s) = false := by
  cases a with
  | notANumber => rfl
  | infinity t => cases t <;> rfl
  | zero t => exact absurd rfl (h t)
  | finite t m e hm => cases t <;> rfl

/-- **A count that is not zero is not zero as a float.** -/
theorem toFloat_beq_zero {n : UInt64} (h : n ≠ 0) : (n.toFloat == 0.0) = false := by
  have hpos : 0 < n.toNat := Nat.pos_of_ne_zero fun hzero => h (UInt64.toNat_inj.1 hzero)
  have hzero : (0.0 : Float).toModel.unpack = .zero .positive := by rfl
  show n.toFloat.toModel.unpack.beq (0.0 : Float).toModel.unpack = false
  rw [hzero]
  exact beq_zero (unpack_ne_zero (pack_ne_zero (hasRoom_ofNat hpos))) _

end WholeFloat

end AuctionHooks
