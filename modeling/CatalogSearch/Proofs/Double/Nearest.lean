import CatalogSearch.Json.Basic
import Mathlib.Algebra.Order.Field.Rat
import Mathlib.Algebra.Order.Field.Power
import Mathlib.Tactic.Linarith
import Mathlib.Tactic.Ring
import Mathlib.Tactic.FieldSimp
import Mathlib.Tactic.Positivity

/-!
# Rounding to the nearest double

Rounding works on natural numbers, a numerator and a denominator for every quotient. Here is what
that means for the numbers themselves: `Grid.roundRatio_nearest` says that no point of a grid is
nearer to a ratio than the one to which it is rounded, and `Whole.rounds_toFinite` that the double
of an integer is the nearest one, with ties to even.

There are two kinds of points to compare with. Those no finer than the spacing of the ratio are
multiples of it, and the quotient is rounded to the nearest of these. Those that are finer have no
more bits than the ratio, so they all lie below it, and below the multiple that is rounded to.
-/

namespace CatalogSearch

/-- A quotient is rounded down or up, to the nearer side, and to the even one if neither is. -/
theorem nearestEven_cases (num den : Nat) :
    (2 * (num % den) < den ∧ nearestEven num den = num / den) ∨
    (den < 2 * (num % den) ∧ nearestEven num den = num / den + 1) ∨
    (2 * (num % den) = den ∧ nearestEven num den % 2 = 0 ∧
      (nearestEven num den = num / den ∨ nearestEven num den = num / den + 1)) := by
  unfold nearestEven
  generalize num / den = whole
  generalize num % den = rest
  dsimp only
  split
  · omega
  · split <;> omega

/-- How far a remainder is from zero and from the divisor. Every other multiple of the divisor is at
least a divisor away. -/
theorem remainder_distance {rest den : ℤ} (hrest : 0 ≤ rest) (hlt : rest < den) (k : ℤ) :
    (k = 0 ∧ |rest - k * den| = rest) ∨ (k = 1 ∧ |rest - k * den| = den - rest) ∨
      (k ≠ 0 ∧ k ≠ 1 ∧ den ≤ |rest - k * den|) := by
  rcases lt_trichotomy k 0 with hneg | rfl | hpos
  · have hfar : den ≤ rest - k * den := by nlinarith
    exact .inr (.inr ⟨by omega, by omega, hfar.trans (le_abs_self _)⟩)
  · exact .inl ⟨rfl, by rw [zero_mul, sub_zero, abs_of_nonneg hrest]⟩
  · rcases eq_or_lt_of_le (Int.add_one_le_of_lt hpos) with hone | hmore
    · refine .inr (.inl ⟨hone.symm, ?_⟩)
      rw [← hone, abs_of_neg (by linarith)]
      ring
    · have hfar : den ≤ -(rest - k * den) := by nlinarith
      exact .inr (.inr ⟨by omega, by omega, hfar.trans (neg_le_abs _)⟩)

/-- No multiple of a divisor is nearer to a number than that by the rounded quotient, and if another
one is as near then the quotient is rounded to an even number. -/
theorem nearestEven_nearest (num : Nat) {den : Nat} (hden : 0 < den) (k : ℤ) :
    |(num : ℤ) - nearestEven num den * den| ≤ |(num : ℤ) - k * den| ∧
      (|(num : ℤ) - k * den| = |(num : ℤ) - nearestEven num den * den| →
        k ≠ nearestEven num den → nearestEven num den % 2 = 0) := by
  have hsplit (j : ℤ) :
      (num : ℤ) - j * den = (num % den : Nat) - (j - (num / den : Nat)) * den := by
    have hnum : ((num / den : Nat) : ℤ) * den + (num % den : Nat) = num := by
      exact_mod_cast Nat.div_add_mod' num den
    linarith
  have hrest : ((num % den : Nat) : ℤ) < den := by exact_mod_cast Nat.mod_lt num hden
  have hother := remainder_distance (Int.natCast_nonneg _) hrest (k - (num / den : Nat))
  have hrounded := remainder_distance (Int.natCast_nonneg _) hrest
    (nearestEven num den - (num / den : Nat))
  rw [hsplit, hsplit]
  have hcases := nearestEven_cases num den
  generalize nearestEven num den = rounded at *
  generalize |_ - (k - _) * (den : ℤ)| = other at *
  generalize |_ - ((rounded : ℤ) - _) * (den : ℤ)| = nearest at *
  constructor <;> omega

namespace Grid

/-- A power of two as the ratio of two natural powers. -/
theorem two_pow_mul_zpow (e : ℤ) : (2 : ℚ) ^ (-e).toNat * 2 ^ e = 2 ^ e.toNat := by
  rw [← zpow_natCast, ← zpow_natCast, ← zpow_add₀ two_ne_zero]
  congr 1
  omega

variable {num den : Nat}

/-- The unit in which a ratio and the multiples of a power of two are both integers. -/
def unit (den : Nat) (e : ℤ) : ℚ := 2 ^ e / scaledDen den e

/-- The unit is positive. -/
theorem unit_pos (hden : 0 < den) (e : ℤ) : 0 < unit den e :=
  div_pos (zpow_pos two_pos e) (by exact_mod_cast scaledDen_pos hden e)

/-- A ratio in units. -/
theorem ratio_eq (num : Nat) (hden : 0 < den) (e : ℤ) :
    (num : ℚ) / den = scaledNum num e * unit den e := by
  have hden' : (den : ℚ) ≠ 0 := by exact_mod_cast hden.ne'
  have hscaled : (scaledDen den e : ℚ) ≠ 0 := by exact_mod_cast (scaledDen_pos hden e).ne'
  rw [unit, ← mul_div_assoc, div_eq_div_iff hden' hscaled]
  simp only [scaledNum, scaledDen]
  push_cast
  rw [← two_pow_mul_zpow]
  ring

/-- A multiple of a power of two in units. -/
theorem multiple_eq (hden : 0 < den) (k e : ℤ) :
    (k : ℚ) * 2 ^ e = (k * scaledDen den e : ℤ) * unit den e := by
  have hscaled : (scaledDen den e : ℚ) ≠ 0 := by exact_mod_cast (scaledDen_pos hden e).ne'
  rw [unit]
  push_cast
  field_simp

/-- The distance between a ratio and a multiple of a power of two in units. -/
theorem distance_eq (num : Nat) (hden : 0 < den) (k e : ℤ) :
    |(num : ℚ) / den - k * 2 ^ e| =
      (|(scaledNum num e : ℤ) - k * scaledDen den e| : ℤ) * unit den e := by
  rw [ratio_eq num hden e, multiple_eq hden, ← sub_mul, abs_mul, abs_of_pos (unit_pos hden e)]
  push_cast
  rfl

/-- Among the multiples of a power of two, none is nearer to a ratio than the one to which it is
rounded, and if another one is as near then that one is an even multiple. -/
theorem multiple_nearest (num : Nat) (hden : 0 < den) (k e : ℤ) :
    let rounded := nearestEven (scaledNum num e) (scaledDen den e)
    |(num : ℚ) / den - rounded * 2 ^ e| ≤ |(num : ℚ) / den - k * 2 ^ e| ∧
      (|(num : ℚ) / den - k * 2 ^ e| = |(num : ℚ) / den - rounded * 2 ^ e| →
        k ≠ rounded → rounded % 2 = 0) := by
  intro rounded
  have hunit := unit_pos hden e
  obtain ⟨hle, heven⟩ := nearestEven_nearest (scaledNum num e) (scaledDen_pos hden e) k
  have hrounded := distance_eq num hden rounded e
  rw [Int.cast_natCast] at hrounded
  rw [hrounded, distance_eq num hden k e]
  constructor
  · exact mul_le_mul_of_nonneg_right (by exact_mod_cast hle) hunit.le
  · intro hsame
    exact heven (by exact_mod_cast mul_right_cancel₀ hunit.ne' hsame)

/-- A rounded ratio is the multiple of its spacing that is nearest, however it is written, and its
significand is even if that multiple is. -/
theorem roundRatio_eq (grid : Grid) (hprecision : 1 < grid.precision) (num den : Nat) :
    let spacing := grid.spacing num den
    let rounded := nearestEven (scaledNum num spacing) (scaledDen den spacing)
    ((grid.roundRatio num den).1 : ℚ) * 2 ^ (grid.roundRatio num den).2 = rounded * 2 ^ spacing ∧
      (rounded % 2 = 0 → (grid.roundRatio num den).1 % 2 = 0) := by
  intro spacing rounded
  obtain ⟨p, hp⟩ : ∃ p, grid.precision = p + 2 := ⟨grid.precision - 2, by omega⟩
  by_cases hcarry : rounded = 2 ^ grid.precision
  · have hround : grid.roundRatio num den = (2 ^ (grid.precision - 1), spacing + 1) := if_pos hcarry
    rw [hround, hcarry, hp]
    constructor
    · push_cast
      rw [zpow_add_one₀ two_ne_zero]
      ring
    · intro _
      show 2 ^ (p + 1) % 2 = 0
      rw [pow_succ]
      exact Nat.mul_mod_left _ _
  · have hround : grid.roundRatio num den = (rounded, spacing) := if_neg hcarry
    rw [hround]
    exact ⟨rfl, id⟩

/-- A point of the grid below the spacing of a ratio is farther from it than the least multiple of
the spacing with all bits. -/
theorem lt_of_lt_spacing {grid : Grid} (hprecision : 1 < grid.precision) (hnum : num ≠ 0)
    (hden : 0 < den) {k f : ℤ} (hk : |k| < 2 ^ grid.precision) (hleast : grid.least ≤ f)
    (hf : f < grid.spacing num den) :
    |(num : ℚ) / den - (2 ^ (grid.precision - 1) : ℤ) * 2 ^ grid.spacing num den| <
      |(num : ℚ) / den - k * 2 ^ f| := by
  obtain ⟨p, hp⟩ : ∃ p, grid.precision = p + 1 := ⟨grid.precision - 1, by omega⟩
  rw [hp] at hk ⊢
  rw [Nat.add_sub_cancel]
  have hspacing : grid.spacing num den ≠ grid.least := by omega
  have hbits := grid.le_scaledNum_spacing hnum hspacing
  rw [hp, Nat.add_sub_cancel] at hbits
  have hbelow : ((2 ^ p : ℤ) : ℚ) * 2 ^ grid.spacing num den ≤ (num : ℚ) / den := by
    rw [ratio_eq num hden (grid.spacing num den), multiple_eq hden]
    exact mul_le_mul_of_nonneg_right (by exact_mod_cast hbits) (unit_pos hden _).le
  have hpoint : (k : ℚ) * 2 ^ f < (2 ^ p : ℤ) * 2 ^ grid.spacing num den := by
    have hk' : (k : ℚ) < 2 ^ (p + 1) := by exact_mod_cast (le_abs_self k).trans_lt hk
    calc (k : ℚ) * 2 ^ f
        < 2 ^ (p + 1) * 2 ^ f := mul_lt_mul_of_pos_right hk' (zpow_pos two_pos f)
      _ ≤ 2 ^ (p + 1) * 2 ^ (grid.spacing num den - 1) :=
          mul_le_mul_of_nonneg_left (zpow_le_zpow_right₀ one_le_two (by omega)) (by positivity)
      _ = (2 ^ p : ℤ) * 2 ^ grid.spacing num den := by
          rw [zpow_sub_one₀ two_ne_zero, pow_succ]
          push_cast
          ring
  calc |(num : ℚ) / den - (2 ^ p : ℤ) * 2 ^ grid.spacing num den|
      = (num : ℚ) / den - (2 ^ p : ℤ) * 2 ^ grid.spacing num den := abs_of_nonneg (by linarith)
    _ < (num : ℚ) / den - k * 2 ^ f := by linarith
    _ ≤ |(num : ℚ) / den - k * 2 ^ f| := le_abs_self _

/-- No point of the grid is nearer to a ratio than the rounded one, and if another one is as near
then the rounded one has an even significand. -/
theorem roundRatio_nearest (grid : Grid) (hprecision : 1 < grid.precision) (hnum : num ≠ 0)
    (hden : 0 < den) {k f : ℤ} (hk : |k| < 2 ^ grid.precision) (hleast : grid.least ≤ f) :
    let rounded := grid.roundRatio num den
    |(num : ℚ) / den - rounded.1 * 2 ^ rounded.2| ≤ |(num : ℚ) / den - k * 2 ^ f| ∧
      (|(num : ℚ) / den - k * 2 ^ f| = |(num : ℚ) / den - rounded.1 * 2 ^ rounded.2| →
        (k : ℚ) * 2 ^ f ≠ rounded.1 * 2 ^ rounded.2 → rounded.1 % 2 = 0) := by
  intro rounded
  obtain ⟨hrounded, heven⟩ := grid.roundRatio_eq hprecision num den
  rw [hrounded]
  rcases le_or_gt (grid.spacing num den) f with hf | hf
  · -- a point no finer than the spacing is a multiple of it
    obtain ⟨n, hn⟩ := Int.eq_ofNat_of_zero_le (sub_nonneg.2 hf)
    have hmultiple : (k : ℚ) * 2 ^ f = (k * 2 ^ n : ℤ) * 2 ^ grid.spacing num den := by
      rw [show f = n + grid.spacing num den by omega, zpow_add₀ two_ne_zero, zpow_natCast]
      push_cast
      ring
    obtain ⟨hle, hties⟩ := multiple_nearest num hden (k * 2 ^ n) (grid.spacing num den)
    rw [hmultiple]
    refine ⟨hle, fun hsame hne => heven (hties hsame fun heq => hne ?_)⟩
    rw [heq]
    push_cast
    rfl
  · have hfar := lt_of_lt_spacing hprecision hnum hden hk hleast hf
    have hle := (multiple_nearest num hden (2 ^ (grid.precision - 1))
      (grid.spacing num den)).1
    exact ⟨(hle.trans_lt hfar).le, fun hsame => absurd hsame (hle.trans_lt hfar).ne'⟩

end Grid

namespace Finite

/-- The significand of a double, with its sign. -/
def signed (value : Finite) : ℤ := if value.negative then -value.mantissa else value.mantissa

/-- The number that a double stands for. -/
def toRat (value : Finite) : ℚ := value.signed * 2 ^ value.exponent

/-- A number is rounded to a double when none is nearer to it, and when the significand is even if
another one is as near. -/
structure Rounds (value : Finite) (x : ℚ) : Prop where
  nearest : ∀ other : Finite, |x - value.toRat| ≤ |x - other.toRat|
  even : ∀ other : Finite, |x - other.toRat| = |x - value.toRat| → other.toRat ≠ value.toRat →
    value.mantissa % 2 = 0

/-- A significand has at most 53 bits, whatever its sign. -/
theorem abs_signed_lt (value : Finite) : |value.signed| < 2 ^ 53 := by
  have hlt : (value.mantissa : ℤ) < 2 ^ 53 := by exact_mod_cast value.mantissa_lt
  unfold signed
  split <;> simpa using hlt

/-- An integer other than zero is rounded as its size is, and keeps its sign. -/
theorem ofInt_of_ne_zero {value : ℤ} (h : value.natAbs < 2 ^ 64) (hne : value ≠ 0) :
    let rounded := Grid.double.roundRatio value.natAbs 1
    (ofInt value h).mantissa = rounded.1 ∧
      (ofInt value h).toRat = value.sign * (rounded.1 * 2 ^ rounded.2) := by
  intro rounded
  obtain ⟨result, hresult⟩ := Option.isSome_iff_exists.1
    (ofRatio?_isSome (decide (value < 0)) Nat.one_pos h)
  have hofInt : ofInt value h = result := Option.get_of_eq_some _ hresult
  rw [ofRatio?, dif_neg (Int.natAbs_ne_zero.2 hne)] at hresult
  split at hresult
  · cases hresult
    rw [hofInt]
    refine ⟨rfl, ?_⟩
    rcases lt_or_gt_of_ne hne with hneg | hpos
    · simp [toRat, signed, hneg, Int.sign_eq_neg_one_of_neg hneg, rounded]
    · simp [toRat, signed, hpos.le, Int.sign_eq_one_of_pos hpos, rounded]
  · cases hresult

/-- The distance from an integer to a number with the same sign is that from its size. -/
theorem abs_sub_sign_mul {value : ℤ} (hne : value ≠ 0) (x : ℚ) :
    |(value : ℚ) - value.sign * x| = |(value.natAbs : ℚ) / (1 : Nat) - x| := by
  have hsign : |(value.sign : ℚ)| = 1 := by exact_mod_cast Int.abs_sign_of_ne_zero hne
  have hvalue : (value : ℚ) = value.sign * (value.natAbs : ℚ) := by
    rw [← Int.cast_natCast, ← Int.cast_mul, Int.sign_mul_natAbs]
  rw [hvalue, ← mul_sub, abs_mul, hsign, one_mul, Nat.cast_one, div_one]

/-- With the sign of an integer taken out of it, a double is a point of the grid. -/
theorem toRat_eq_sign_mul {value : ℤ} (hne : value ≠ 0) (other : Finite) :
    other.toRat = value.sign * ((value.sign * other.signed : ℤ) * 2 ^ other.exponent) ∧
      |value.sign * other.signed| < 2 ^ 53 := by
  constructor
  · have hsquare : value.sign * value.sign = 1 := by
      rw [← abs_mul_abs_self, Int.abs_sign_of_ne_zero hne, one_mul]
    rw [← mul_assoc, ← Int.cast_mul, ← mul_assoc, hsquare, one_mul, toRat]
  · rw [abs_mul, Int.abs_sign_of_ne_zero hne, one_mul]
    exact other.abs_signed_lt

/-- An integer is rounded to the nearest double. -/
theorem rounds_ofInt (value : ℤ) (h : value.natAbs < 2 ^ 64) : (ofInt value h).Rounds value := by
  by_cases hzero : value = 0
  · subst hzero
    have hrat : (ofInt 0 h).toRat = 0 := by simp [ofInt, ofRatio?, toRat, signed, zero]
    refine ⟨fun other => ?_, fun _ _ _ => by simp [ofInt, ofRatio?, zero]⟩
    rw [hrat, Int.cast_zero, sub_zero, abs_zero]
    exact abs_nonneg _
  · obtain ⟨hmantissa, hrat⟩ := ofInt_of_ne_zero h hzero
    have hpoint (other : Finite) := toRat_eq_sign_mul hzero other
    have hnearest (other : Finite) := Grid.double.roundRatio_nearest (by decide)
      (Int.natAbs_ne_zero.2 hzero) Nat.one_pos (hpoint other).2 other.least_le
    refine ⟨fun other => ?_, fun other hsame hne => ?_⟩
    · rw [hrat, (hpoint other).1, abs_sub_sign_mul hzero, abs_sub_sign_mul hzero]
      exact (hnearest other).1
    · rw [hrat, (hpoint other).1, abs_sub_sign_mul hzero, abs_sub_sign_mul hzero] at hsame
      rw [hrat, (hpoint other).1] at hne
      rw [hmantissa]
      exact (hnearest other).2 hsame fun heq => hne (by rw [heq])

end Finite

/-- An integer of a JSON number is rounded to the nearest double. -/
theorem Whole.rounds_toFinite (value : Whole) : value.toFinite.Rounds value.val :=
  Finite.rounds_ofInt value.val _

end CatalogSearch
