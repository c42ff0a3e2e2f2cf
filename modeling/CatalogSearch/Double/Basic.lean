/-!
# Double-precision numbers

A finite double is a sign together with a significand and the exponent of its last binary place,
in the one form that names each double once. A double is a finite one, an infinity, or the value
that is not a number; equality of doubles is equality of these representations, so the two zeros
differ and the non-number equals itself.

The second half rounds a ratio of natural numbers to the grid of a binary format, to nearest with
ties to the even neighbour. `roundRatio_lt` and `roundRatio_normal` say that the rounded
significand lies on the grid in its unique form, which is what makes `Finite.ofRatio?` fail on
overflow only, and `Finite.ofInt` total on the integers that a JSON number can hold.
-/

namespace CatalogSearch

/-! A power of a number is the core library's power, whatever other powers are in scope. -/

attribute [local instance (1100)] instPowNat

/-- A finite double: `mantissa * 2 ^ exponent`, negated when `negative` holds. The mantissa of a
normal number has exactly 53 bits, and a shorter one stands only at the least exponent. -/
structure Finite where
  negative : Bool
  mantissa : Nat
  exponent : Int
  mantissa_lt : mantissa < 2 ^ (53 : Nat)
  least_le : -1074 ≤ exponent
  le_greatest : exponent ≤ 971
  normal : 2 ^ (52 : Nat) ≤ mantissa ∨ exponent = -1074
deriving DecidableEq

/-- A double-precision number. -/
inductive Double where
  | finite (value : Finite)
  | infinite (negative : Bool)
  | nan
deriving DecidableEq

/-- A binary grid of numbers: `precision` significant bits, and the least and the greatest
exponent of the last place. -/
structure Grid where
  precision : Nat
  least : Int
  greatest : Int

/-- The grid of double precision. -/
def Grid.double : Grid := ⟨53, -1074, 971⟩

/-- The grid of single precision. -/
def Grid.single : Grid := ⟨24, -149, 104⟩

/-- The integer nearest to `num / den`; of two equally near ones, the even one. -/
def nearestEven (num den : Nat) : Nat :=
  let whole := num / den
  let rest := num % den
  if 2 * rest < den then whole
  else if den < 2 * rest then whole + 1
  else whole + whole % 2

/-- A quotient below an integer is rounded to at most that integer. -/
theorem nearestEven_le {num den bound : Nat} (h : num < bound * den) :
    nearestEven num den ≤ bound := by
  have hwhole : num / den < bound := Nat.div_lt_of_lt_mul (by rwa [Nat.mul_comm])
  simp only [nearestEven]
  split
  · omega
  · split <;> omega

/-- A quotient not below an integer is rounded to no less than that integer. -/
theorem le_nearestEven {num den bound : Nat} (hden : 0 < den) (h : bound * den ≤ num) :
    bound ≤ nearestEven num den := by
  have hwhole : bound ≤ num / den := (Nat.le_div_iff_mul_le hden).2 h
  simp only [nearestEven]
  split
  · omega
  · split <;> omega

namespace Grid

/-- The numerator of `num / den` counted in units of `2 ^ exponent`. -/
def scaledNum (num : Nat) (exponent : Int) : Nat := num * 2 ^ (-exponent).toNat

/-- The denominator of `num / den` counted in units of `2 ^ exponent`. -/
def scaledDen (den : Nat) (exponent : Int) : Nat := den * 2 ^ exponent.toNat

/-- The exponent at which `num / den` has about `precision` bits: this one or the one below. -/
def firstGuess (grid : Grid) (num den : Nat) : Int :=
  (num.log2 : Int) - den.log2 - (grid.precision - 1 : Nat)

/-- The exponent of the last place in which `num / den` is written on the grid. -/
def spacing (grid : Grid) (num den : Nat) : Int :=
  let guess := grid.firstGuess num den
  let fitted :=
    if scaledNum num guess < 2 ^ (grid.precision - 1) * scaledDen den guess then guess - 1
    else guess
  max fitted grid.least

/-- The nearest grid point to `num / den`, as a significand and the exponent of its last place. A
significand rounded up to one bit too many is halved. -/
def roundRatio (grid : Grid) (num den : Nat) : Nat × Int :=
  let exponent := grid.spacing num den
  let mantissa := nearestEven (scaledNum num exponent) (scaledDen den exponent)
  if mantissa = 2 ^ grid.precision then (2 ^ (grid.precision - 1), exponent + 1)
  else (mantissa, exponent)

/-- Powers of two compare as their exponents do, also times a common ratio bound. -/
private theorem scaledNum_lt {num den p : Nat} {e : Int} (hden : den ≠ 0)
    (h : (num.log2 : Int) + 1 - e ≤ p + den.log2) :
    scaledNum num e < 2 ^ p * scaledDen den e := by
  have hnum : num < 2 ^ (num.log2 + 1) := Nat.lt_log2_self
  have hden' : 2 ^ den.log2 ≤ den := Nat.log2_self_le hden
  unfold scaledNum scaledDen
  calc num * 2 ^ (-e).toNat
      < 2 ^ (num.log2 + 1) * 2 ^ (-e).toNat :=
        Nat.mul_lt_mul_of_pos_right hnum (Nat.two_pow_pos _)
    _ = 2 ^ (num.log2 + 1 + (-e).toNat) := (Nat.pow_add ..).symm
    _ ≤ 2 ^ (p + (den.log2 + e.toNat)) := Nat.pow_le_pow_right (by decide) (by omega)
    _ = 2 ^ p * (2 ^ den.log2 * 2 ^ e.toNat) := by rw [Nat.pow_add, Nat.pow_add]
    _ ≤ 2 ^ p * (den * 2 ^ e.toNat) :=
        Nat.mul_le_mul_left _ (Nat.mul_le_mul_right _ hden')

/-- The lower counterpart of `scaledNum_lt`. -/
private theorem le_scaledNum {num den p : Nat} {e : Int} (hnum : num ≠ 0)
    (h : (p : Int) + den.log2 + 1 ≤ num.log2 - e) :
    2 ^ p * scaledDen den e ≤ scaledNum num e := by
  have hnum' : 2 ^ num.log2 ≤ num := Nat.log2_self_le hnum
  have hden : den ≤ 2 ^ (den.log2 + 1) := Nat.le_of_lt Nat.lt_log2_self
  unfold scaledNum scaledDen
  calc 2 ^ p * (den * 2 ^ e.toNat)
      ≤ 2 ^ p * (2 ^ (den.log2 + 1) * 2 ^ e.toNat) :=
        Nat.mul_le_mul_left _ (Nat.mul_le_mul_right _ hden)
    _ = 2 ^ (p + (den.log2 + 1 + e.toNat)) := by rw [← Nat.pow_add, ← Nat.pow_add]
    _ ≤ 2 ^ (num.log2 + (-e).toNat) := Nat.pow_le_pow_right (by decide) (by omega)
    _ = 2 ^ num.log2 * 2 ^ (-e).toNat := by rw [Nat.pow_add]
    _ ≤ num * 2 ^ (-e).toNat := Nat.mul_le_mul_right _ hnum'

/-- One place further down, the ratio counts twice as many units. -/
private theorem scaledNum_sub_one (num den : Nat) (e : Int) :
    scaledNum num (e - 1) * scaledDen den e = 2 * (scaledNum num e * scaledDen den (e - 1)) := by
  unfold scaledNum scaledDen
  by_cases he : 0 < e
  · have h1 : e.toNat = (e - 1).toNat + 1 := by omega
    have h2 : (-(e - 1)).toNat = 0 := by omega
    have h3 : (-e).toNat = 0 := by omega
    rw [h1, h2, h3]
    simp only [Nat.pow_succ, Nat.pow_zero, Nat.mul_one]
    ac_rfl
  · have h1 : e.toNat = 0 := by omega
    have h2 : (e - 1).toNat = 0 := by omega
    have h3 : (-(e - 1)).toNat = (-e).toNat + 1 := by omega
    rw [h1, h2, h3]
    simp only [Nat.pow_succ, Nat.pow_zero, Nat.mul_one]
    ac_rfl

/-- The scaled denominator of a positive number is positive. -/
theorem scaledDen_pos {den : Nat} (hden : 0 < den) (e : Int) : 0 < scaledDen den e :=
  Nat.mul_pos hden (Nat.two_pow_pos _)

/-- At its spacing a ratio takes no more than `precision` bits. -/
theorem scaledNum_spacing_lt (grid : Grid) (hp : 0 < grid.precision) {num den : Nat}
    (hden : 0 < den) :
    scaledNum num (grid.spacing num den) <
      2 ^ grid.precision * scaledDen den (grid.spacing num den) := by
  have hne : den ≠ 0 := by omega
  by_cases hge : grid.firstGuess num den ≤ grid.spacing num den
  · apply scaledNum_lt hne
    unfold firstGuess at hge
    omega
  · have hsmall : scaledNum num (grid.firstGuess num den) <
        2 ^ (grid.precision - 1) * scaledDen den (grid.firstGuess num den) := by
      false_or_by_contra
      rename_i hbig
      apply hge
      simp only [spacing, if_neg hbig]
      omega
    have heq : grid.spacing num den = grid.firstGuess num den - 1 := by
      simp only [spacing, if_pos hsmall] at hge ⊢
      omega
    have hdouble := scaledNum_sub_one num den (grid.firstGuess num den)
    have hpos := scaledDen_pos hden (grid.firstGuess num den)
    have hpos' := scaledDen_pos hden (grid.firstGuess num den - 1)
    rw [heq]
    apply Nat.lt_of_mul_lt_mul_right (a := scaledDen den (grid.firstGuess num den))
    rw [hdouble]
    have hpow : 2 ^ grid.precision = 2 * 2 ^ (grid.precision - 1) := by
      conv => lhs; rw [show grid.precision = grid.precision - 1 + 1 by omega]
      rw [Nat.pow_succ, Nat.mul_comm]
    rw [hpow]
    calc 2 * (scaledNum num (grid.firstGuess num den) *
            scaledDen den (grid.firstGuess num den - 1))
        < 2 * (2 ^ (grid.precision - 1) * scaledDen den (grid.firstGuess num den) *
            scaledDen den (grid.firstGuess num den - 1)) := by
          apply Nat.mul_lt_mul_of_pos_left _ (by decide)
          exact Nat.mul_lt_mul_of_pos_right hsmall hpos'
      _ = _ := by ac_rfl

/-- Above the least exponent, a positive ratio takes no fewer than `precision` bits at its
spacing. -/
theorem le_scaledNum_spacing (grid : Grid) {num den : Nat}
    (hnum : num ≠ 0) (h : grid.spacing num den ≠ grid.least) :
    2 ^ (grid.precision - 1) * scaledDen den (grid.spacing num den) ≤
      scaledNum num (grid.spacing num den) := by
  unfold spacing at h ⊢
  by_cases hsmall : scaledNum num (grid.firstGuess num den) <
      2 ^ (grid.precision - 1) * scaledDen den (grid.firstGuess num den)
  · simp only [if_pos hsmall] at h ⊢
    have hmax : max (grid.firstGuess num den - 1) grid.least = grid.firstGuess num den - 1 := by
      omega
    rw [hmax]
    apply le_scaledNum hnum
    unfold firstGuess
    omega
  · simp only [if_neg hsmall] at h ⊢
    have hmax : max (grid.firstGuess num den) grid.least = grid.firstGuess num den := by
      omega
    rw [hmax]
    omega

/-- The rounded significand has at most `precision` bits. -/
theorem roundRatio_lt (grid : Grid) (hp : 0 < grid.precision) {num den : Nat} (hden : 0 < den) :
    (grid.roundRatio num den).1 < 2 ^ grid.precision := by
  have hlt := @scaledNum_spacing_lt grid hp num den hden
  have hle := nearestEven_le hlt
  unfold roundRatio
  simp only
  split
  · exact Nat.pow_lt_pow_right (by decide) (by omega)
  · simp only
    omega

/-- The rounded significand has all its bits, or stands at the least exponent. -/
theorem roundRatio_normal (grid : Grid) {num den : Nat} (hden : 0 < den) (hnum : num ≠ 0) :
    2 ^ (grid.precision - 1) ≤ (grid.roundRatio num den).1 ∨
      (grid.roundRatio num den).2 = grid.least := by
  unfold roundRatio
  simp only
  split
  · exact Or.inl (Nat.le_refl _)
  · by_cases h : grid.spacing num den = grid.least
    · exact Or.inr h
    · exact Or.inl (le_nearestEven (scaledDen_pos hden _)
        (grid.le_scaledNum_spacing hnum h))

/-- No place finer than the least one is used. -/
theorem least_le_roundRatio (grid : Grid) (num den : Nat) :
    grid.least ≤ (grid.roundRatio num den).2 := by
  have h : grid.least ≤ grid.spacing num den := by
    unfold spacing
    exact Int.le_max_right _ _
  unfold roundRatio
  simp only
  split <;> simp only <;> omega

/-- The exponent of a rounded ratio is bounded by the sizes of its terms. -/
theorem roundRatio_le (grid : Grid) (num den : Nat) :
    (grid.roundRatio num den).2 ≤ max (num.log2 : Int) grid.least + 1 := by
  have h : grid.spacing num den ≤ max (num.log2 : Int) grid.least := by
    unfold spacing firstGuess
    simp only
    split <;> omega
  unfold roundRatio
  simp only
  split <;> simp only <;> omega

end Grid

namespace Finite

/-- Zero, with a sign. -/
def zero (negative : Bool) : Finite :=
  ⟨negative, 0, -1074, by decide, by decide, by decide, Or.inr rfl⟩

/-- The finite double nearest to `num / den`, ties to even; none when that exceeds the greatest
finite double. -/
def ofRatio? (negative : Bool) (num den : Nat) (hden : 0 < den) : Option Finite :=
  if hnum : num = 0 then some (zero negative)
  else if h : (Grid.double.roundRatio num den).2 ≤ 971 then
    some
      { negative
        mantissa := (Grid.double.roundRatio num den).1
        exponent := (Grid.double.roundRatio num den).2
        mantissa_lt := Grid.double.roundRatio_lt (by decide) hden
        least_le := Grid.double.least_le_roundRatio num den
        le_greatest := h
        normal := Grid.double.roundRatio_normal hden hnum }
  else none

/-- A ratio whose numerator is below `2 ^ 64` does not overflow. -/
theorem ofRatio?_isSome (negative : Bool) {num den : Nat} (hden : 0 < den) (h : num < 2 ^ (64 : Nat)) :
    (ofRatio? negative num den hden).isSome := by
  unfold ofRatio?
  split
  · rfl
  · rename_i hnum
    have hlog : num.log2 < 64 := (Nat.log2_lt hnum).2 h
    have hle := Grid.double.roundRatio_le num den
    have hleast : Grid.double.least = -1074 := rfl
    rw [hleast] at hle
    rw [dif_pos (by omega)]
    rfl

/-- The double nearest to an integer whose size is below `2 ^ 64`. -/
def ofInt (value : Int) (h : value.natAbs < 2 ^ (64 : Nat)) : Finite :=
  (ofRatio? (decide (value < 0)) value.natAbs 1 (by decide)).get
    (ofRatio?_isSome _ _ h)

/-- The numerator of the size of a finite double. -/
def num (value : Finite) : Nat := value.mantissa * 2 ^ value.exponent.toNat

/-- The denominator of the size of a finite double, a power of two. -/
def den (value : Finite) : Nat := 2 ^ (-value.exponent).toNat

end Finite

namespace Double

/-- The double nearest to `num / den`, an infinity when that exceeds the greatest finite one. -/
def ofRatio (negative : Bool) (num den : Nat) (hden : 0 < den) : Double :=
  match Finite.ofRatio? negative num den hden with
  | some value => .finite value
  | none => .infinite negative

/-- Whether a double is a finite one. -/
def isFinite : Double → Bool
  | .finite _ => true
  | .infinite _ => false
  | .nan => false

/-- The nearest number of single precision, an infinity when that exceeds the greatest of them. -/
def toSingle : Double → Double
  | .finite value =>
    let (mantissa, exponent) := Grid.single.roundRatio value.num value.den
    if exponent ≤ Grid.single.greatest then
      ofRatio value.negative (mantissa * 2 ^ exponent.toNat) (2 ^ (-exponent).toNat)
        (Nat.two_pow_pos _)
    else .infinite value.negative
  | other => other

end Double

end CatalogSearch
