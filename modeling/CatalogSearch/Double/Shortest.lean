import CatalogSearch.Double.Basic

/-!
# The shortest decimal of a double

A double stands for all the reals that round to it. Its shortest decimal is the point of the
coarsest decimal grid `10 ^ k` that has a point in that interval, the nearest one to the double
when there are two, and the even one of two equally near. Everything is compared exactly, as
natural numbers on a common scale.
-/

namespace CatalogSearch

/-! A power of a number is the core library's power, whatever other powers are in scope. -/

attribute [local instance (1100)] instPowNat

/-- A decimal `digits * 10 ^ exponent`, without a sign. -/
structure Decimal where
  digits : Nat
  exponent : Int
deriving DecidableEq

namespace Finite

/-- The reals that round to a positive double, and the double itself, on one scale: `lower`,
`centre` and `upper` count quarters of its last place, and the ends belong to the interval when
`closed` holds. -/
structure Interval where
  lower : Nat
  centre : Nat
  upper : Nat
  closed : Bool

/-- The rounding interval of a double. It is lopsided at a power of two, where the grid below is
twice as fine, and contains its ends when ties are rounded to this double, an even one. -/
def interval (value : Finite) : Interval where
  lower :=
    if value.mantissa = 2 ^ (52 : Nat) ∧ -1074 < value.exponent then 4 * value.mantissa - 1
    else 4 * value.mantissa - 2
  centre := 4 * value.mantissa
  upper := 4 * value.mantissa + 2
  closed := value.mantissa % 2 = 0

/-- The point of the grid `10 ^ k` inside the rounding interval that is nearest to the double, if
the interval has one. Only the two neighbours of the double on that grid can be nearest. -/
def pointOn? (value : Finite) (k : Int) : Option Nat :=
  let range := value.interval
  let place := value.exponent - 2
  let ofBinary := fun (n : Nat) => n * (2 ^ place.toNat * 10 ^ (-k).toNat)
  let ofDecimal := fun (n : Nat) => n * (10 ^ k.toNat * 2 ^ (-place).toNat)
  let inside := fun (n : Nat) =>
    if range.closed then
      decide (ofBinary range.lower ≤ ofDecimal n) && decide (ofDecimal n ≤ ofBinary range.upper)
    else
      decide (ofBinary range.lower < ofDecimal n) && decide (ofDecimal n < ofBinary range.upper)
  let below := ofBinary range.centre / ofDecimal 1
  let above := below + 1
  match inside below, inside above with
  | true, true =>
    let down := ofBinary range.centre - ofDecimal below
    let up := ofDecimal above - ofBinary range.centre
    if down < up then some below
    else if up < down then some above
    else if below % 2 = 0 then some below else some above
  | true, false => some below
  | false, true => some above
  | false, false => none

/-- A power of ten no smaller than a tenth of the double: the coarsest grid worth trying. The
factor is the decimal logarithm of two, rounded up. -/
def coarsest (value : Finite) : Int :=
  (((value.mantissa.log2 : Int) + 1 + value.exponent) * 30103).fdiv 100000 + 1

/-- The shortest decimal of the size of a double. Seventeen digits always suffice, so one of the
grids tried has a point. -/
def shortest (value : Finite) : Decimal :=
  if value.mantissa = 0 then ⟨0, 0⟩
  else
    let found := (List.range 21).findSome? fun (below : Nat) =>
      let k := value.coarsest - below
      (value.pointOn? k).map fun digits => (⟨digits, k⟩ : Decimal)
    found.getD ⟨0, 0⟩

end Finite

end CatalogSearch
