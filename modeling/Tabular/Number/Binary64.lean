import Tabular.Number.Decimal

/-! Binary floating-point numbers of 64 bits, as the nearest to a decimal. -/
namespace Tabular

/-- The quotient `n / d` rounded to the nearest integer, a half to the even one. -/
def roundEven (n d : Nat) : Nat :=
  let q := n / d
  match compare (2 * (n % d)) d with
  | .lt => q
  | .eq => q + q % 2
  | .gt => q + 1

/-- A sign, and the 63 bits of a finite number or infinity. -/
structure Binary64 where
  negative : Bool
  magnitude : Nat
  deriving DecidableEq, Repr

namespace Binary64

/-- The bits of infinity; smaller bits are finite numbers, in the same order. -/
def infinity : Nat := 2047 <<< 52

/-- The bits of the number nearest to `n / d`, ties to even.

The unit of the smallest numbers is `2 ^ -1074`; a number of `k` more doublings has a unit `2 ^ k` times that,
and its bits are `k` times `2 ^ 52` past its count of units. -/
def nearest (n d : Nat) : Nat :=
  let scaled := n <<< 1074
  let k := (scaled / d).log2 - 52
  min infinity ((k <<< 52) + roundEven scaled (d <<< k))

def ofDecimal (x : Decimal) : Binary64 := ⟨x.negative, nearest x.units (Nat.pow 10 x.places)⟩

/-- An integer with the number's place in the order; both zeros have the same. -/
def key (x : Binary64) : Int := if x.negative then -(x.magnitude : Int) else x.magnitude

def toBits (x : Binary64) : UInt64 :=
  UInt64.ofNat ((if x.negative then 1 <<< 63 else 0) + x.magnitude)

end Binary64

end Tabular
