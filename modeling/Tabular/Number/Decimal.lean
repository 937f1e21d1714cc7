import Tabular.Number.Integer

/-! Decimal numbers: an optional sign, digits, and an optional point followed by digits. -/
namespace Tabular

/-- The number `units / 10 ^ places`, negated if `negative`. -/
structure Decimal where
  negative : Bool
  units : Nat
  places : Nat
  deriving DecidableEq, Repr

namespace Decimal

def splitSign : List Char → Bool × List Char
  | '-' :: cs => (true, cs)
  | '+' :: cs => (false, cs)
  | cs => (false, cs)

def ofText? (s : String) : Option Decimal :=
  let (negative, unsigned) := splitSign s.toList
  let whole := unsigned.takeWhile (· ≠ '.')
  match unsigned.dropWhile (· ≠ '.') with
  | [] => (digits? whole).map fun units => ⟨negative, units, 0⟩
  | _ :: fraction =>
    match digits? whole, digits? fraction with
    | some _, some _ => (digits? (whole ++ fraction)).map fun units => ⟨negative, units, fraction.length⟩
    | _, _ => none

def isWritten (s : String) : Bool := (ofText? s).isSome

end Decimal

end Tabular
