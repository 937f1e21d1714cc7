/-! Integers written in decimal digits, within the ranges of 64-bit words. -/
namespace Tabular

/-- The number written by a non-empty run of decimal digits. -/
def digits? (cs : List Char) : Option Nat :=
  if !cs.isEmpty && cs.all Char.isDigit then
    some (cs.foldl (fun n c => n * 10 + (c.toNat - '0'.toNat)) 0)
  else none

/-- Digits after an optional sign, within the range of a signed 64-bit word. -/
def signed64? (s : String) : Option Int :=
  let value : Option Int := match s.toList with
    | '+' :: cs => (digits? cs).map Int.ofNat
    | '-' :: cs => (digits? cs).map fun n => -(n : Int)
    | cs => (digits? cs).map Int.ofNat
  value.filter fun n => Int64.minValue.toInt ≤ n && n ≤ Int64.maxValue.toInt

/-- Digits after an optional plus sign, within the range of an unsigned 64-bit word. -/
def unsigned64? (s : String) : Option UInt64 :=
  let value := match s.toList with
    | '+' :: cs => digits? cs
    | cs => digits? cs
  (value.filter (· < UInt64.size)).map UInt64.ofNat

end Tabular
