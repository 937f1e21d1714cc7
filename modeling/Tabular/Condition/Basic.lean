import Tabular.Cell

/-! Conditions on rows. -/
namespace Tabular

/-- The index of a column in a header, up to the case of ASCII letters. -/
def findColumn? (header : List String) (column : String) : Option Nat :=
  header.findIdx? (Text.eqCaseless · column)

inductive Condition where
  | comparison (column : String) (op : Comparison) (value : String)
  | and (left right : Condition)
  | or (left right : Condition)
  deriving DecidableEq, Repr

namespace Condition

/-- The condition holds of a row; a comparison of a cell that is not there does not. -/
def holds (header row : List String) : Condition → Bool
  | comparison column op value =>
    match findColumn? header column with
    | none => false
    | some i =>
      match row[i]? with
      | none => false
      | some cell => op.holds cell value
  | and left right => left.holds header row && right.holds header row
  | or left right => left.holds header row || right.holds header row

end Condition

end Tabular
