import Tabular.Number.Binary64
import Tabular.Text.Blank
import Tabular.Text.Caseless
import Tabular.Text.LowerCase
import Tabular.Text.Occurrence
import Tabular.Token.Operator

/-! Cells and literals: quoting, comparison, and equality of join keys. -/
namespace Tabular

def nullCell : String := "NULL"

/-- A literal without one layer of single quotes around it. -/
def unquote (literal : String) : String :=
  match literal.toList with
  | '\'' :: rest => if rest.getLast? = some '\'' then String.ofList rest.dropLast else literal
  | _ => literal

/-- What a cell or literal is taken for in a comparison. -/
inductive Value where
  | number (x : Binary64)
  | text (s : String)
  deriving DecidableEq, Repr

/-- A text that writes a decimal between white space is a number, any other is text without that white space. -/
def Value.ofText (s : String) : Value :=
  let trimmed := Text.trim s
  match Decimal.ofText? trimmed with
  | some x => .number (.ofDecimal x)
  | none => .text trimmed

namespace Comparison

/-- Numbers compare in their order; none is like another. -/
def holdsOfNumbers (op : Comparison) (a b : Binary64) : Bool :=
  match op with
  | equal => a.key == b.key
  | notEqual => a.key != b.key
  | greater => b.key < a.key
  | less => a.key < b.key
  | greaterEqual => b.key ≤ a.key
  | lessEqual => a.key ≤ b.key
  | like => false

/-- Texts compare in lower case; they are equal or not, or one contains the other. -/
def holdsOfTexts (op : Comparison) (a b : String) : Bool :=
  let a := Text.lower a
  let b := Text.lower b
  match op with
  | equal => a == b
  | notEqual => a != b
  | like => Text.occursIn b.toList a.toList
  | _ => false

/-- The comparison of a cell with a literal: as numbers if both are, otherwise as texts,
where only the cell loses the white space around it. -/
def holds (op : Comparison) (cell literal : String) : Bool :=
  match Value.ofText cell, Value.ofText literal with
  | .number a, .number b => op.holdsOfNumbers a b
  | _, _ => op.holdsOfTexts (Text.trim cell) literal

end Comparison

/-- Equality of join keys: of integers by value, otherwise of texts up to the case of ASCII letters. -/
def keysMatch (left right : String) : Bool :=
  let left := Text.trim left
  let right := Text.trim right
  match signed64? left, signed64? right with
  | some a, some b => a == b
  | _, _ => Text.eqCaseless left right

end Tabular
