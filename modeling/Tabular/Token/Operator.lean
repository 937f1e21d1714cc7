import Tabular.Text.Caseless
import Tabular.Text.UpperCase

/-! The operators of conditions: comparisons, and the connectives between them. -/
namespace Tabular

inductive Comparison where
  | equal | notEqual | greater | less | greaterEqual | lessEqual | like
  deriving DecidableEq, Repr

inductive Connective where
  | and | or
  deriving DecidableEq, Repr

namespace Comparison

def all : List Comparison := [equal, notEqual, greater, less, greaterEqual, lessEqual, like]

def text : Comparison → String
  | equal => "=="
  | notEqual => "!="
  | greater => ">"
  | less => "<"
  | greaterEqual => ">="
  | lessEqual => "<="
  | like => "LIKE"

/-- The comparison that a text spells in upper case. -/
def ofText? (s : String) : Option Comparison :=
  let word := Text.upper s
  all.find? (·.text == word)

/-- The comparison that a token spells, up to the case of ASCII letters. -/
def ofToken? (s : String) : Option Comparison := all.find? (Text.eqCaseless s ·.text)

end Comparison

namespace Connective

def text : Connective → String
  | and => "AND"
  | or => "OR"

def ofToken? (s : String) : Option Connective := [and, or].find? (Text.eqCaseless s ·.text)

end Connective

end Tabular
