import Tabular.Error
import Tabular.Token.Scan

/-! The tokens of a text, or the first place in it that is no token. -/
namespace Tabular

namespace Token

/-- The token that a text is, or the complaint that it is none. -/
def ofText (s : String) : Except ParseError Token :=
  match ofText? s with
  | some t => .ok t
  | none => .error (.invalidToken s)

def tokenize (s : String) : Except ParseError (List Token) := do
  let found := scan s
  let tokens ← found.texts.mapM ofText
  if found.closed then pure tokens else throw .unclosedString

end Token

end Tabular
