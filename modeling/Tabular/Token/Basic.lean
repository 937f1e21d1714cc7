import Tabular.Number.Decimal
import Tabular.Token.Keyword
import Tabular.Token.Operator

/-! Tokens: pieces of statement text together with what each one is. -/
namespace Tabular

inductive Symbol where
  | open_ | close | comma | semicolon | star | equals
  deriving DecidableEq, Repr

namespace Symbol

def all : List Symbol := [open_, close, comma, semicolon, star, equals]

def text : Symbol → String
  | open_ => "("
  | close => ")"
  | comma => ","
  | semicolon => ";"
  | star => "*"
  | equals => "="

def ofText? (s : String) : Option Symbol := all.find? (·.text == s)

end Symbol

inductive Kind where
  | keyword (word : Keyword)
  | symbol (sign : Symbol)
  | logical (connective : Connective)
  | comparison (op : Comparison)
  | number
  | string
  | identifier
  deriving DecidableEq, Repr

/-- A text that begins and ends with a single quote, not the same one. -/
def isQuoted (s : String) : Bool :=
  2 ≤ s.toList.length && s.toList.head? == some '\'' && s.toList.getLast? == some '\''

/-- A non-empty run of ASCII letters, digits and underscores. -/
def isIdentifier (s : String) : Bool :=
  !s.toList.isEmpty && s.toList.all fun c => c.isAlphanum || c == '_'

namespace Kind

/-- The kind of a text: a word or sign of the language first, then a number, a string, an identifier. -/
def ofText? (s : String) : Option Kind :=
  (Keyword.ofText? s).map keyword
    <|> (Symbol.ofText? s).map symbol
    <|> (Connective.ofToken? s).map logical
    <|> (Comparison.ofToken? s).map comparison
    <|> if Decimal.isWritten s then some number
      else if isQuoted s then some string
      else if isIdentifier s then some identifier
      else none

def name : Kind → String
  | keyword _ => "KEYWORD"
  | symbol _ => "SYMBOL"
  | logical _ => "LOGICAL_OPERATOR"
  | comparison _ => "COMPARISON_OPERATOR"
  | number => "NUMBER"
  | string => "STRING"
  | identifier => "IDENTIFIER"

end Kind

/-- A piece of statement text of a known kind. -/
structure Token where
  text : String
  kind : Kind
  kind_eq : Kind.ofText? text = some kind
  deriving Repr

inductive Fixed where
  | keyword (word : Keyword)
  | symbol (sign : Symbol)
  | connective (word : Connective)
  deriving DecidableEq, Repr

namespace Fixed

def text : Fixed → String
  | keyword word => word.text
  | symbol sign => sign.text
  | connective word => word.text

def kind : Fixed → Kind
  | keyword word => .keyword word
  | symbol sign => .symbol sign
  | connective word => .logical word

end Fixed

/-- Two kinds differ at most in the word or sign they stand for. -/
def Kind.alike (k l : Kind) : Bool := k.name == l.name

namespace Token

def ofText? (s : String) : Option Token :=
  match h : Kind.ofText? s with
  | some kind => some ⟨s, kind, h⟩
  | none => none

/-- The token is a fixed word or mark, up to the case of ASCII letters. -/
def is (t : Token) (f : Fixed) : Bool := t.kind.alike f.kind && Text.eqCaseless t.text f.text

/-- The kind of a token follows from its text. -/
@[ext] theorem ext {t u : Token} (h : t.text = u.text) : t = u := by
  cases t with
  | mk text kind hk =>
    cases u with
    | mk text' kind' hk' =>
      obtain rfl : text = text' := h
      obtain rfl : kind = kind' := Option.some.inj (hk.symm.trans hk')
      rfl

instance : DecidableEq Token := fun t u =>
  if h : t.text = u.text then isTrue (ext h) else isFalse fun he => h (he ▸ rfl)

theorem ofText?_text (t : Token) : ofText? t.text = some t := by
  unfold ofText?
  split
  · exact congrArg some (ext rfl)
  · next h => rw [t.kind_eq] at h; cases h

end Token

end Tabular
