import Tabular.Condition.Basic
import Tabular.Error

/-! Reading conditions: `AND` binds tighter than `OR`, both associate to the left, parentheses group. -/
namespace Tabular

/-- What is read at one depth of parentheses: complete disjuncts, and conjuncts since the last `OR`. -/
structure Level where
  disjuncts : Option Condition
  conjuncts : Option Condition
  deriving Repr

namespace Level

def start : Level := ⟨none, none⟩

def join (f : Condition → Condition → Condition) (before : Option Condition) (c : Condition) : Condition :=
  match before with
  | some b => f b c
  | none => c

/-- The condition of a level that ends with the operand `c`. -/
def finish (l : Level) (c : Condition) : Condition := join .or l.disjuncts (join .and l.conjuncts c)

/-- The level after the operand `c` and a connective. -/
def continue_ (l : Level) (c : Condition) : Connective → Level
  | .and => ⟨l.disjuncts, some (join .and l.conjuncts c)⟩
  | .or => ⟨some (l.finish c), none⟩

end Level

/-- What the next token must be. -/
inductive Awaiting where
  | operand
  | comparison (column : String)
  | value (column : String) (op : Comparison)
  /-- A connective or an end, after an operand. -/
  | connective (operand : Condition)
  deriving Repr

/-- A condition read in part: the level at hand, and those of the parentheses still open, innermost first. -/
structure Reading where
  awaiting : Awaiting
  level : Level
  outer : List Level
  deriving Repr

namespace Reading

def start : Reading := ⟨.operand, .start, []⟩

def step (r : Reading) (t : Token) : Except ParseError Reading :=
  match r.awaiting with
  | .operand =>
    match t.kind with
    | .symbol .open_ => .ok ⟨.operand, .start, r.level :: r.outer⟩
    | .identifier => .ok { r with awaiting := .comparison t.text }
    | _ => .error (.wrongPart .column t)
  | .comparison column =>
    match t.kind with
    | .comparison op => .ok { r with awaiting := .value column op }
    | _ => .error (.wrongPart .comparison t)
  | .value column op =>
    match t.kind with
    | .string | .number | .identifier =>
      .ok { r with awaiting := .connective (.comparison column op (unquote t.text)) }
    | _ => .error (.wrongPart .value t)
  | .connective operand =>
    match t.kind, r.outer with
    | .logical c, _ => .ok { r with awaiting := .operand, level := r.level.continue_ operand c }
    | .symbol .close, outer :: rest => .ok ⟨.connective (r.level.finish operand), outer, rest⟩
    | _, [] => .error (.afterCondition t)
    | _, _ :: _ => .error .unclosedCondition

def finish (r : Reading) : Except ParseError Condition :=
  match r.awaiting, r.outer with
  | .operand, _ => .error (.missingPart .column)
  | .comparison _, _ => .error (.missingPart .comparison)
  | .value _ _, _ => .error (.missingPart .value)
  | .connective operand, [] => .ok (r.level.finish operand)
  | .connective _, _ :: _ => .error .unclosedCondition

end Reading

def Condition.ofTokens (tokens : List Token) : Except ParseError Condition :=
  if tokens.isEmpty then .error .missingCondition
  else do (← tokens.foldlM Reading.step .start).finish

end Tabular
