import Tabular.Condition.Parser
import Tabular.Statement.Basic
import Tabular.Table
import Tabular.Token.Tokenize

/-! Reading statements from their tokens. -/
namespace Tabular

/-- A reader of the tokens ahead, which leaves those it does not use. -/
abbrev TokenReader (α : Type) := StateT (List Token) (Except Error) α

namespace TokenReader

/-- Takes the next token if it is a given word or mark. -/
def accept (f : Fixed) : TokenReader Bool := fun
  | [] => .ok (false, [])
  | t :: rest => .ok (if t.is f then (true, rest) else (false, t :: rest))

def require (f : Fixed) : TokenReader Unit := fun
  | [] => throw (.parse (.endInsteadOf f))
  | t :: rest =>
    if !t.kind.alike f.kind then throw (.parse (.wrongKind f t))
    else if !t.is f then throw (.parse (.unexpectedValue t))
    else .ok ((), rest)

/-- What a token stands for where the kinds `allowed` may stand.
A star and the words `TRUE` and `FALSE`, in upper case, stand for themselves everywhere. -/
def operand? (allowed : Kind → Bool) (t : Token) : Option String :=
  if t.text == "*" then some t.text
  else if Text.eqCaseless t.text "TRUE" then some "TRUE"
  else if Text.eqCaseless t.text "FALSE" then some "FALSE"
  else if allowed t.kind then some t.text
  else none

def operand (allowed : Kind → Bool) : TokenReader String := fun
  | [] => throw (.parse .endOfCommand)
  | t :: rest =>
    match operand? allowed t with
    | some s => .ok (s, rest)
    | none => throw (.parse (.unexpectedToken t))

def column : TokenReader String := operand (· == .identifier)

/-- The name of a database or table, in lower case. -/
def name : TokenReader String := Text.lowerAscii <$> column

def literal : TokenReader String := operand fun k => k == .string || k == .number || k == .identifier

def itemsFrom {α : Type} (item : List α → TokenReader α) : Nat → List α → TokenReader (List α)
  | 0, _ => throw (.parse .endOfCommand)
  | limit + 1, before => do
    let items := before ++ [← item before]
    if ← accept (.symbol .comma) then itemsFrom item limit items else pure items

/-- One item or more, separated by commas; each may depend on those before it.
An item takes a token at least, so there are no more items than tokens. -/
def items {α : Type} (item : List α → TokenReader α) : TokenReader (List α) := fun ts =>
  itemsFrom item (ts.length + 1) [] ts

/-- Fails unless the parentheses in tokens, after `depth` open ones, are paired. -/
def checkPairs (depth : Nat) : List Token → Except ParseError Unit
  | [] => if depth = 0 then .ok () else .error .unmatchedOpen
  | t :: rest =>
    match t.kind, depth with
    | .symbol .open_, _ => checkPairs (depth + 1) rest
    | .symbol .close, 0 => .error .unmatchedClose
    | .symbol .close, outer + 1 => checkPairs outer rest
    | _, _ => checkPairs depth rest

/-- The tokens up to the next semicolon. -/
def clause : TokenReader (List Token) := fun ts => .ok (ts.span (·.kind ≠ .symbol .semicolon))

def whereClause : TokenReader (Option Condition) := do
  if ← accept (.keyword .where_) then
    let tokens ← clause
    liftM (checkPairs 0 tokens)
    some <$> liftM (Condition.ofTokens tokens)
  else pure none

/-- `USE name` -/
def use : TokenReader Statement := do
  require (.keyword .use)
  pure (.use (← name))

/-- A column whose name is not among those before it. -/
def newColumn (before : List String) : TokenReader String := do
  let c ← column
  if before.any (Text.eqCaseless · c) then throw (.schema (.duplicateColumn c)) else pure c

/-- `CREATE DATABASE name` or `CREATE TABLE name [(column, …)]`; a column named `id` adds nothing. -/
def create : TokenReader Statement := do
  require (.keyword .create)
  if ← accept (.keyword .database) then pure (.createDatabase (← name))
  else if ← accept (.keyword .table) then
    let table ← name
    if ← accept (.symbol .open_) then
      let columns ← items newColumn
      require (.symbol .close)
      pure (.createTable table (columns.filter (!isIdColumn ·)))
    else pure (.createTable table [])
  else throw (.parse .noCreateTarget)

/-- Takes the next token, which must be a reserved word or stand for itself, and returns the word if it is one. -/
def target : TokenReader (Option Keyword) :=
  Keyword.ofText? <$> operand fun
    | .keyword _ => true
    | _ => false

/-- `DROP TABLE name` or `DROP DATABASE name` -/
def drop : TokenReader Statement := do
  require (.keyword .drop)
  match ← target with
  | some .table => pure (.dropTable (← name))
  | some .database => pure (.dropDatabase (← name))
  | _ => throw (.parse .noDropTarget)

/-- `ALTER TABLE name ADD column` or `ALTER TABLE name DROP column` -/
def alter : TokenReader Statement := do
  require (.keyword .alter)
  require (.keyword .table)
  let table ← name
  if ← accept (.keyword .add) then pure (.alter table .add (← column))
  else if ← accept (.keyword .drop) then pure (.alter table .drop (← column))
  else throw (.parse .noAlterAction)

/-- `INSERT INTO name VALUES (literal, …)` -/
def insert : TokenReader Statement := do
  require (.keyword .insert)
  require (.keyword .into)
  let table ← name
  require (.keyword .values)
  require (.symbol .open_)
  let literals ← items fun _ => literal
  require (.symbol .close)
  pure (.insert table literals)

def projection : TokenReader Projection := do
  if ← accept (.symbol .star) then pure .all
  else .columns <$> items fun _ => column

/-- `SELECT columns FROM name [WHERE condition]` -/
def select : TokenReader Statement := do
  require (.keyword .select)
  let shown ← projection
  require (.keyword .from_)
  let table ← name
  pure (.select table shown (← whereClause))

def assignment : TokenReader (String × String) := do
  let c ← column
  require (.symbol .equals)
  pure (c, ← literal)

/-- `UPDATE name SET column = literal, … [WHERE condition]` -/
def update : TokenReader Statement := do
  require (.keyword .update)
  let table ← name
  if table == idColumn then throw (.parse .updateOfId)
  require (.keyword .set)
  let assignments ← items fun _ => assignment
  pure (.update table assignments (← whereClause))

/-- `DELETE FROM name [WHERE condition]` -/
def delete : TokenReader Statement := do
  require (.keyword .delete)
  require (.keyword .from_)
  let table ← name
  pure (.delete table (← whereClause))

/-- `JOIN name AND name ON column AND column` -/
def join : TokenReader Statement := do
  require (.keyword .join)
  let left ← name
  require (.connective .and)
  let right ← name
  require (.keyword .on_)
  let leftColumn ← column
  require (.connective .and)
  pure (.join left right leftColumn (← column))

def statementOf : Keyword → TokenReader Statement
  | .use => use
  | .create => create
  | .drop => drop
  | .alter => alter
  | .insert => insert
  | .select => select
  | .update => update
  | .delete => delete
  | .join => join
  | _ => throw (.parse .unknownCommand)

def statement : TokenReader Statement := do
  match (← get).head?.map Token.kind with
  | some (.keyword word) => statementOf word
  | _ => throw (.parse .unknownCommand)

/-- The semicolon that ends a statement, and nothing after it. -/
def finish : TokenReader Unit := do
  if !(← accept (.symbol .semicolon)) then throw (.parse .missingSemicolon)
  match ← get with
  | [] => pure ()
  | t :: _ => throw (.parse (.afterSemicolon t))

end TokenReader

namespace Statement

def ofTokens (tokens : List Token) : Except Error Statement :=
  StateT.run' (do
    let s ← TokenReader.statement
    TokenReader.finish
    pure s) tokens

def ofText (s : String) : Except Error Statement := do
  ofTokens (← Token.tokenize s)

end Statement

end Tabular
