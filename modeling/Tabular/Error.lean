import Tabular.Storage.Fault
import Tabular.Token.Basic

/-! The causes for which a statement is refused, and their wording. -/
namespace Tabular

/-- What a condition needs at some place. -/
inductive ConditionPart where
  | column | comparison | value
  deriving DecidableEq, Repr

def ConditionPart.text : ConditionPart → String
  | column => "column name"
  | comparison => "comparison operator"
  | value => "value"

inductive ParseError where
  | unclosedString
  | invalidToken (text : String)
  | unknownCommand
  /-- The statement ends where a name or a literal must stand. -/
  | endOfCommand
  /-- The statement ends where a given word must stand. -/
  | endInsteadOf (wanted : Fixed)
  | unexpectedToken (found : Token)
  | wrongKind (wanted : Fixed) (found : Token)
  | unexpectedValue (found : Token)
  | noCreateTarget
  | noDropTarget
  | noAlterAction
  | updateOfId
  | unmatchedClose
  | unmatchedOpen
  | missingSemicolon
  | afterSemicolon (found : Token)
  | missingCondition
  | unclosedCondition
  | afterCondition (found : Token)
  | wrongPart (wanted : ConditionPart) (found : Token)
  | missingPart (wanted : ConditionPart)
  deriving DecidableEq, Repr

def ParseError.message : ParseError → String
  | unclosedString => "unterminated string literal"
  | invalidToken t => s!"Invalid token detected: {t}"
  | unknownCommand => "Unknown or invalid command."
  | endOfCommand => "Unexpected end of command."
  | endInsteadOf wanted => s!"Expected {wanted.text}, found end of command."
  | unexpectedToken t => s!"Unexpected token: {t.text}"
  | wrongKind wanted t => s!"Expected {wanted.kind.name} but found {t.kind.name} ({t.text})"
  | unexpectedValue t => s!"Unexpected value: {t.text}"
  | noCreateTarget => "Expected DATABASE or TABLE after CREATE."
  | noDropTarget => "Expected TABLE or DATABASE in DROP command."
  | noAlterAction => "Expected ADD or DROP in ALTER TABLE."
  | updateOfId => "Cannot update ID column."
  | unmatchedClose => "Unmatched closing parenthesis."
  | unmatchedOpen => "Unmatched opening parenthesis."
  | missingSemicolon => "Missing semicolon at the end."
  | afterSemicolon t => s!"Unexpected token after semicolon: {t.text}"
  | missingCondition => "Missing condition after WHERE."
  | unclosedCondition => "Expected ')' in condition."
  | afterCondition t => s!"Unexpected token in condition: {t.text}"
  | wrongPart wanted t => s!"Expected {wanted.text} in condition, found {t.text}"
  | missingPart wanted => s!"Incomplete condition, expected {wanted.text}"

inductive SchemaError where
  | noDatabase (database : String)
  | databaseExists (database : String)
  | noTable (table : String)
  | tableExists (table : String)
  | emptyTable (table : String)
  | noColumn (column table : String)
  | columnExists (column table : String)
  | duplicateColumn (column : String)
  | invalidColumn (column : String)
  | updateOfId
  | alterOfId
  | badLiteral (literal : String)
  | countMismatch (expected found : Nat)
  | noIdsLeft (table : String)
  deriving DecidableEq, Repr

def SchemaError.message : SchemaError → String
  | noDatabase d => s!"Database '{d}' does not exist."
  | databaseExists d => s!"Database '{d}' already exists."
  | noTable t => s!"Table '{t}' does not exist."
  | tableExists t => s!"Table '{t}' already exists."
  | emptyTable t => s!"Table '{t}' is empty."
  | noColumn c t => s!"Column '{c}' does not exist in table '{t}'."
  | columnExists c t => s!"Column '{c}' already exists in table '{t}'."
  | duplicateColumn c => s!"Duplicate column name: {c}"
  | invalidColumn c => s!"Invalid column name: {c}"
  | updateOfId => "Cannot update the id column."
  | alterOfId => "Cannot alter the id column."
  | badLiteral l => s!"Value {l} contains a tab or line break."
  | countMismatch expected found => s!"Column count mismatch: expected {expected} values, got {found}."
  | noIdsLeft t => s!"No ids left in table '{t}'."

inductive Error where
  | parse (cause : ParseError)
  | schema (cause : SchemaError)
  /-- No database is active. -/
  | noActiveDatabase
  | storage (cause : StorageFault)
  deriving DecidableEq, Repr

def Error.message : Error → String
  | parse cause => cause.message
  | schema cause => cause.message
  | noActiveDatabase => "No database selected."
  | storage cause => s!"storage error: {cause.message}"

instance : MonadLift (Except ParseError) (Except Error) := ⟨Except.mapError .parse⟩

end Tabular
