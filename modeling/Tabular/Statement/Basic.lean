import Tabular.Condition.Basic

/-! The statements of the language. -/
namespace Tabular

inductive Projection where
  | all
  | columns (names : List String)
  deriving DecidableEq, Repr

inductive ColumnChange where
  | add | drop
  deriving DecidableEq, Repr

/-- A statement; names of databases and tables are in lower case, literals keep their quotes. -/
inductive Statement where
  | use (database : String)
  | createDatabase (database : String)
  | dropDatabase (database : String)
  | createTable (table : String) (columns : List String)
  | dropTable (table : String)
  | alter (table : String) (change : ColumnChange) (column : String)
  | insert (table : String) (literals : List String)
  | select (table : String) (projection : Projection) (condition : Option Condition)
  | update (table : String) (assignments : List (String × String)) (condition : Option Condition)
  | delete (table : String) (condition : Option Condition)
  | join (left right leftColumn rightColumn : String)
  deriving DecidableEq, Repr

end Tabular
