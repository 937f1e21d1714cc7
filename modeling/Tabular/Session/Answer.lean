import Tabular.Table

/-! What a statement answers. -/
namespace Tabular

inductive Answer where
  | use (database : String)
  | createDatabase (database : String)
  | dropDatabase (database : String)
  | createTable (table : String)
  | dropTable (table : String)
  | alter (table : String)
  | insert (table : String) (id : UInt64)
  | update (count : Nat)
  | delete (count : Nat)
  | scan (columns : List String) (rows : List (List String))
  deriving DecidableEq, Repr

/-- The text of an answer: a mark of success, and the lines of a scan. -/
def Answer.render : Answer → String
  | scan columns rows => "\n".intercalate ("[OK]" :: (columns :: rows).map joinCells)
  | _ => "[OK]"

end Tabular
