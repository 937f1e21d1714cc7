import Tabular.Text.UpperCase

/-! The reserved words of statements. -/
namespace Tabular

inductive Keyword where
  | use | select | from_ | where_ | set | insert | update | delete | create | drop | table | database
  | alter | into | values | add | join | on_
  deriving DecidableEq, Repr

namespace Keyword

def all : List Keyword :=
  [use, select, from_, where_, set, insert, update, delete, create, drop, table, database,
    alter, into, values, add, join, on_]

def text : Keyword → String
  | use => "USE"
  | select => "SELECT"
  | from_ => "FROM"
  | where_ => "WHERE"
  | set => "SET"
  | insert => "INSERT"
  | update => "UPDATE"
  | delete => "DELETE"
  | create => "CREATE"
  | drop => "DROP"
  | table => "TABLE"
  | database => "DATABASE"
  | alter => "ALTER"
  | into => "INTO"
  | values => "VALUES"
  | add => "ADD"
  | join => "JOIN"
  | on_ => "ON"

/-- The reserved word that a text spells in upper case. -/
def ofText? (s : String) : Option Keyword :=
  let word := Text.upper s
  all.find? (·.text == word)

/-- A text is a reserved word exactly if its upper case is the spelling of one. -/
theorem text_eq_of_ofText? {s : String} {k : Keyword} (h : ofText? s = some k) : k.text = Text.upper s := by
  simpa using List.find?_some h

end Keyword

end Tabular
