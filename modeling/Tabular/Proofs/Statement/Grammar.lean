import Tabular.Proofs.Token.Kinds

/-! The grammar of statements, as a relation between tokens and the statement that they write. -/
namespace Tabular

namespace Token

/-- A token that names a column: an identifier or a star. -/
def Column (t : Token) (c : String) : Prop :=
  (t.kind = .identifier ∨ t.kind = .symbol .star) ∧ t.value = c

/-- A token that names a database or table, in lower case. -/
def Name (t : Token) (n : String) : Prop := ∃ c, t.Column c ∧ Text.lowerAscii c = n

/-- A token that writes a literal: a string, a number, an identifier or a star. -/
def Literal (t : Token) (s : String) : Prop :=
  t.kind ∈ [.string, .number, .identifier, .symbol .star] ∧ t.value = s

/-- A token is spelled as a reserved word, up to the case of ASCII letters. -/
def Spells (k : Keyword) (t : Token) : Prop := t.is (.keyword k) = true

/-- A token is classified as a reserved word. -/
def Classified (k : Keyword) (t : Token) : Prop := t.kind = .keyword k

end Token

namespace Grammar

def Single {α : Type} (Item : Token → α → Prop) (ts : List Token) (a : α) : Prop :=
  ∃ t, ts = [t] ∧ Item t a

def Assignment (ts : List Token) (a : String × String) : Prop :=
  ∃ c equals v, ts = [c, equals, v] ∧ c.Column a.1 ∧ equals.kind = .symbol .equals ∧ v.Literal a.2

/-- One item or more, with commas between them. -/
inductive Listed {α : Type} (Item : List Token → α → Prop) : List Token → List α → Prop where
  | last {ts : List Token} {a : α} (item : Item ts a) : Listed Item ts [a]
  | more {ts rest : List Token} {comma : Token} {a : α} {as : List α} (item : Item ts a)
      (comma_kind : comma.kind = .symbol .comma) (items : Listed Item rest as) :
      Listed Item (ts ++ comma :: rest) (a :: as)

section Words
-- How tokens write reserved words; `object` is for the word after `DROP`.
variable (word object : Keyword → Token → Prop)

inductive Where : List Token → Option Condition → Prop where
  | none : Where [] none
  | some {w : Token} {ts : List Token} {c : Condition} (where_word : word .where_ w)
      (nonempty : ts ≠ []) (no_semicolon : ∀ t ∈ ts, t.kind ≠ .symbol .semicolon)
      (condition : Condition.ofTokens ts = .ok c) : Where (w :: ts) (some c)

/-- The tokens of a statement that begins with a reserved word, up to its semicolon. -/
inductive Body : Keyword → List Token → Statement → Prop where
  | use {w d : Token} {database : String} (w_word : word .use w) (d_name : d.Name database) :
      Body .use [w, d] (.use database)
  | createDatabase {w o d : Token} {database : String} (w_word : word .create w)
      (o_word : word .database o) (d_name : d.Name database) :
      Body .create [w, o, d] (.createDatabase database)
  | createTable {w o t : Token} {table : String} (w_word : word .create w)
      (o_word : word .table o) (t_name : t.Name table) :
      Body .create [w, o, t] (.createTable table [])
  | createColumns {w o t left right : Token} {cs : List Token} {table : String}
      {columns : List String} (w_word : word .create w) (o_word : word .table o)
      (t_name : t.Name table) (left_kind : left.kind = .symbol .open_)
      (cs_columns : Listed (Single Token.Column) cs columns)
      (distinct : columns.Pairwise fun a b => Text.eqCaseless a b = false)
      (right_kind : right.kind = .symbol .close) :
      Body .create (w :: o :: t :: left :: (cs ++ [right]))
        (.createTable table (columns.filter (!isIdColumn ·)))
  | dropTable {w o t : Token} {table : String} (w_word : word .drop w) (o_word : object .table o)
      (t_name : t.Name table) : Body .drop [w, o, t] (.dropTable table)
  | dropDatabase {w o d : Token} {database : String} (w_word : word .drop w)
      (o_word : object .database o) (d_name : d.Name database) :
      Body .drop [w, o, d] (.dropDatabase database)
  | addColumn {w o t a c : Token} {table column : String} (w_word : word .alter w)
      (o_word : word .table o) (t_name : t.Name table) (a_word : word .add a)
      (c_column : c.Column column) : Body .alter [w, o, t, a, c] (.alter table .add column)
  | dropColumn {w o t a c : Token} {table column : String} (w_word : word .alter w)
      (o_word : word .table o) (t_name : t.Name table) (a_word : word .drop a)
      (c_column : c.Column column) : Body .alter [w, o, t, a, c] (.alter table .drop column)
  | insert {w i t v left right : Token} {ls : List Token} {table : String}
      {literals : List String} (w_word : word .insert w) (i_word : word .into i)
      (t_name : t.Name table) (v_word : word .values v) (left_kind : left.kind = .symbol .open_)
      (ls_literals : Listed (Single Token.Literal) ls literals)
      (right_kind : right.kind = .symbol .close) :
      Body .insert (w :: i :: t :: v :: left :: (ls ++ [right])) (.insert table literals)
  | selectAll {w s f t : Token} {cs : List Token} {table : String} {c : Option Condition}
      (w_word : word .select w) (s_kind : s.kind = .symbol .star) (f_word : word .from_ f)
      (t_name : t.Name table) (cs_where : Where word cs c) :
      Body .select (w :: s :: f :: t :: cs) (.select table .all c)
  | select {w f t : Token} {shown cs : List Token} {table : String} {columns : List String}
      {c : Option Condition} (w_word : word .select w)
      (shown_columns : Listed (Single Token.Column) shown columns)
      (no_star : ∀ s ∈ shown.head?, s.kind ≠ .symbol .star) (f_word : word .from_ f)
      (t_name : t.Name table) (cs_where : Where word cs c) :
      Body .select (w :: (shown ++ f :: t :: cs)) (.select table (.columns columns) c)
  | update {w t s : Token} {as cs : List Token} {table : String}
      {assignments : List (String × String)} {c : Option Condition} (w_word : word .update w)
      (t_name : t.Name table) (not_id : table ≠ idColumn) (s_word : word .set s)
      (as_assignments : Listed Assignment as assignments) (cs_where : Where word cs c) :
      Body .update (w :: t :: s :: (as ++ cs)) (.update table assignments c)
  | delete {w f t : Token} {cs : List Token} {table : String} {c : Option Condition}
      (w_word : word .delete w) (f_word : word .from_ f) (t_name : t.Name table)
      (cs_where : Where word cs c) : Body .delete (w :: f :: t :: cs) (.delete table c)
  | join {w l a r o x b y : Token} {left right leftColumn rightColumn : String}
      (w_word : word .join w) (l_name : l.Name left) (a_kind : a.kind = .logical .and)
      (r_name : r.Name right) (o_word : word .on_ o) (x_column : x.Column leftColumn)
      (b_kind : b.kind = .logical .and) (y_column : y.Column rightColumn) :
      Body .join [w, l, a, r, o, x, b, y] (.join left right leftColumn rightColumn)

/-- Tokens write a statement: its body, and a semicolon at the end. -/
def Derives (ts : List Token) (st : Statement) : Prop :=
  ∃ first body semicolon, ts = body ++ [semicolon] ∧ semicolon.kind = .symbol .semicolon ∧
    Body word object first body st

end Words

end Grammar

end Tabular
