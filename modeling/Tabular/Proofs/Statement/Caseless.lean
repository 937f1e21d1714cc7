import Tabular.Proofs.Condition.Caseless
import Tabular.Proofs.Statement.Readers

/-! Statements read from texts that differ in the case of ASCII letters only: both are refused for the
same reason, or they say the same of the same databases and tables, and name columns and literals that
differ in case only. -/
namespace Tabular

section Statements

inductive Projection.Caseless : Projection → Projection → Prop
  | all : Caseless .all .all
  | columns {names names' : List String} (h : List.Forall₂ Text.Caseless names names') :
      Caseless (.columns names) (.columns names')

/-- Statements of one form on the same databases and tables, of which the columns, literals and
conditions are equal up to case. -/
inductive Statement.Caseless : Statement → Statement → Prop
  | use (database : String) : Caseless (.use database) (.use database)
  | createDatabase (database : String) :
      Caseless (.createDatabase database) (.createDatabase database)
  | dropDatabase (database : String) : Caseless (.dropDatabase database) (.dropDatabase database)
  | createTable (table : String) {columns columns' : List String}
      (hcolumns : List.Forall₂ Text.Caseless columns columns') :
      Caseless (.createTable table columns) (.createTable table columns')
  | dropTable (table : String) : Caseless (.dropTable table) (.dropTable table)
  | alter (table : String) (change : ColumnChange) {column column' : String}
      (hcolumn : Text.Caseless column column') :
      Caseless (.alter table change column) (.alter table change column')
  | insert (table : String) {literals literals' : List String}
      (hliterals : List.Forall₂ Text.Caseless literals literals') :
      Caseless (.insert table literals) (.insert table literals')
  | select (table : String) {shown shown' : Projection} {condition condition' : Option Condition}
      (hshown : shown.Caseless shown')
      (hcondition : Option.Rel Condition.Caseless condition condition') :
      Caseless (.select table shown condition) (.select table shown' condition')
  | update (table : String) {pairs pairs' : List (String × String)}
      {condition condition' : Option Condition}
      (hpairs : List.Forall₂
        (fun p q => Text.Caseless p.1 q.1 ∧ Text.Caseless p.2 q.2) pairs pairs')
      (hcondition : Option.Rel Condition.Caseless condition condition') :
      Caseless (.update table pairs condition) (.update table pairs' condition')
  | delete (table : String) {condition condition' : Option Condition}
      (hcondition : Option.Rel Condition.Caseless condition condition') :
      Caseless (.delete table condition) (.delete table condition')
  | join (left right : String) {leftColumn leftColumn' rightColumn rightColumn' : String}
      (hleft : Text.Caseless leftColumn leftColumn')
      (hright : Text.Caseless rightColumn rightColumn') :
      Caseless (.join left right leftColumn rightColumn) (.join left right leftColumn' rightColumn')

inductive Error.Caseless : Error → Error → Prop
  | parse {e e' : ParseError} (h : e.Caseless e') : Caseless (.parse e) (.parse e')
  | duplicateColumn {c c' : String} (h : Text.Caseless c c') :
      Caseless (.schema (.duplicateColumn c)) (.schema (.duplicateColumn c'))

end Statements

namespace TokenReader
variable {α α' β β' : Type} {R : α → α' → Prop} {S : β → β' → Prop}

/-- From tokens that differ in case, two readers find what is related and go on with such tokens, or
fail for the same reason. -/
def Caseless (R : α → α' → Prop) (x : TokenReader α) (y : TokenReader α') : Prop :=
  ∀ ts us, List.Forall₂ Token.Caseless ts us →
    Except.Rel Error.Caseless (fun p q => R p.1 q.1 ∧ List.Forall₂ Token.Caseless p.2 q.2)
      (x ts) (y us)

section Rules

theorem caseless_pure {a : α} {b : α'} (h : R a b) : Caseless R (pure a) (pure b) :=
  fun _ _ hts => .ok ⟨h, hts⟩

theorem caseless_throw {e e' : Error} (h : e.Caseless e') :
    Caseless R (throw e : TokenReader α) (throw e' : TokenReader α') := fun _ _ _ => .error h

theorem caseless_bind {x : TokenReader α} {y : TokenReader α'} {f : α → TokenReader β}
    {g : α' → TokenReader β'} (hx : Caseless R x y)
    (hf : ∀ a b, R a b → Caseless S (f a) (g b)) : Caseless S (x >>= f) (y >>= g) := by
  intro ts us hts
  rw [bind_apply, bind_apply]
  exact (hx ts us hts).bind fun p q hpq => hf p.1 q.1 hpq.1 p.2 q.2 hpq.2

theorem caseless_bind_eq {x y : TokenReader α} {f : α → TokenReader β} {g : α → TokenReader β'}
    (hx : Caseless Eq x y) (hf : ∀ a, Caseless S (f a) (g a)) :
    Caseless S (x >>= f) (y >>= g) := by
  refine caseless_bind hx ?_
  rintro a _ rfl
  exact hf a

theorem caseless_map {x : TokenReader α} {y : TokenReader α'} {f : α → β} {g : α' → β'}
    (hx : Caseless R x y) (hf : ∀ a b, R a b → S (f a) (g b)) : Caseless S (f <$> x) (g <$> y) :=
  caseless_bind hx fun a b hab => caseless_pure (hf a b hab)

theorem caseless_get :
    Caseless (List.Forall₂ Token.Caseless) (get : TokenReader (List Token)) get :=
  fun _ _ hts => .ok ⟨hts, hts⟩

theorem caseless_liftM {x : Except ParseError α} {y : Except ParseError α'}
    (h : Except.Rel ParseError.Caseless R x y) :
    Caseless R (liftM x : TokenReader α) (liftM y : TokenReader α') := by
  cases h with
  | error h => exact caseless_throw (.parse h)
  | ok h => exact caseless_pure h

theorem caseless_if {c : Prop} [Decidable c] {x y : TokenReader α} {x' y' : TokenReader α'}
    (hx : Caseless R x x') (hy : Caseless R y y') :
    Caseless R (if c then x else y) (if c then x' else y') := by
  split
  · exact hx
  · exact hy

end Rules

section Parts

theorem caseless_accept (f : Fixed) : Caseless Eq (accept f) (accept f) := by
  intro ts us h
  cases h with
  | nil => exact .ok ⟨rfl, .nil⟩
  | cons ht hts =>
    rw [accept, accept, ht.is_eq]
    split
    · exact .ok ⟨rfl, hts⟩
    · exact .ok ⟨rfl, .cons ht hts⟩

theorem caseless_require (f : Fixed) : Caseless Eq (require f) (require f) := by
  intro ts us h
  cases h with
  | nil => exact .error (.parse (.same _))
  | cons ht hts =>
    rw [require, require, ht.is_eq, ht.kind_eq]
    split
    · exact .error (.parse (.wrongKind ht))
    · split
      · exact .error (.parse (.unexpectedValue ht))
      · exact .ok ⟨rfl, hts⟩

/-- Case does not tell which tokens may stand at a place, and only the case of what they stand for. -/
theorem operand?_caseless (allowed : Kind → Bool) {t u : Token} (h : t.Caseless u) :
    Option.Rel Text.Caseless (operand? allowed t) (operand? allowed u) := by
  have htruth : t.IsTruth ↔ u.IsTruth := by
    rw [Token.IsTruth, Token.IsTruth, eqCaseless_congr h, eqCaseless_congr h]
  by_cases hu : u.kind = .symbol .star ∨ u.IsTruth ∨ allowed u.kind = true
  · have ht := hu
    rw [← h.kind_eq, ← htruth] at ht
    rw [operand?_eq_some.2 ⟨ht, rfl⟩, operand?_eq_some.2 ⟨hu, rfl⟩]
    exact .some h.value
  · have ht := hu
    rw [← h.kind_eq, ← htruth] at ht
    have hnone {v : Token} (hv : ¬(v.kind = .symbol .star ∨ v.IsTruth ∨ allowed v.kind = true)) :
        operand? allowed v = none :=
      Option.eq_none_iff_forall_ne_some.2 fun s hs => hv (operand?_eq_some.1 hs).1
    rw [hnone ht, hnone hu]
    exact .none

theorem caseless_operand (allowed : Kind → Bool) :
    Caseless Text.Caseless (operand allowed) (operand allowed) := by
  intro ts us h
  cases h with
  | nil => exact .error (.parse (.same _))
  | @cons t u ts us ht hts =>
    have hstands := operand?_caseless allowed ht
    rw [operand, operand]
    generalize operand? allowed t = a at hstands ⊢
    generalize operand? allowed u = b at hstands ⊢
    cases hstands with
    | none => exact .error (.parse (.unexpectedToken ht))
    | some hab => exact .ok ⟨hab, hts⟩

theorem caseless_column : Caseless Text.Caseless column column := caseless_operand _

theorem caseless_literal : Caseless Text.Caseless literal literal := caseless_operand _

theorem caseless_name : Caseless Eq name name :=
  caseless_map caseless_column fun _ _ => Text.eqCaseless_iff.1

theorem caseless_target : Caseless Eq target target :=
  caseless_map (caseless_operand _) fun _ _ => Keyword.ofText?_congr

theorem caseless_items {item : List α → TokenReader α} {item' : List α' → TokenReader α'}
    (hitem : ∀ before before', List.Forall₂ R before before' →
      Caseless R (item before) (item' before')) :
    Caseless (List.Forall₂ R) (items item) (items item') := by
  have hfrom (limit : Nat) : ∀ before before', List.Forall₂ R before before' →
      Caseless (List.Forall₂ R) (itemsFrom item limit before) (itemsFrom item' limit before') := by
    induction limit with
    | zero => exact fun _ _ _ => caseless_throw (.parse (.same _))
    | succ limit ih =>
      intro before before' hbefore
      refine caseless_bind (hitem before before' hbefore) fun a b hab => ?_
      have hitems : List.Forall₂ R (before ++ [a]) (before' ++ [b]) :=
        List.rel_append hbefore (.cons hab .nil)
      exact caseless_bind_eq (caseless_accept _) fun more =>
        caseless_if (ih _ _ hitems) (caseless_pure hitems)
  intro ts us hts
  rw [items, items, hts.length_eq]
  exact hfrom (us.length + 1) [] [] .nil ts us hts

theorem any_eqCaseless_congr {before before' : List String} {c c' : String}
    (hbefore : List.Forall₂ Text.Caseless before before') (hc : Text.Caseless c c') :
    before.any (Text.eqCaseless · c) = before'.any (Text.eqCaseless · c') := by
  induction hbefore with
  | nil => rfl
  | @cons b b' before before' hb hbefore ih =>
    have hsame : Text.eqCaseless b c = Text.eqCaseless b' c' := by
      rw [eqCaseless_congr hb, Bool.eq_iff_iff]
      exact ⟨fun h => Text.eqCaseless_trans h hc, fun h => Text.eqCaseless_trans h hc.symm⟩
    rw [List.any_cons, List.any_cons, hsame, ih]

theorem caseless_newColumn {before before' : List String}
    (hbefore : List.Forall₂ Text.Caseless before before') :
    Caseless Text.Caseless (newColumn before) (newColumn before') := by
  refine caseless_bind caseless_column fun c c' hc => ?_
  rw [any_eqCaseless_congr hbefore hc]
  exact caseless_if (caseless_throw (.duplicateColumn hc)) (caseless_pure hc)

theorem caseless_assignment :
    Caseless (fun p q => Text.Caseless p.1 q.1 ∧ Text.Caseless p.2 q.2) assignment assignment := by
  refine caseless_bind caseless_column fun c c' hc => ?_
  refine caseless_bind_eq (caseless_require _) fun _ => ?_
  exact caseless_bind caseless_literal fun l l' hl => caseless_pure ⟨hc, hl⟩

theorem caseless_projection : Caseless Projection.Caseless projection projection := by
  refine caseless_bind_eq (caseless_accept _) fun star => caseless_if (caseless_pure .all) ?_
  exact caseless_map (caseless_items fun _ _ _ => caseless_column) fun _ _ => .columns

end Parts

section Conditions

theorem checkPairs_congr {depth : Nat} {ts us : List Token}
    (h : List.Forall₂ Token.Caseless ts us) : checkPairs depth ts = checkPairs depth us := by
  induction h generalizing depth with
  | nil => rfl
  | cons ht hts ih => simp only [checkPairs, ht.kind_eq, ih]

theorem caseless_clause : Caseless (List.Forall₂ Token.Caseless) clause clause := by
  intro ts us h
  refine .ok ?_
  rw [List.span_eq_takeWhile_dropWhile, List.span_eq_takeWhile_dropWhile]
  induction h with
  | nil => exact ⟨.nil, .nil⟩
  | @cons t u ts us ht hts ih =>
    rw [List.takeWhile_cons, List.takeWhile_cons, List.dropWhile_cons, List.dropWhile_cons, ht.kind_eq]
    split
    · exact ⟨.cons ht ih.1, ih.2⟩
    · exact ⟨.nil, .cons ht hts⟩

theorem caseless_whereClause :
    Caseless (Option.Rel Condition.Caseless) whereClause whereClause := by
  refine caseless_bind_eq (caseless_accept _) fun there => caseless_if ?_ (caseless_pure .none)
  refine caseless_bind caseless_clause fun ts us hts => ?_
  rw [checkPairs_congr hts]
  refine caseless_bind_eq (caseless_liftM ?_) fun _ => ?_
  · cases checkPairs 0 us with
    | error e => exact .error (.same e)
    | ok => exact .ok rfl
  · exact caseless_map (caseless_liftM (Condition.ofTokens_caseless hts)) fun _ _ => .some

end Conditions

section Forms

theorem caseless_use : Caseless Statement.Caseless use use := by
  refine caseless_bind_eq (caseless_require _) fun _ => ?_
  exact caseless_bind_eq caseless_name fun d => caseless_pure (.use d)

theorem caseless_create : Caseless Statement.Caseless create create := by
  refine caseless_bind_eq (caseless_require _) fun _ => ?_
  refine caseless_bind_eq (caseless_accept _) fun _ => caseless_if ?_ ?_
  · exact caseless_bind_eq caseless_name fun d => caseless_pure (.createDatabase d)
  · refine caseless_bind_eq (caseless_accept _) fun _ => caseless_if ?_ ?_
    · refine caseless_bind_eq caseless_name fun table => ?_
      refine caseless_bind_eq (caseless_accept _) fun _ => caseless_if ?_ ?_
      · refine caseless_bind (caseless_items fun _ _ => caseless_newColumn) fun cs cs' hcs => ?_
        have hid ⦃c c' : String⦄ (hc : Text.Caseless c c') :
            (!isIdColumn c) = true ↔ (!isIdColumn c') = true := by
          rw [isIdColumn, isIdColumn, eqCaseless_congr hc]
        refine caseless_bind_eq (caseless_require _) fun _ => ?_
        exact caseless_pure (.createTable table (List.rel_filter (R := Text.Caseless) hid hcs))
      · exact caseless_pure (.createTable table .nil)
    · exact caseless_throw (.parse (.same _))

theorem caseless_drop : Caseless Statement.Caseless drop drop := by
  refine caseless_bind_eq (caseless_require _) fun _ => ?_
  refine caseless_bind_eq caseless_target fun word => ?_
  cases word with
  | none => exact caseless_throw (.parse (.same _))
  | some word =>
    cases word with
    | table => exact caseless_bind_eq caseless_name fun table => caseless_pure (.dropTable table)
    | database => exact caseless_bind_eq caseless_name fun d => caseless_pure (.dropDatabase d)
    | _ => exact caseless_throw (.parse (.same _))

theorem caseless_alter : Caseless Statement.Caseless alter alter := by
  refine caseless_bind_eq (caseless_require _) fun _ => ?_
  refine caseless_bind_eq (caseless_require _) fun _ => ?_
  refine caseless_bind_eq caseless_name fun table => ?_
  have hchange (change : ColumnChange) :
      Caseless Statement.Caseless (do pure (.alter table change (← column)))
        (do pure (.alter table change (← column))) :=
    caseless_bind caseless_column fun c c' hc => caseless_pure (.alter table change hc)
  refine caseless_bind_eq (caseless_accept _) fun _ => caseless_if (hchange .add) ?_
  refine caseless_bind_eq (caseless_accept _) fun _ => caseless_if (hchange .drop) ?_
  exact caseless_throw (.parse (.same _))

theorem caseless_insert : Caseless Statement.Caseless insert insert := by
  refine caseless_bind_eq (caseless_require _) fun _ => ?_
  refine caseless_bind_eq (caseless_require _) fun _ => ?_
  refine caseless_bind_eq caseless_name fun table => ?_
  refine caseless_bind_eq (caseless_require _) fun _ => ?_
  refine caseless_bind_eq (caseless_require _) fun _ => ?_
  refine caseless_bind (caseless_items fun _ _ _ => caseless_literal) fun ls ls' hls => ?_
  exact caseless_bind_eq (caseless_require _) fun _ => caseless_pure (.insert table hls)

theorem caseless_select : Caseless Statement.Caseless select select := by
  refine caseless_bind_eq (caseless_require _) fun _ => ?_
  refine caseless_bind caseless_projection fun shown shown' hshown => ?_
  refine caseless_bind_eq (caseless_require _) fun _ => ?_
  refine caseless_bind_eq caseless_name fun table => ?_
  exact caseless_bind caseless_whereClause fun c c' hc => caseless_pure (.select table hshown hc)

theorem caseless_update : Caseless Statement.Caseless update update := by
  refine caseless_bind_eq (caseless_require _) fun _ => ?_
  refine caseless_bind_eq caseless_name fun table => ?_
  refine caseless_if (fun _ _ _ => .error (.parse (.same _))) ?_
  refine caseless_bind_eq (caseless_require _) fun _ => ?_
  refine caseless_bind (caseless_items fun _ _ _ => caseless_assignment) fun ps ps' hps => ?_
  exact caseless_bind caseless_whereClause fun c c' hc => caseless_pure (.update table hps hc)

theorem caseless_delete : Caseless Statement.Caseless delete delete := by
  refine caseless_bind_eq (caseless_require _) fun _ => ?_
  refine caseless_bind_eq (caseless_require _) fun _ => ?_
  refine caseless_bind_eq caseless_name fun table => ?_
  exact caseless_bind caseless_whereClause fun c c' hc => caseless_pure (.delete table hc)

theorem caseless_join : Caseless Statement.Caseless join join := by
  refine caseless_bind_eq (caseless_require _) fun _ => ?_
  refine caseless_bind_eq caseless_name fun left => ?_
  refine caseless_bind_eq (caseless_require _) fun _ => ?_
  refine caseless_bind_eq caseless_name fun right => ?_
  refine caseless_bind_eq (caseless_require _) fun _ => ?_
  refine caseless_bind caseless_column fun lc lc' hlc => ?_
  refine caseless_bind_eq (caseless_require _) fun _ => ?_
  exact caseless_bind caseless_column fun rc rc' hrc => caseless_pure (.join left right hlc hrc)

theorem caseless_statementOf (word : Keyword) :
    Caseless Statement.Caseless (statementOf word) (statementOf word) := by
  cases word with
  | use => exact caseless_use
  | create => exact caseless_create
  | drop => exact caseless_drop
  | alter => exact caseless_alter
  | insert => exact caseless_insert
  | select => exact caseless_select
  | update => exact caseless_update
  | delete => exact caseless_delete
  | join => exact caseless_join
  | _ => exact caseless_throw (.parse (.same _))

theorem caseless_statement : Caseless Statement.Caseless statement statement := by
  refine caseless_bind caseless_get fun ts us hts => ?_
  have hhead : ts.head?.map Token.kind = us.head?.map Token.kind := by
    cases hts with
    | nil => rfl
    | cons ht => simp [ht.kind_eq]
  rw [hhead]
  cases us.head?.map Token.kind with
  | none => exact caseless_throw (.parse (.same _))
  | some k =>
    cases k with
    | keyword word => exact caseless_statementOf word
    | _ => exact caseless_throw (.parse (.same _))

theorem caseless_finish : Caseless Eq finish finish := by
  refine caseless_bind_eq (caseless_accept _) fun _ => ?_
  refine caseless_if (fun _ _ _ => .error (.parse (.same _))) ?_
  refine caseless_bind caseless_get fun ts us hts => ?_
  cases hts with
  | nil => exact caseless_pure rfl
  | cons ht => exact caseless_throw (.parse (.afterSemicolon ht))

end Forms

end TokenReader

theorem Statement.ofTokens_caseless {ts us : List Token} (h : List.Forall₂ Token.Caseless ts us) :
    Except.Rel Error.Caseless Statement.Caseless (ofTokens ts) (ofTokens us) := by
  have hread := TokenReader.caseless_bind TokenReader.caseless_statement
    (fun st st' hst => TokenReader.caseless_bind_eq TokenReader.caseless_finish fun _ =>
      TokenReader.caseless_pure (R := Statement.Caseless) hst) ts us h
  exact hread.map fun _ _ h => h.1

/-- Two texts with closed quotes, of which the tokens are equal up to the case of ASCII letters one by
one, write statements of one form on the same databases and tables that are equal up to case, or are
refused for the same reason. -/
theorem Statement.ofText_ignores_case {s w : String} (hs : (scan s).closed = true)
    (hw : (scan w).closed = true)
    (h : List.Forall₂ Text.Caseless (scan s).texts (scan w).texts) :
    Except.Rel Error.Caseless Statement.Caseless (ofText s) (ofText w) := by
  have htokens := Token.tokenize_caseless hs hw h
  unfold ofText
  exact (htokens.mapError fun _ _ => Error.Caseless.parse).bind fun _ _ => ofTokens_caseless

/-- A name, a column, a literal, a comparison and a connective in two cases. -/
theorem Statement.ofText_ignores_case_update :
    (scan "UPDATE T SET a = TRUE WHERE b like 'x' or C >= 1;").closed = true ∧
      (scan "update t set A = true where B LIKE 'X' OR c >= 1;").closed = true ∧
      List.Forall₂ Text.Caseless (scan "UPDATE T SET a = TRUE WHERE b like 'x' or C >= 1;").texts
        (scan "update t set A = true where B LIKE 'X' OR c >= 1;").texts ∧
      ofText "UPDATE T SET a = TRUE WHERE b like 'x' or C >= 1;" =
        .ok (.update "t" [("a", "TRUE")]
          (some (.or (.comparison "b" .like "x") (.comparison "C" .greaterEqual "1")))) ∧
      Except.Rel Error.Caseless Statement.Caseless
        (ofText "UPDATE T SET a = TRUE WHERE b like 'x' or C >= 1;")
        (ofText "update t set A = true where B LIKE 'X' OR c >= 1;") := by
  have hs : (scan "UPDATE T SET a = TRUE WHERE b like 'x' or C >= 1;").closed = true := by
    decide +kernel
  have hw : (scan "update t set A = true where B LIKE 'X' OR c >= 1;").closed = true := by
    decide +kernel
  have htexts : List.Forall₂ Text.Caseless
      (scan "UPDATE T SET a = TRUE WHERE b like 'x' or C >= 1;").texts
      (scan "update t set A = true where B LIKE 'X' OR c >= 1;").texts := by
    decide +kernel
  exact ⟨hs, hw, htexts, by decide +kernel, ofText_ignores_case hs hw htexts⟩

end Tabular
