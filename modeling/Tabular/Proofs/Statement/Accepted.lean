import Mathlib.Data.List.Basic
import Tabular.Proofs.Statement.Readers

/-! The statements that are read are those that the grammar derives. -/
namespace Tabular

namespace TokenReader

/-- The word after `DROP` is told by its kind, not by its spelling. -/
theorem target_eq_ok {ts rest : List Token} {k : Keyword} :
    target ts = .ok (some k, rest) ↔ ∃ t, ts = t :: rest ∧ t.Classified k := by
  have hkind (t : Token) : Keyword.ofText? t.value = some k ↔ t.Classified k := by
    rw [← Kind.ofText?_eq_keyword, t.ofText?_value, Option.some.injEq]
    rfl
  simp only [target, map_eq_ok, operand_eq_ok, operand?_eq_some]
  constructor
  · rintro ⟨_, ⟨t, rfl, -, rfl⟩, hk⟩
    exact ⟨t, rfl, (hkind t).1 hk⟩
  · rintro ⟨t, rfl, hk⟩
    refine ⟨t.value, ⟨t, rfl, .inr (.inr ?_), rfl⟩, (hkind t).2 hk⟩
    rw [show t.kind = .keyword k from hk]

section Statements
open Grammar

/-- A reader reads exactly the statements that begin with a reserved word, up to their semicolon. -/
def ReadsBody (first : Keyword) (x : TokenReader Statement) : Prop :=
  ∀ semicolon : Token, semicolon.kind = .symbol .semicolon → ∀ ts st,
    x ts = .ok (st, [semicolon]) ↔
      ∃ body, ts = body ++ [semicolon] ∧ Body Token.Spells Token.Classified first body st

theorem readsBody_use : ReadsBody .use use := by
  intro semicolon hsemi ts st
  simp only [use, bind_eq_ok, require_eq_ok, name_eq_ok, pure_eq_ok]
  constructor
  · rintro ⟨_, _, ⟨w, rfl, hw⟩, d, _, ⟨t, rfl, ht⟩, rfl, rfl⟩
    exact ⟨[w, t], rfl, .use hw ht⟩
  · rintro ⟨_, rfl, hbody⟩
    cases hbody with
    | @use w t d hw ht => exact ⟨(), _, ⟨w, rfl, hw⟩, d, _, ⟨t, rfl, ht⟩, rfl, rfl⟩

theorem readsBody_create : ReadsBody .create create := by
  intro semicolon hsemi ts st
  rw [create, bind_eq_ok]
  simp only [require_eq_ok, accept_then_eq_ok]
  constructor
  · rintro ⟨_, _, ⟨w, rfl, hw⟩, ⟨o, _, rfl, ho, h⟩ | ⟨-, ⟨o, _, rfl, ho, h⟩ | ⟨-, h⟩⟩⟩
    · simp only [bind_eq_ok, name_eq_ok, pure_eq_ok] at h
      obtain ⟨d, _, ⟨t, rfl, ht⟩, rfl, rfl⟩ := h
      exact ⟨[w, o, t], rfl, .createDatabase hw ho ht⟩
    · obtain ⟨table, _, htable, hcolumns⟩ := bind_eq_ok.1 h
      obtain ⟨t, rfl, ht⟩ := name_eq_ok.1 htable
      rcases accept_then_eq_ok.1 hcolumns with ⟨left, _, rfl, hleft, hlist⟩ | ⟨-, hnone⟩
      · simp only [bind_eq_ok, newColumns_eq_ok, require_eq_ok, pure_eq_ok] at hlist
        obtain ⟨columns, _, ⟨cs, rfl, hcs, hdistinct, -⟩, _, _, ⟨right, rfl, hright⟩, rfl, rfl⟩ :=
          hlist
        refine ⟨w :: o :: t :: left :: (cs ++ [right]), by simp, ?_⟩
        exact .createColumns hw ho ht (Token.is_symbol_iff.1 hleft) hcs hdistinct
          (Token.is_symbol_iff.1 hright)
      · obtain ⟨rfl, rfl⟩ := pure_eq_ok.1 hnone
        exact ⟨[w, o, t], rfl, .createTable hw ho ht⟩
    · exact (throw_eq_ok.1 h).elim
  · rintro ⟨_, rfl, hbody⟩
    have hno {o : Token} {rest : List Token} (ho : Token.Spells .table o) :
        NotAhead (.keyword .database) (o :: rest) := .cons (Token.kind_of_is ho) (by decide)
    cases hbody with
    | @createDatabase w o t d hw ho ht =>
      refine ⟨(), _, ⟨w, rfl, hw⟩, .inl ⟨o, _, rfl, ho, ?_⟩⟩
      simp only [bind_eq_ok, name_eq_ok, pure_eq_ok]
      exact ⟨d, _, ⟨t, rfl, ht⟩, rfl, rfl⟩
    | @createTable w o t table hw ho ht =>
      refine ⟨(), _, ⟨w, rfl, hw⟩, .inr ⟨hno ho, .inl ⟨o, _, rfl, ho, ?_⟩⟩⟩
      refine bind_eq_ok.2 ⟨table, _, name_eq_ok.2 ⟨t, rfl, ht⟩,
        accept_then_eq_ok.2 (.inr ⟨?_, rfl⟩)⟩
      exact .cons (f := .symbol .semicolon) hsemi (by decide)
    | @createColumns w o t left right cs table columns hw ho ht hleft hcs hdistinct hright =>
      have hcomma : NotAhead (.symbol .comma) [right, semicolon] :=
        .cons (f := .symbol .close) hright (by decide)
      refine ⟨(), _, ⟨w, rfl, hw⟩, .inr ⟨hno ho, .inl ⟨o, _, rfl, ho, ?_⟩⟩⟩
      refine bind_eq_ok.2 ⟨table, _, name_eq_ok.2 ⟨t, rfl, ht⟩, accept_then_eq_ok.2
        (.inl ⟨left, _, rfl, Token.is_symbol_iff.2 hleft, ?_⟩)⟩
      simp only [bind_eq_ok, newColumns_eq_ok, require_eq_ok, pure_eq_ok]
      exact ⟨columns, _, ⟨cs, List.append_assoc _ _ _, hcs, hdistinct, hcomma⟩, (), _,
        ⟨right, rfl, Token.is_symbol_iff.2 hright⟩, rfl, rfl⟩

theorem readsBody_drop : ReadsBody .drop drop := by
  intro semicolon hsemi ts st
  simp only [drop, bind_eq_ok, require_eq_ok]
  constructor
  · rintro ⟨_, _, ⟨w, rfl, hw⟩, target, _, htarget, h⟩
    split at h
    · obtain ⟨o, rfl, ho⟩ := target_eq_ok.1 htarget
      simp only [bind_eq_ok, name_eq_ok, pure_eq_ok] at h
      obtain ⟨table, _, ⟨t, rfl, ht⟩, rfl, rfl⟩ := h
      exact ⟨[w, o, t], rfl, .dropTable hw ho ht⟩
    · obtain ⟨o, rfl, ho⟩ := target_eq_ok.1 htarget
      simp only [bind_eq_ok, name_eq_ok, pure_eq_ok] at h
      obtain ⟨d, _, ⟨t, rfl, ht⟩, rfl, rfl⟩ := h
      exact ⟨[w, o, t], rfl, .dropDatabase hw ho ht⟩
    · exact (throw_eq_ok.1 h).elim
  · rintro ⟨_, rfl, hbody⟩
    cases hbody with
    | @dropTable w o t table hw ho ht =>
      refine ⟨(), _, ⟨w, rfl, hw⟩, some .table, _, target_eq_ok.2 ⟨o, rfl, ho⟩, ?_⟩
      simp only [bind_eq_ok, name_eq_ok, pure_eq_ok]
      exact ⟨table, _, ⟨t, rfl, ht⟩, rfl, rfl⟩
    | @dropDatabase w o t d hw ho ht =>
      refine ⟨(), _, ⟨w, rfl, hw⟩, some .database, _, target_eq_ok.2 ⟨o, rfl, ho⟩, ?_⟩
      simp only [bind_eq_ok, name_eq_ok, pure_eq_ok]
      exact ⟨d, _, ⟨t, rfl, ht⟩, rfl, rfl⟩

theorem readsBody_alter : ReadsBody .alter alter := by
  intro semicolon hsemi ts st
  simp only [alter, bind_eq_ok (x := require _), bind_eq_ok (x := name), require_eq_ok, name_eq_ok,
    accept_then_eq_ok]
  constructor
  · rintro ⟨_, _, ⟨w, rfl, hw⟩, _, _, ⟨o, rfl, ho⟩, table, _, ⟨t, rfl, ht⟩,
      ⟨a, _, rfl, ha, h⟩ | ⟨-, ⟨a, _, rfl, ha, h⟩ | ⟨-, h⟩⟩⟩
    · simp only [bind_eq_ok, column_eq_ok, pure_eq_ok] at h
      obtain ⟨column, _, ⟨c, rfl, hc⟩, rfl, rfl⟩ := h
      exact ⟨[w, o, t, a, c], rfl, .addColumn hw ho ht ha hc⟩
    · simp only [bind_eq_ok, column_eq_ok, pure_eq_ok] at h
      obtain ⟨column, _, ⟨c, rfl, hc⟩, rfl, rfl⟩ := h
      exact ⟨[w, o, t, a, c], rfl, .dropColumn hw ho ht ha hc⟩
    · exact (throw_eq_ok.1 h).elim
  · rintro ⟨_, rfl, hbody⟩
    cases hbody with
    | @addColumn w o t a c table column hw ho ht ha hc =>
      refine ⟨(), _, ⟨w, rfl, hw⟩, (), _, ⟨o, rfl, ho⟩, table, _, ⟨t, rfl, ht⟩,
        .inl ⟨a, _, rfl, ha, ?_⟩⟩
      simp only [bind_eq_ok, column_eq_ok, pure_eq_ok]
      exact ⟨column, _, ⟨c, rfl, hc⟩, rfl, rfl⟩
    | @dropColumn w o t a c table column hw ho ht ha hc =>
      have hadd : NotAhead (.keyword .add) (a :: [c, semicolon]) :=
        .cons (Token.kind_of_is ha) (by decide)
      refine ⟨(), _, ⟨w, rfl, hw⟩, (), _, ⟨o, rfl, ho⟩, table, _, ⟨t, rfl, ht⟩,
        .inr ⟨hadd, .inl ⟨a, _, rfl, ha, ?_⟩⟩⟩
      simp only [bind_eq_ok, column_eq_ok, pure_eq_ok]
      exact ⟨column, _, ⟨c, rfl, hc⟩, rfl, rfl⟩

theorem readsBody_insert : ReadsBody .insert insert := by
  intro semicolon hsemi ts st
  simp only [insert, bind_eq_ok, require_eq_ok, name_eq_ok, literals_eq_ok, pure_eq_ok,
    Token.is_symbol_iff]
  constructor
  · rintro ⟨_, _, ⟨w, rfl, hw⟩, _, _, ⟨i, rfl, hi⟩, table, _, ⟨t, rfl, ht⟩, _, _, ⟨v, rfl, hv⟩,
      _, _, ⟨left, rfl, hleft⟩, literals, _, ⟨ls, rfl, hls, -⟩, _, _, ⟨right, rfl, hright⟩,
      rfl, rfl⟩
    exact ⟨w :: i :: t :: v :: left :: (ls ++ [right]), by simp,
      .insert hw hi ht hv hleft hls hright⟩
  · rintro ⟨_, rfl, hbody⟩
    cases hbody with
    | @insert w i t v left right ls table literals hw hi ht hv hleft hls hright =>
      have hcomma : NotAhead (.symbol .comma) [right, semicolon] :=
        .cons (f := .symbol .close) hright (by decide)
      exact ⟨(), _, ⟨w, rfl, hw⟩, (), _, ⟨i, rfl, hi⟩, table, _, ⟨t, rfl, ht⟩, (), _, ⟨v, rfl, hv⟩,
        (), _, ⟨left, rfl, hleft⟩, literals, _, ⟨ls, List.append_assoc _ _ _, hls, hcomma⟩,
        (), _, ⟨right, rfl, hright⟩, rfl, rfl⟩

theorem notAhead_star_append {used rest : List Token} {columns : List String}
    (hused : Listed (Single Token.Column) used columns) :
    NotAhead (.symbol .star) (used ++ rest) ↔ ∀ s ∈ used.head?, s.kind ≠ .symbol .star := by
  have hne : used ≠ [] := by
    cases hused with
    | last h => exact single_ne_nil _ _ h
    | more => simp
  rw [NotAhead, List.head?_append_of_ne_nil _ hne]
  simp only [← Bool.not_eq_true, Token.is_symbol_iff, ne_eq]

theorem readsBody_select : ReadsBody .select select := by
  intro semicolon hsemi ts st
  simp only [select, bind_eq_ok, require_eq_ok, name_eq_ok, pure_eq_ok]
  constructor
  · rintro ⟨_, _, ⟨w, rfl, hw⟩, shown, _, hshown, _, _, ⟨f, rfl, hf⟩, table, _, ⟨t, rfl, ht⟩,
      c, _, hc, rfl, rfl⟩
    obtain ⟨cs, rfl, hcs⟩ := (whereClause_eq_ok hsemi).1 hc
    rcases accept_then_eq_ok.1 hshown with ⟨s, _, rfl, hs, hall⟩ | ⟨hstar, hcolumns⟩
    · obtain ⟨rfl, rfl⟩ := pure_eq_ok.1 hall
      exact ⟨w :: s :: f :: t :: cs, rfl, .selectAll hw (Token.is_symbol_iff.1 hs) hf ht hcs⟩
    · simp only [map_eq_ok, columns_eq_ok] at hcolumns
      obtain ⟨columns, ⟨used, rfl, hused, -⟩, rfl⟩ := hcolumns
      exact ⟨w :: (used ++ f :: t :: cs), by simp,
        .select hw hused ((notAhead_star_append hused).1 hstar) hf ht hcs⟩
  · rintro ⟨_, rfl, hbody⟩
    cases hbody with
    | @selectAll w s f t cs table c hw hs hf ht hcs =>
      have hshown : projection (s :: f :: t :: (cs ++ [semicolon])) =
          .ok (.all, f :: t :: (cs ++ [semicolon])) :=
        accept_then_eq_ok.2 (.inl ⟨s, _, rfl, Token.is_symbol_iff.2 hs, rfl⟩)
      exact ⟨(), _, ⟨w, rfl, hw⟩, .all, _, hshown, (), _, ⟨f, rfl, hf⟩, table, _, ⟨t, rfl, ht⟩,
        c, _, (whereClause_eq_ok hsemi).2 ⟨cs, rfl, hcs⟩, rfl, rfl⟩
    | @select w f t used cs table columns c hw hused hstar hf ht hcs =>
      have hcomma : NotAhead (.symbol .comma) (f :: t :: (cs ++ [semicolon])) :=
        .cons (Token.kind_of_is hf) (by decide)
      have hcolumns := columns_eq_ok.2 ⟨used, rfl, hused, hcomma⟩
      have hshown : projection (used ++ f :: t :: (cs ++ [semicolon])) =
          .ok (.columns columns, f :: t :: (cs ++ [semicolon])) :=
        accept_then_eq_ok.2 (.inr ⟨(notAhead_star_append hused).2 hstar,
          map_eq_ok.2 ⟨columns, hcolumns, rfl⟩⟩)
      refine ⟨(), used ++ f :: t :: (cs ++ [semicolon]), ⟨w, by simp, hw⟩, .columns columns, _,
        hshown, (), _, ⟨f, rfl, hf⟩, table, _, ⟨t, rfl, ht⟩, c, _, ?_, rfl, rfl⟩
      exact (whereClause_eq_ok hsemi).2 ⟨cs, rfl, hcs⟩

theorem readsBody_update : ReadsBody .update update := by
  intro semicolon hsemi ts st
  simp only [update, bind_eq_ok, require_eq_ok, name_eq_ok]
  constructor
  · rintro ⟨_, _, ⟨w, rfl, hw⟩, table, _, ⟨t, rfl, ht⟩, h⟩
    split at h
    · obtain ⟨_, _, hthrow, -⟩ := bind_eq_ok.1 h
      exact (throw_eq_ok.1 hthrow).elim
    · next hid =>
      simp only [bind_eq_ok, require_eq_ok, assignments_eq_ok, pure_eq_ok] at h
      obtain ⟨_, _, ⟨s, rfl, hs⟩, assignments, _, ⟨as, rfl, has, -⟩, c, _, hc, rfl, rfl⟩ := h
      obtain ⟨cs, rfl, hcs⟩ := (whereClause_eq_ok hsemi).1 hc
      exact ⟨w :: t :: s :: (as ++ cs), by simp,
        .update hw ht (by simpa using hid) hs has hcs⟩
  · rintro ⟨_, rfl, hbody⟩
    cases hbody with
    | @update w t s as cs table assignments c hw ht hid hs has hcs =>
      have hcomma : NotAhead (.symbol .comma) (cs ++ [semicolon]) := by
        cases hcs with
        | none => exact .cons (f := .symbol .semicolon) hsemi (by decide)
        | some h => exact .cons (Token.kind_of_is h) (by decide)
      refine ⟨(), _, ⟨w, rfl, hw⟩, table, _, ⟨t, rfl, ht⟩, ?_⟩
      rw [if_neg (by simpa using hid)]
      simp only [bind_eq_ok, require_eq_ok, assignments_eq_ok, pure_eq_ok]
      exact ⟨(), _, ⟨s, rfl, hs⟩, assignments, _, ⟨as, List.append_assoc _ _ _, has, hcomma⟩, c, _,
        (whereClause_eq_ok hsemi).2 ⟨cs, rfl, hcs⟩, rfl, rfl⟩

theorem readsBody_delete : ReadsBody .delete delete := by
  intro semicolon hsemi ts st
  simp only [delete, bind_eq_ok, require_eq_ok, name_eq_ok, pure_eq_ok]
  constructor
  · rintro ⟨_, _, ⟨w, rfl, hw⟩, _, _, ⟨f, rfl, hf⟩, table, _, ⟨t, rfl, ht⟩, c, _, hc, rfl, rfl⟩
    obtain ⟨cs, rfl, hcs⟩ := (whereClause_eq_ok hsemi).1 hc
    exact ⟨w :: f :: t :: cs, rfl, .delete hw hf ht hcs⟩
  · rintro ⟨_, rfl, hbody⟩
    cases hbody with
    | @delete w f t cs table c hw hf ht hcs =>
      exact ⟨(), _, ⟨w, rfl, hw⟩, (), _, ⟨f, rfl, hf⟩, table, _, ⟨t, rfl, ht⟩, c, _,
        (whereClause_eq_ok hsemi).2 ⟨cs, rfl, hcs⟩, rfl, rfl⟩

theorem readsBody_join : ReadsBody .join join := by
  intro semicolon hsemi ts st
  simp only [join, bind_eq_ok, require_eq_ok, name_eq_ok, column_eq_ok, pure_eq_ok,
    Token.is_connective_iff]
  constructor
  · rintro ⟨_, _, ⟨w, rfl, hw⟩, left, _, ⟨l, rfl, hl⟩, _, _, ⟨a, rfl, ha⟩, right, _, ⟨r, rfl, hr⟩,
      _, _, ⟨o, rfl, ho⟩, leftColumn, _, ⟨x, rfl, hx⟩, _, _, ⟨b, rfl, hb⟩, rightColumn, _,
      ⟨y, rfl, hy⟩, rfl, rfl⟩
    exact ⟨[w, l, a, r, o, x, b, y], rfl, .join hw hl ha hr ho hx hb hy⟩
  · rintro ⟨_, rfl, hbody⟩
    cases hbody with
    | @join w l a r o x b y left right leftColumn rightColumn hw hl ha hr ho hx hb hy =>
      exact ⟨(), _, ⟨w, rfl, hw⟩, left, _, ⟨l, rfl, hl⟩, (), _, ⟨a, rfl, ha⟩, right, _,
        ⟨r, rfl, hr⟩, (), _, ⟨o, rfl, ho⟩, leftColumn, _, ⟨x, rfl, hx⟩, (), _, ⟨b, rfl, hb⟩,
        rightColumn, _, ⟨y, rfl, hy⟩, rfl, rfl⟩

theorem readsBody_statementOf (first : Keyword) : ReadsBody first (statementOf first) := by
  cases first with
  | use => exact readsBody_use
  | create => exact readsBody_create
  | drop => exact readsBody_drop
  | alter => exact readsBody_alter
  | insert => exact readsBody_insert
  | select => exact readsBody_select
  | update => exact readsBody_update
  | delete => exact readsBody_delete
  | join => exact readsBody_join
  | _ =>
    refine fun semicolon _ ts st => ⟨fun h => (throw_eq_ok.1 h).elim, ?_⟩
    rintro ⟨_, -, hbody⟩
    cases hbody

/-- The first token of a statement is of the kind of its reserved word. -/
theorem kind_head_of_body {first : Keyword} {body : List Token} {st : Statement}
    (h : Body Token.Spells Token.Classified first body st) :
    body.head?.map Token.kind = some (.keyword first) := by
  have hword {w : Token} {rest : List Token} (hw : Token.Spells first w) :
      (w :: rest).head?.map Token.kind = some (.keyword first) := by
    rw [List.head?_cons, Option.map_some, Token.kind_of_is hw]
    rfl
  cases h <;> exact hword ‹_›

theorem statement_eq_ok {ts : List Token} {semicolon : Token} {st : Statement}
    (hsemi : semicolon.kind = .symbol .semicolon) :
    statement ts = .ok (st, [semicolon]) ↔
      ∃ first body, ts = body ++ [semicolon] ∧
        Body Token.Spells Token.Classified first body st := by
  simp only [statement, bind_eq_ok, get_eq_ok]
  constructor
  · rintro ⟨_, _, ⟨rfl, rfl⟩, h⟩
    cases hk : ts.head?.map Token.kind with
    | none =>
      rw [hk] at h
      exact (throw_eq_ok.1 h).elim
    | some kind =>
      rw [hk] at h
      cases kind with
      | keyword first => exact ⟨first, (readsBody_statementOf first semicolon hsemi ts st).1 h⟩
      | _ => exact (throw_eq_ok.1 h).elim
  · rintro ⟨first, body, rfl, hbody⟩
    have hne : body ≠ [] := by
      rintro rfl
      cases hbody
    refine ⟨_, _, ⟨rfl, rfl⟩, ?_⟩
    rw [List.head?_append_of_ne_nil _ hne, kind_head_of_body hbody]
    exact (readsBody_statementOf first semicolon hsemi _ st).2 ⟨body, rfl, hbody⟩

theorem finish_eq_ok {ts rest : List Token} {u : Unit} :
    finish ts = .ok (u, rest) ↔ ∃ t, ts = [t] ∧ t.kind = .symbol .semicolon ∧ rest = [] := by
  simp only [finish, bind_eq_ok, accept_eq_ok, ← Token.is_symbol_iff]
  constructor
  · rintro ⟨_, mid, ⟨rfl, t, rfl, ht⟩ | ⟨rfl, -, -⟩, h⟩
    · simp only [Bool.not_true, Bool.false_eq_true, if_false, bind_eq_ok, get_eq_ok] at h
      obtain ⟨_, _, ⟨rfl, rfl⟩, h⟩ := h
      split at h
      · exact ⟨t, rfl, ht, (pure_eq_ok.1 h).2.symm⟩
      · exact (throw_eq_ok.1 h).elim
    · obtain ⟨_, _, hthrow, -⟩ := bind_eq_ok.1 h
      exact (throw_eq_ok.1 hthrow).elim
  · rintro ⟨t, rfl, ht, rfl⟩
    exact ⟨true, [], .inl ⟨rfl, t, rfl, ht⟩, rfl⟩

end Statements

end TokenReader

namespace Statement
open Grammar TokenReader

theorem ofTokens_eq_ok {ts : List Token} {st : Statement} :
    ofTokens ts = .ok st ↔ ∃ semicolon, semicolon.kind = .symbol .semicolon ∧
      statement ts = .ok (st, [semicolon]) := by
  let reader : TokenReader Statement := do
    let st ← statement
    finish
    pure st
  have hread : ofTokens ts = .ok st ↔ ∃ rest, reader ts = .ok (st, rest) := by
    change (reader ts).map Prod.fst = _ ↔ _
    cases reader ts <;> simp [Except.map, Prod.ext_iff]
  simp only [hread, reader, bind_eq_ok, finish_eq_ok, pure_eq_ok]
  constructor
  · rintro ⟨_, st', _, hst, _, _, ⟨semicolon, rfl, hsemi, rfl⟩, rfl, rfl⟩
    exact ⟨semicolon, hsemi, hst⟩
  · rintro ⟨semicolon, hsemi, hst⟩
    exact ⟨[], st, [semicolon], hst, (), [], ⟨semicolon, rfl, hsemi, rfl⟩, rfl, rfl⟩

theorem derives_of_ofTokens {ts : List Token} {st : Statement} (h : ofTokens ts = .ok st) :
    Derives Token.Spells Token.Classified ts st := by
  obtain ⟨semicolon, hsemi, hst⟩ := ofTokens_eq_ok.1 h
  obtain ⟨first, body, hts, hbody⟩ := (statement_eq_ok hsemi).1 hst
  exact ⟨first, body, semicolon, hts, hsemi, hbody⟩

theorem ofTokens_of_derives {ts : List Token} {st : Statement}
    (h : Derives Token.Spells Token.Classified ts st) : ofTokens ts = .ok st := by
  obtain ⟨first, body, semicolon, hts, hsemi, hbody⟩ := h
  exact ofTokens_eq_ok.2 ⟨semicolon, hsemi, (statement_eq_ok hsemi).2 ⟨first, body, hts, hbody⟩⟩

/-- Tokens are read as a statement exactly if they write it, where reserved words are told by their
spelling, and the word after `DROP` by its kind. -/
theorem ofTokens_eq_ok_iff_derives (ts : List Token) (st : Statement) :
    ofTokens ts = .ok st ↔ Derives Token.Spells Token.Classified ts st :=
  ⟨derives_of_ofTokens, ofTokens_of_derives⟩

/-- No one way to tell reserved words fits every statement: `DROP databaſe x;` is read, and
`CREATE databaſe x;` is not. -/
theorem not_derives_uniformly :
    ¬∃ word : Keyword → Token → Prop, ∀ ts st,
      ofTokens ts = .ok st ↔ Derives word word ts st := by
  rintro ⟨word, h⟩
  -- `CREATE DATABASE x;` and `DROP databaſe x;` are read, so `word` tells `CREATE` and `databaſe`.
  let create : Token := ⟨"CREATE", .keyword .create, by decide⟩
  let drop : Token := ⟨"DROP", .keyword .drop, by decide⟩
  let database : Token := ⟨"DATABASE", .keyword .database, by decide⟩
  let longDatabase : Token := ⟨"databaſe", .keyword .database, by decide⟩
  let x : Token := ⟨"x", .identifier, by decide⟩
  let semicolon : Token := ⟨";", .symbol .semicolon, by decide⟩
  have hcreate : word .create create := by
    have hread : ofTokens [create, database, x, semicolon] = .ok (.createDatabase "x") := by decide
    obtain ⟨first, body, semicolon', hts, -, hbody⟩ := (h _ _).1 hread
    cases hbody with
    | createDatabase hw => exact (List.cons.inj hts).1 ▸ hw
  have hlong : word .database longDatabase := by
    have hread : ofTokens [drop, longDatabase, x, semicolon] = .ok (.dropDatabase "x") := by decide
    obtain ⟨first, body, semicolon', hts, -, hbody⟩ := (h _ _).1 hread
    cases hbody with
    | dropDatabase _ ho => exact (List.cons.inj (List.cons.inj hts).2).1 ▸ ho
  have hx : x.Name "x" := ⟨"x", ⟨.inl rfl, by decide⟩, by decide⟩
  have hderives : Derives word word [create, longDatabase, x, semicolon] (.createDatabase "x") :=
    ⟨.create, [create, longDatabase, x], semicolon, rfl, rfl, .createDatabase hcreate hlong hx⟩
  have hrefused : ofTokens [create, longDatabase, x, semicolon] =
      .error (.parse .noCreateTarget) := by decide
  rw [(h _ _).2 hderives] at hrefused
  cases hrefused

end Statement

end Tabular
