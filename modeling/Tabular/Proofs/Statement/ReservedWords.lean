import Mathlib.Data.List.Forall2
import Tabular.Proofs.Statement.Accepted
import Tabular.Proofs.Statement.Writing

/-! Tokens of reserved words: which of them are spelled as their words, and which may stand for each
other in statements. -/
namespace Tabular

theorem forall₂_append_left {α β : Type} {R : α → β → Prop} {as bs : List α} {us : List β}
    (h : List.Forall₂ R (as ++ bs) us) :
    ∃ cs ds, us = cs ++ ds ∧ List.Forall₂ R as cs ∧ List.Forall₂ R bs ds := by
  induction as generalizing us with
  | nil => exact ⟨[], us, rfl, .nil, h⟩
  | cons a as ih =>
    obtain ⟨u, us, hau, hrest, rfl⟩ := List.forall₂_cons_left_iff.1 h
    obtain ⟨cs, ds, rfl, hcs, hds⟩ := ih hrest
    exact ⟨u :: cs, ds, rfl, .cons hau hcs, hds⟩

section Spelling
variable {s : String} {k : Keyword}

theorem eqCaseless_upper (h : ∀ c ∈ s.toList, c.toNat < 128) :
    Text.eqCaseless s (Text.upper s) = true := by
  have hchar (c : Char) (hc : c ∈ s.toList) :
      (Text.upperChar c).map Char.toLower = [c.toLower] :=
    forall_ascii (P := fun c => (Text.upperChar c).map Char.toLower = [c.toLower])
      (by decide +kernel) (h c hc)
  rw [Text.eqCaseless, beq_iff_eq, Text.upper, String.toList_ofList, List.map_flatMap,
    List.flatMap_def, List.map_congr_left hchar, ← List.flatMap_def, ← List.map_eq_flatMap]

/-- A text that is taken for a reserved word in upper case is spelled as it, up to the case of ASCII
letters, exactly if it is in ASCII. -/
theorem Keyword.eqCaseless_text_iff (h : Keyword.ofText? s = some k) :
    Text.eqCaseless s k.text = true ↔ ∀ c ∈ s.toList, c.toNat < 128 := by
  constructor
  · intro hs c hc
    have hword : isIdentifier k.text = true := by cases k <;> decide
    rw [← isIdentifier_congr hs] at hword
    exact toNat_lt_of_isNameChar ((isIdentifier_iff.1 hword).2 c hc)
  · intro hs
    rw [Keyword.text_eq_of_ofText? h]
    exact eqCaseless_upper hs

end Spelling

namespace Token
variable {t u : Token} {k : Keyword}

theorem spells_iff (h : t.Classified k) : t.Spells k ↔ Text.eqCaseless t.text k.text = true := by
  have hkind : t.kind = .keyword k := h
  simp [Spells, is, hkind, Kind.alike, Fixed.kind, Fixed.text]

theorem classified_of_spells (h : t.Spells k) : t.Classified k := kind_of_is h

theorem Classified.unique {l : Keyword} (h : t.Classified k) (hl : t.Classified l) : k = l :=
  Kind.keyword.inj (h.symm.trans hl)

def Unreserved (t : Token) : Prop := ∀ k, ¬t.Classified k

theorem unreserved_of_mem {kinds : List Kind} (h : t.kind ∈ kinds)
    (hkinds : ∀ k, Kind.keyword k ∉ kinds) : t.Unreserved := by
  intro k hk
  rw [show t.kind = .keyword k from hk] at h
  exact hkinds k h

theorem unreserved_symbol {m : Symbol} (h : t.kind = .symbol m) : t.Unreserved :=
  unreserved_of_mem (List.mem_singleton.2 h) (by simp)

theorem unreserved_logical {c : Connective} (h : t.kind = .logical c) : t.Unreserved :=
  unreserved_of_mem (List.mem_singleton.2 h) (by simp)

theorem Column.unreserved {c : String} (h : t.Column c) : t.Unreserved := by
  have hkind : t.kind ∈ [Kind.identifier, .symbol .star] := by simpa using h.1
  exact unreserved_of_mem hkind (by simp)

theorem Name.unreserved {n : String} (h : t.Name n) : t.Unreserved := by
  obtain ⟨c, hc, -⟩ := h
  exact hc.unreserved

theorem Literal.unreserved {s : String} (h : t.Literal s) : t.Unreserved :=
  unreserved_of_mem h.1 (by simp)

/-- A token is spelled as every reserved word that it is classified as. -/
def Spelled (t : Token) : Prop := ∀ k, t.Classified k → t.Spells k

theorem Unreserved.spelled (h : t.Unreserved) : t.Spelled := fun k hk => (h k hk).elim

theorem spelled_of_spells (h : t.Spells k) : t.Spelled := by
  intro l hl
  rwa [← (classified_of_spells h).unique hl]

/-- A token is the same as another, or is of the same reserved word and spelled as it if the other
is. -/
def Respells (t u : Token) : Prop :=
  t = u ∨ ∃ k, t.Classified k ∧ u.Classified k ∧ (t.Spells k → u.Spells k)

namespace Respells

theorem eq (h : t.Respells u) (ht : t.Unreserved) : t = u := by
  rcases h with he | ⟨k, hk, -⟩
  · exact he
  · exact (ht k hk).elim

theorem classified (h : t.Respells u) (ht : t.Classified k) : u.Classified k := by
  rcases h with rfl | ⟨l, hl, hu, -⟩
  · exact ht
  · rwa [ht.unique hl]

theorem spells (h : t.Respells u) (ht : t.Spells k) : u.Spells k := by
  rcases h with rfl | ⟨l, hl, -, hu⟩
  · exact ht
  · obtain rfl := (classified_of_spells ht).unique hl
    exact hu ht

end Respells

theorem eq_of_forall₂_respells {ts us : List Token} (h : List.Forall₂ Respells ts us)
    (hts : ∀ t ∈ ts, t.Unreserved) : ts = us := by
  induction h with
  | nil => rfl
  | cons htu _ ih =>
    obtain ⟨ht, hrest⟩ := List.forall_mem_cons.1 hts
    rw [htu.eq ht, ih hrest]

end Token

section Conditions

theorem TokenOf.unreserved {kinds : List Kind} (t : TokenOf kinds)
    (h : ∀ k, Kind.keyword k ∉ kinds) : t.1.Unreserved :=
  Token.unreserved_of_mem t.2 h

mutual

theorem Disjunction.unreserved : ∀ d : Disjunction, ∀ t ∈ d.tokens, t.Unreserved
  | .single c => c.unreserved
  | .or before word last => List.forall_mem_append.2 ⟨before.unreserved,
      List.forall_mem_cons.2 ⟨word.unreserved (by simp), last.unreserved⟩⟩

theorem Conjunction.unreserved : ∀ c : Conjunction, ∀ t ∈ c.tokens, t.Unreserved
  | .single o => o.unreserved
  | .and before word last => List.forall_mem_append.2 ⟨before.unreserved,
      List.forall_mem_cons.2 ⟨word.unreserved (by simp), last.unreserved⟩⟩

theorem Operand.unreserved : ∀ o : Operand, ∀ t ∈ o.tokens, t.Unreserved
  | .group left inside right => List.forall_mem_cons.2 ⟨left.unreserved (by simp),
      List.forall_mem_append.2 ⟨inside.unreserved,
        List.forall_mem_singleton.2 (right.unreserved (by simp))⟩⟩
  | .comparison column op sign value => List.forall_mem_cons.2 ⟨column.unreserved (by simp),
      List.forall_mem_cons.2 ⟨sign.unreserved (by simp),
        List.forall_mem_singleton.2 (value.unreserved (by simp))⟩⟩

end

theorem Condition.unreserved_of_ofTokens {ts : List Token} {c : Condition} (h : ofTokens ts = .ok c) :
    ∀ t ∈ ts, t.Unreserved := by
  obtain ⟨d, rfl, -⟩ := ofTokens_eq_ok.1 h
  exact d.unreserved

end Conditions

namespace Grammar
open Token

section Items
variable {ts : List Token}

theorem Listed.unreserved {α : Type} {Item : List Token → α → Prop} {as : List α}
    (hitem : ∀ ts a, Item ts a → ∀ t ∈ ts, t.Unreserved) (h : Listed Item ts as) :
    ∀ t ∈ ts, t.Unreserved := by
  induction h with
  | last item => exact hitem _ _ item
  | more item comma_kind _ ih =>
    exact List.forall_mem_append.2 ⟨hitem _ _ item,
      List.forall_mem_cons.2 ⟨unreserved_symbol comma_kind, ih⟩⟩

theorem unreserved_columns {columns : List String} (h : Listed (Single Column) ts columns) :
    ∀ t ∈ ts, t.Unreserved := by
  refine h.unreserved ?_
  rintro _ c ⟨t, rfl, ht⟩
  exact List.forall_mem_singleton.2 ht.unreserved

theorem unreserved_literals {literals : List String} (h : Listed (Single Literal) ts literals) :
    ∀ t ∈ ts, t.Unreserved := by
  refine h.unreserved ?_
  rintro _ s ⟨t, rfl, ht⟩
  exact List.forall_mem_singleton.2 ht.unreserved

theorem unreserved_assignments {assignments : List (String × String)}
    (h : Listed Assignment ts assignments) : ∀ t ∈ ts, t.Unreserved := by
  refine h.unreserved ?_
  rintro _ a ⟨c, equals, v, rfl, hc, hequals, hv⟩
  exact List.forall_mem_cons.2 ⟨hc.unreserved, List.forall_mem_cons.2
    ⟨unreserved_symbol hequals, List.forall_mem_singleton.2 hv.unreserved⟩⟩

end Items

section Respelled
variable {first : Keyword} {ts us : List Token} {c : Option Condition} {st : Statement}

theorem Where.spelled (h : Where Spells ts c) : ∀ t ∈ ts, t.Spelled := by
  cases h with
  | none => exact fun t ht => (List.not_mem_nil ht).elim
  | some where_word _ _ condition =>
    have hcondition := Condition.unreserved_of_ofTokens condition
    exact List.forall_mem_cons.2 ⟨spelled_of_spells where_word, fun t ht => (hcondition t ht).spelled⟩

/-- In every statement but one that drops a table or database, all reserved words are spelled as
themselves. -/
theorem Body.spelled (h : Body Spells Classified first ts st) (hdrop : first ≠ .drop) :
    ∀ t ∈ ts, t.Spelled := by
  have hall {us : List Token} (hus : ∀ t ∈ us, t.Unreserved) : ∀ t ∈ us, t.Spelled :=
    fun t ht => (hus t ht).spelled
  cases h <;>
    simp only [List.forall_mem_cons, List.forall_mem_append, List.not_mem_nil, false_implies,
      implies_true, and_true]
  case use w_word d_name => exact ⟨spelled_of_spells w_word, d_name.unreserved.spelled⟩
  case createDatabase w_word o_word d_name =>
    exact ⟨spelled_of_spells w_word, spelled_of_spells o_word, d_name.unreserved.spelled⟩
  case createTable w_word o_word t_name =>
    exact ⟨spelled_of_spells w_word, spelled_of_spells o_word, t_name.unreserved.spelled⟩
  case createColumns w_word o_word t_name left_kind cs_columns _ right_kind =>
    exact ⟨spelled_of_spells w_word, spelled_of_spells o_word, t_name.unreserved.spelled,
      (unreserved_symbol left_kind).spelled, hall (unreserved_columns cs_columns),
      (unreserved_symbol right_kind).spelled⟩
  case dropTable => exact (hdrop rfl).elim
  case dropDatabase => exact (hdrop rfl).elim
  case addColumn w_word o_word t_name a_word c_column =>
    exact ⟨spelled_of_spells w_word, spelled_of_spells o_word, t_name.unreserved.spelled,
      spelled_of_spells a_word, c_column.unreserved.spelled⟩
  case dropColumn w_word o_word t_name a_word c_column =>
    exact ⟨spelled_of_spells w_word, spelled_of_spells o_word, t_name.unreserved.spelled,
      spelled_of_spells a_word, c_column.unreserved.spelled⟩
  case insert w_word i_word t_name v_word left_kind ls_literals right_kind =>
    exact ⟨spelled_of_spells w_word, spelled_of_spells i_word, t_name.unreserved.spelled,
      spelled_of_spells v_word, (unreserved_symbol left_kind).spelled,
      hall (unreserved_literals ls_literals), (unreserved_symbol right_kind).spelled⟩
  case selectAll w_word s_kind f_word t_name cs_where =>
    exact ⟨spelled_of_spells w_word, (unreserved_symbol s_kind).spelled, spelled_of_spells f_word,
      t_name.unreserved.spelled, cs_where.spelled⟩
  case select w_word shown_columns _ f_word t_name cs_where =>
    exact ⟨spelled_of_spells w_word, hall (unreserved_columns shown_columns),
      spelled_of_spells f_word, t_name.unreserved.spelled, cs_where.spelled⟩
  case update w_word t_name _ s_word as_assignments cs_where =>
    exact ⟨spelled_of_spells w_word, t_name.unreserved.spelled, spelled_of_spells s_word,
      hall (unreserved_assignments as_assignments), cs_where.spelled⟩
  case delete w_word f_word t_name cs_where =>
    exact ⟨spelled_of_spells w_word, spelled_of_spells f_word, t_name.unreserved.spelled,
      cs_where.spelled⟩
  case join w_word l_name a_kind r_name o_word x_column b_kind y_column =>
    exact ⟨spelled_of_spells w_word, l_name.unreserved.spelled, (unreserved_logical a_kind).spelled,
      r_name.unreserved.spelled, spelled_of_spells o_word, x_column.unreserved.spelled,
      (unreserved_logical b_kind).spelled, y_column.unreserved.spelled⟩

theorem Where.respell (h : Where Spells ts c) (hus : List.Forall₂ Respells ts us) :
    Where Spells us c := by
  cases h with
  | none =>
    cases hus
    exact .none
  | some where_word nonempty no_semicolon condition =>
    obtain ⟨u, us, hu, hrest, rfl⟩ := List.forall₂_cons_left_iff.1 hus
    obtain rfl := eq_of_forall₂_respells hrest (Condition.unreserved_of_ofTokens condition)
    exact .some (hu.spells where_word) nonempty no_semicolon condition

theorem Body.respell (h : Body Spells Classified first ts st) (hus : List.Forall₂ Respells ts us) :
    Body Spells Classified first us st := by
  -- In each form, names, columns, literals, marks and conditions are of no reserved word, so they are
  -- the same tokens again, and only the words may be others.
  cases h with
  | use w_word d_name =>
    obtain _ | ⟨hw, _ | ⟨hd, _ | _⟩⟩ := hus
    obtain rfl := hd.eq d_name.unreserved
    exact .use (hw.spells w_word) d_name
  | createDatabase w_word o_word d_name =>
    obtain _ | ⟨hw, _ | ⟨ho, _ | ⟨hd, _ | _⟩⟩⟩ := hus
    obtain rfl := hd.eq d_name.unreserved
    exact .createDatabase (hw.spells w_word) (ho.spells o_word) d_name
  | createTable w_word o_word t_name =>
    obtain _ | ⟨hw, _ | ⟨ho, _ | ⟨ht, _ | _⟩⟩⟩ := hus
    obtain rfl := ht.eq t_name.unreserved
    exact .createTable (hw.spells w_word) (ho.spells o_word) t_name
  | createColumns w_word o_word t_name left_kind cs_columns distinct right_kind =>
    obtain _ | ⟨hw, _ | ⟨ho, _ | ⟨ht, _ | ⟨hleft, hlist⟩⟩⟩⟩ := hus
    obtain ⟨cs, _, rfl, hcs, _ | ⟨hright, _ | _⟩⟩ := forall₂_append_left hlist
    obtain rfl := ht.eq t_name.unreserved
    obtain rfl := hleft.eq (unreserved_symbol left_kind)
    obtain rfl := eq_of_forall₂_respells hcs (unreserved_columns cs_columns)
    obtain rfl := hright.eq (unreserved_symbol right_kind)
    exact .createColumns (hw.spells w_word) (ho.spells o_word) t_name left_kind cs_columns distinct
      right_kind
  | dropTable w_word o_word t_name =>
    obtain _ | ⟨hw, _ | ⟨ho, _ | ⟨ht, _ | _⟩⟩⟩ := hus
    obtain rfl := ht.eq t_name.unreserved
    exact .dropTable (hw.spells w_word) (ho.classified o_word) t_name
  | dropDatabase w_word o_word d_name =>
    obtain _ | ⟨hw, _ | ⟨ho, _ | ⟨hd, _ | _⟩⟩⟩ := hus
    obtain rfl := hd.eq d_name.unreserved
    exact .dropDatabase (hw.spells w_word) (ho.classified o_word) d_name
  | addColumn w_word o_word t_name a_word c_column =>
    obtain _ | ⟨hw, _ | ⟨ho, _ | ⟨ht, _ | ⟨ha, _ | ⟨hc, _ | _⟩⟩⟩⟩⟩ := hus
    obtain rfl := ht.eq t_name.unreserved
    obtain rfl := hc.eq c_column.unreserved
    exact .addColumn (hw.spells w_word) (ho.spells o_word) t_name (ha.spells a_word) c_column
  | dropColumn w_word o_word t_name a_word c_column =>
    obtain _ | ⟨hw, _ | ⟨ho, _ | ⟨ht, _ | ⟨ha, _ | ⟨hc, _ | _⟩⟩⟩⟩⟩ := hus
    obtain rfl := ht.eq t_name.unreserved
    obtain rfl := hc.eq c_column.unreserved
    exact .dropColumn (hw.spells w_word) (ho.spells o_word) t_name (ha.spells a_word) c_column
  | insert w_word i_word t_name v_word left_kind ls_literals right_kind =>
    obtain _ | ⟨hw, _ | ⟨hi, _ | ⟨ht, _ | ⟨hv, _ | ⟨hleft, hlist⟩⟩⟩⟩⟩ := hus
    obtain ⟨ls, _, rfl, hls, _ | ⟨hright, _ | _⟩⟩ := forall₂_append_left hlist
    obtain rfl := ht.eq t_name.unreserved
    obtain rfl := hleft.eq (unreserved_symbol left_kind)
    obtain rfl := eq_of_forall₂_respells hls (unreserved_literals ls_literals)
    obtain rfl := hright.eq (unreserved_symbol right_kind)
    exact .insert (hw.spells w_word) (hi.spells i_word) t_name (hv.spells v_word) left_kind
      ls_literals right_kind
  | selectAll w_word s_kind f_word t_name cs_where =>
    obtain _ | ⟨hw, _ | ⟨hs, _ | ⟨hf, _ | ⟨ht, hcs⟩⟩⟩⟩ := hus
    obtain rfl := hs.eq (unreserved_symbol s_kind)
    obtain rfl := ht.eq t_name.unreserved
    exact .selectAll (hw.spells w_word) s_kind (hf.spells f_word) t_name (cs_where.respell hcs)
  | select w_word shown_columns no_star f_word t_name cs_where =>
    obtain _ | ⟨hw, hlist⟩ := hus
    obtain ⟨shown, _, rfl, hshown, _ | ⟨hf, _ | ⟨ht, hcs⟩⟩⟩ := forall₂_append_left hlist
    obtain rfl := eq_of_forall₂_respells hshown (unreserved_columns shown_columns)
    obtain rfl := ht.eq t_name.unreserved
    exact .select (hw.spells w_word) shown_columns no_star (hf.spells f_word) t_name
      (cs_where.respell hcs)
  | update w_word t_name not_id s_word as_assignments cs_where =>
    obtain _ | ⟨hw, _ | ⟨ht, _ | ⟨hs, hlist⟩⟩⟩ := hus
    obtain ⟨as, cs, rfl, has, hcs⟩ := forall₂_append_left hlist
    obtain rfl := ht.eq t_name.unreserved
    obtain rfl := eq_of_forall₂_respells has (unreserved_assignments as_assignments)
    exact .update (hw.spells w_word) t_name not_id (hs.spells s_word) as_assignments
      (cs_where.respell hcs)
  | delete w_word f_word t_name cs_where =>
    obtain _ | ⟨hw, _ | ⟨hf, _ | ⟨ht, hcs⟩⟩⟩ := hus
    obtain rfl := ht.eq t_name.unreserved
    exact .delete (hw.spells w_word) (hf.spells f_word) t_name (cs_where.respell hcs)
  | join w_word l_name a_kind r_name o_word x_column b_kind y_column =>
    obtain _ | ⟨hw, _ | ⟨hl, _ | ⟨ha, _ | ⟨hr, _ | ⟨ho, hrest⟩⟩⟩⟩⟩ := hus
    obtain _ | ⟨hx, _ | ⟨hb, _ | ⟨hy, _ | _⟩⟩⟩ := hrest
    obtain rfl := hl.eq l_name.unreserved
    obtain rfl := ha.eq (unreserved_logical a_kind)
    obtain rfl := hr.eq r_name.unreserved
    obtain rfl := hx.eq x_column.unreserved
    obtain rfl := hb.eq (unreserved_logical b_kind)
    obtain rfl := hy.eq y_column.unreserved
    exact .join (hw.spells w_word) l_name a_kind r_name (ho.spells o_word) x_column b_kind y_column

/-- A statement that drops something is three tokens, and the first and the last have their places by
their spelling. -/
theorem Body.eq_of_drop (h : Body Spells Classified .drop ts st) :
    ∃ w o n, ts = [w, o, n] ∧ w.Spells .drop ∧ n.Unreserved := by
  cases h with
  | @dropTable w o t _ w_word _ t_name => exact ⟨w, o, t, rfl, w_word, t_name.unreserved⟩
  | @dropDatabase w o d _ w_word _ d_name => exact ⟨w, o, d, rfl, w_word, d_name.unreserved⟩

/-- In a statement that drops something, the second token may be any that is classified as it is. -/
theorem Body.reclassify {w o o' : Token} {k : Keyword} (ho : o.Classified k) (ho' : o'.Classified k)
    (h : Body Spells Classified .drop (w :: o :: ts) st) :
    Body Spells Classified .drop (w :: o' :: ts) st := by
  cases h with
  | dropTable w_word o_word t_name =>
    obtain rfl := ho.unique o_word
    exact .dropTable w_word ho' t_name
  | dropDatabase w_word o_word d_name =>
    obtain rfl := ho.unique o_word
    exact .dropDatabase w_word ho' d_name

end Respelled

end Grammar

namespace Statement
open Grammar Token
variable {before after ts us : List Token} {t : Token} {k : Keyword} {st : Statement}

theorem ofTokens_respell (h : ofTokens ts = .ok st) (hus : List.Forall₂ Respells ts us) :
    ofTokens us = .ok st := by
  obtain ⟨first, body, semicolon, rfl, hsemi, hbody⟩ := derives_of_ofTokens h
  obtain ⟨body', _, rfl, hbody', _ | ⟨hsemicolon, _ | _⟩⟩ := forall₂_append_left hus
  obtain rfl := hsemicolon.eq (unreserved_symbol hsemi)
  exact ofTokens_of_derives ⟨first, body', semicolon, rfl, hsemi, hbody.respell hbody'⟩

theorem ofTokens_respell_at {u : Token} (h : ofTokens (before ++ t :: after) = .ok st)
    (htu : t.Respells u) : ofTokens (before ++ u :: after) = .ok st := by
  have hsame (ts : List Token) : List.Forall₂ Respells ts ts :=
    List.forall₂_same.2 fun t _ => .inl rfl
  exact ofTokens_respell h (List.rel_append (hsame before) (.cons htu (hsame after)))

/-- A token of a statement that is classified as a reserved word is spelled as it, or is the second
and `DROP` the first. -/
theorem spells_or_follows_drop (h : ofTokens (before ++ t :: after) = .ok st) (ht : t.Classified k) :
    t.Spells k ∨ ∃ d, before = [d] ∧ d.Classified .drop := by
  obtain ⟨first, body, semicolon, hts, hsemi, hbody⟩ := derives_of_ofTokens h
  have hend := unreserved_symbol hsemi
  -- Only `DROP` reads a word by its kind, and that is its second token.
  by_cases hfirst : first = .drop
  · obtain rfl := hfirst
    obtain ⟨w, o, n, rfl, hw, hn⟩ := hbody.eq_of_drop
    rcases before with _ | ⟨d, _ | ⟨d', before⟩⟩
    · obtain rfl := (List.cons.inj hts).1
      exact .inl (spelled_of_spells hw k ht)
    · obtain rfl := (List.cons.inj hts).1
      exact .inr ⟨d, rfl, classified_of_spells hw⟩
    · have hrest : before ++ t :: after = [n, semicolon] :=
        (List.cons.inj (List.cons.inj hts).2).2
      have hmem : t ∈ [n, semicolon] := hrest ▸ List.mem_append_right _ List.mem_cons_self
      have hall : ∀ t ∈ [n, semicolon], t.Unreserved :=
        List.forall_mem_cons.2 ⟨hn, List.forall_mem_singleton.2 hend⟩
      exact (hall t hmem k ht).elim
  · have hmem : t ∈ body ++ [semicolon] := hts ▸ List.mem_append_right _ List.mem_cons_self
    have hall : ∀ t ∈ body ++ [semicolon], t.Spelled :=
      List.forall_mem_append.2 ⟨hbody.spelled hfirst, List.forall_mem_singleton.2 hend.spelled⟩
    exact .inl (hall t hmem k ht)

/-- After a `DROP`, a token may stand for every other that is classified as the same reserved word. -/
theorem ofTokens_reclassify {d o o' : Token} (hd : d.Classified .drop) (ho : o.Classified k)
    (ho' : o'.Classified k) (h : ofTokens (d :: o :: after) = .ok st) :
    ofTokens (d :: o' :: after) = .ok st := by
  obtain ⟨first, body, semicolon, hts, hsemi, hbody⟩ := derives_of_ofTokens h
  obtain rfl : first = .drop := by
    cases body with
    | nil => cases hbody
    | cons w rest =>
      obtain rfl := (List.cons.inj hts).1
      exact Token.Classified.unique (Option.some.inj (TokenReader.kind_head_of_body hbody)) hd
  obtain ⟨w, o, n, rfl, -⟩ := hbody.eq_of_drop
  obtain ⟨rfl, hrest⟩ := List.cons.inj hts
  obtain ⟨rfl, rfl⟩ := List.cons.inj hrest
  exact ofTokens_of_derives ⟨.drop, [d, o', n], semicolon, rfl, hsemi, hbody.reclassify ho ho'⟩

/-- A token that is classified as a reserved word is spelled as it exactly if it is in ASCII. Tokens
with it are read as a statement exactly if they are so with the spelling of the word in its place, and
it is in ASCII or follows a `DROP` that is the first. -/
theorem ofTokens_spelling_iff (before after : List Token) {t : Token} {k : Keyword}
    (ht : t.Classified k) (st : Statement) :
    (Text.eqCaseless t.text k.text = true ↔ ∀ c ∈ t.text.toList, c.toNat < 128) ∧
      (ofTokens (before ++ t :: after) = .ok st ↔
        ofTokens (before ++ ofFixed (.keyword k) :: after) = .ok st ∧
          ((∀ c ∈ t.text.toList, c.toNat < 128) ∨ ∃ d, before = [d] ∧ d.Classified .drop)) := by
  have hword : (ofFixed (.keyword k)).Spells k := spells_ofFixed k
  have hfixed : (ofFixed (.keyword k)).Classified k := classified_of_spells hword
  have hascii : Text.eqCaseless t.text k.text = true ↔ ∀ c ∈ t.text.toList, c.toNat < 128 :=
    Keyword.eqCaseless_text_iff (Kind.ofText?_eq_keyword.1 (ht ▸ t.kind_eq))
  refine ⟨hascii, ?_⟩
  rw [← hascii, ← spells_iff ht]
  constructor
  · intro h
    exact ⟨ofTokens_respell_at h (.inr ⟨k, ht, hfixed, fun _ => hword⟩), spells_or_follows_drop h ht⟩
  · rintro ⟨h, hspells | ⟨d, rfl, hd⟩⟩
    · exact ofTokens_respell_at h (.inr ⟨k, hfixed, ht, fun _ => hspells⟩)
    · exact ofTokens_reclassify hd hfixed ht h

/-- A token that is classified as `DATABASE`, with a long s. -/
def longDatabase : Token := ⟨"databaſe", .keyword .database, by decide⟩

def afterTarget : List Token := [ofIdentifier "x" (by decide), ofFixed (.symbol .semicolon)]

/-- `DROP databaſe x;` is read as `DROP DATABASE x;`, although `databaſe` is not spelled as the
word. -/
theorem ofTokens_spelling_iff_drop :
    Text.eqCaseless "databaſe" Keyword.database.text = false ∧
      ofTokens ([ofFixed (.keyword .drop)] ++ longDatabase :: afterTarget) =
        .ok (.dropDatabase "x") := by
  have hclassified : longDatabase.Classified .database := rfl
  obtain ⟨hascii, hread⟩ := ofTokens_spelling_iff [ofFixed (.keyword .drop)] afterTarget hclassified
    (.dropDatabase "x")
  constructor
  · rw [Bool.eq_false_iff]
    intro hspelled
    exact absurd (hascii.1 hspelled 'ſ' (by decide)) (by decide)
  · have hdrop : (ofFixed (.keyword .drop)).Classified .drop := rfl
    exact hread.2 ⟨by decide, .inr ⟨_, rfl, hdrop⟩⟩

/-- `databaſe` is classified as `DATABASE` and is not spelled as it, and `CREATE databaſe x;` is not
read, as `CREATE DATABASE x;` is. -/
theorem not_ofTokens_spelling :
    (¬∀ s k, Keyword.ofText? s = some k → Text.eqCaseless s k.text = true) ∧
      ¬∀ (before after : List Token) (t : Token) (k : Keyword), t.Classified k → ∀ st,
        ofTokens (before ++ t :: after) = .ok st ↔
          ofTokens (before ++ ofFixed (.keyword k) :: after) = .ok st := by
  refine ⟨fun h => absurd (h "databaſe" .database (by decide)) (by decide), fun h => ?_⟩
  have hread : ofTokens ([ofFixed (.keyword .create)] ++ ofFixed (.keyword .database) ::
      afterTarget) = .ok (.createDatabase "x") := by decide
  have hrefused : ofTokens ([ofFixed (.keyword .create)] ++ longDatabase :: afterTarget) =
      .error (.parse .noCreateTarget) := by decide
  rw [(h _ _ longDatabase .database rfl _).2 hread] at hrefused
  cases hrefused

end Statement

end Tabular
