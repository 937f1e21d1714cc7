import Tabular.Proofs.Statement.Accepted
import Tabular.Proofs.Table.WellFormed
import Tabular.Proofs.Token.Scanning

/-! What is known of every statement that is read from a text: its names are names, and the columns
that it makes can stand in a header. -/
namespace Tabular

/-- What reading a statement checks of its names and new columns. -/
def Statement.Proper : Statement → Prop
  | use d | createDatabase d | dropDatabase d => IsName d
  | createTable table columns =>
    IsName table ∧ (∀ c ∈ columns, isIdColumn c = false ∧ IsCell c) ∧
      columns.Pairwise fun a b => Text.eqCaseless a b = false
  | alter table _ column => IsName table ∧ IsCell column
  | dropTable table | insert table _ | select table _ _ | update table _ _ | delete table _ =>
      IsName table
  | join left right _ _ => IsName left ∧ IsName right

theorem isCell_of_isIdentifier {s : String} (h : isIdentifier s = true) : IsCell s := by
  intro c hc hm
  have := (isNameChar_ordinary ((isIdentifier_iff.1 h).2 c hc)).1
  simp only [List.mem_cons, List.not_mem_nil, or_false] at hm
  rcases hm with rfl | rfl | rfl <;> simp at this

theorem isCell_of_star_or_identifier {s : String}
    (h : s = "*" ∨ Kind.ofText? s = some .identifier) : IsCell s := by
  rcases h with rfl | hid
  · have hstar : IsCell (String.ofList ['*']) := isCell_ofList.2 (by simp)
    exact hstar
  · exact isCell_of_isIdentifier (ofText?_eq_identifier.1 hid).2.2.2.1

theorem IsName.isCell {s : String} (h : IsName s) : IsCell s :=
  isCell_of_star_or_identifier (h.imp_right And.left)

namespace Token
variable {t : Token}

theorem Column.star_or_identifier {c : String} (h : t.Column c) :
    c = "*" ∨ Kind.ofText? c = some .identifier := by
  obtain ⟨hk, rfl⟩ := h
  have hvalue := t.ofText?_value
  rcases hk with hk | hk <;> rw [hk] at hvalue
  · exact .inr hvalue
  · exact .inl (Kind.ofText?_eq_symbol.1 hvalue)

theorem Column.isCell {c : String} (h : t.Column c) : IsCell c :=
  isCell_of_star_or_identifier h.star_or_identifier

theorem Name.isName {n : String} (h : t.Name n) : IsName n := by
  obtain ⟨c, hc, rfl⟩ := h
  rcases hc.star_or_identifier with rfl | hid
  · exact .inl (by decide)
  · exact .inr ⟨ofText?_of_eqCaseless (eqCaseless_lowerAscii c) hid, lowerAscii_lowerAscii c⟩

end Token

namespace Grammar

theorem Listed.exists_of_mem {α : Type} {R : Token → α → Prop} {ts : List Token} {as : List α}
    (h : Listed (Single R) ts as) {a : α} (ha : a ∈ as) : ∃ t, R t a := by
  induction h with
  | last item =>
    obtain ⟨t, -, ht⟩ := item
    exact ⟨t, List.mem_singleton.1 ha ▸ ht⟩
  | more item _ _ ih =>
    obtain ⟨t, -, ht⟩ := item
    rcases List.mem_cons.1 ha with rfl | ha
    · exact ⟨t, ht⟩
    · exact ih ha

theorem Listed.ne_nil {α : Type} {Item : List Token → α → Prop} {ts : List Token} {as : List α}
    (h : Listed Item ts as) : as ≠ [] := by
  cases h <;> exact List.cons_ne_nil _ _

/-- A statement that the grammar derives is proper. -/
theorem Body.proper {word object : Keyword → Token → Prop} {first : Keyword} {body : List Token}
    {st : Statement} (h : Body word object first body st) : st.Proper := by
  cases h with
  | use _ hd => exact hd.isName
  | createDatabase _ _ hd => exact hd.isName
  | createTable _ _ ht => exact ⟨ht.isName, by simp, .nil⟩
  | createColumns _ _ ht _ hcs hdistinct =>
    refine ⟨ht.isName, fun c hc => ?_, hdistinct.filter _⟩
    obtain ⟨hmem, hid⟩ := List.mem_filter.1 hc
    obtain ⟨t, ht⟩ := hcs.exists_of_mem hmem
    exact ⟨by simpa using hid, ht.isCell⟩
  | dropTable _ _ ht => exact ht.isName
  | dropDatabase _ _ hd => exact hd.isName
  | addColumn _ _ ht _ hc => exact ⟨ht.isName, hc.isCell⟩
  | dropColumn _ _ ht _ hc => exact ⟨ht.isName, hc.isCell⟩
  | insert _ _ ht => exact ht.isName
  | selectAll _ _ _ ht => exact ht.isName
  | select _ _ _ _ ht => exact ht.isName
  | update _ ht => exact ht.isName
  | delete _ _ ht => exact ht.isName
  | join _ hl _ hr => exact ⟨hl.isName, hr.isName⟩

end Grammar

theorem Statement.exists_body_of_ofText {s : String} {st : Statement} (h : ofText s = .ok st) :
    ∃ first body, Grammar.Body Token.Spells Token.Classified first body st := by
  obtain ⟨ts, -, hread⟩ := Except.bind_eq_ok.1 h
  obtain ⟨first, body, semicolon, -, -, hbody⟩ := derives_of_ofTokens hread
  exact ⟨first, body, hbody⟩

/-- A statement that is read from a text is proper. -/
theorem Statement.proper_of_ofText {s : String} {st : Statement} (h : ofText s = .ok st) :
    st.Proper := by
  obtain ⟨first, body, hbody⟩ := exists_body_of_ofText h
  exact hbody.proper

/-- The columns that a selection names are stars and identifiers. -/
theorem Statement.star_or_identifier_of_ofText {s table : String} {names : List String}
    {condition : Option Condition} (h : ofText s = .ok (.select table (.columns names) condition)) :
    ∀ c ∈ names, c = "*" ∨ Kind.ofText? c = some .identifier := by
  obtain ⟨first, body, hbody⟩ := exists_body_of_ofText h
  cases hbody with
  | select _ hcs =>
    intro c hc
    obtain ⟨t, ht⟩ := hcs.exists_of_mem hc
    exact ht.star_or_identifier

theorem Statement.columns_ne_nil_of_ofText {s table : String} {names : List String}
    {condition : Option Condition} (h : ofText s = .ok (.select table (.columns names) condition)) :
    names ≠ [] := by
  obtain ⟨first, body, hbody⟩ := exists_body_of_ofText h
  cases hbody with
  | select _ hcs => exact hcs.ne_nil

/-- A text of white space writes no statement. -/
theorem Statement.ofText_of_blank {s : String} (h : (Text.trim s).isEmpty = true) :
    ofText s = .error (.parse .unknownCommand) := by
  have hs : scan s = Scan.nothing :=
    scanWord_of_isBlank fun c hc => Text.isBlank_of_isEmpty_trim h hc
  rw [ofText, Token.tokenize, hs]
  rfl

end Tabular
