import Tabular.Proofs.Condition.Accepted
import Tabular.Proofs.Statement.Accepted

/-! Texts that write statements, and the statements that are read from them. -/
namespace Tabular

section Tokens
open Grammar

namespace Token

theorem spells_ofFixed (k : Keyword) : Spells k (ofFixed (.keyword k)) := by
  simp [Spells, is, ofFixed, Kind.alike]

theorem name_ofName (n : String) (h : IsName n) : (ofName n h).Name n := by
  have hkind : (ofName n h).kind = .identifier ∨ (ofName n h).kind = .symbol .star := by
    unfold ofName
    split
    · exact .inr rfl
    · exact .inl rfl
  have hlower : Text.lowerAscii (ofName n h).value = n := by
    rw [Text.eqCaseless_iff.1 (ofName n h).eqCaseless_value, text_ofName]
    rcases h with rfl | h
    · decide
    · exact h.2
  exact ⟨_, ⟨hkind, rfl⟩, hlower⟩

theorem literal_ofQuote (value : String) : (ofQuote value).Literal (quote value) := by
  have hkind : (ofQuote value).kind = .string := rfl
  exact ⟨by simp [hkind], value_eq_text (by rw [hkind]; decide)⟩

def listed : List String → List Token
  | [] => []
  | [value] => [ofQuote value]
  | value :: next :: rest => ofQuote value :: ofFixed (.symbol .comma) :: listed (next :: rest)

theorem literals_listed {values : List String} (hne : values ≠ []) :
    Listed (Single Literal) (listed values) (values.map quote) := by
  induction values with
  | nil => exact absurd rfl hne
  | cons value values ih =>
    have hvalue : Single Literal [ofQuote value] (quote value) := ⟨_, rfl, literal_ofQuote value⟩
    cases values with
    | nil => exact .last hvalue
    | cons next values => exact .more hvalue rfl (ih (by simp))

end Token

end Tokens

section Scanning

/-- The marks that are tokens by themselves wherever they stand outside quotes. -/
theorem scans_mark {c : Char} (h : c ∈ ['(', ')', ',', ';', '*']) :
    Scans [c] [String.ofList [c]] := by
  simp only [List.mem_cons, List.not_mem_nil, or_false] at h
  rcases h with rfl | rfl | rfl | rfl | rfl <;>
    exact .mark (by decide) (by decide)

theorem scans_word_blank {n : String} (hne : n.toList ≠ [])
    (hw : ∀ c ∈ n.toList, isNameChar c = true) : Scans (n.toList ++ [' ']) [n] := by
  have hblank : Scans [' '] [] := .blank (by decide)
  have := hblank.cons fun _ => .of_isNameChar hne hw (.blank (by decide))
  rwa [String.ofList_toList] at this

theorem scans_word_semicolon {n : String} (hne : n.toList ≠ [])
    (hw : ∀ c ∈ n.toList, isNameChar c = true) : Scans (n.toList ++ [';']) [n, ";"] := by
  have hend : Scans [';'] [";"] := scans_mark (c := ';') (by simp)
  have := hend.cons fun _ => .of_isNameChar hne hw (.mark (by decide))
  rwa [String.ofList_toList] at this

theorem scans_identifier_blank {n : String} (h : Kind.ofText? n = some .identifier) :
    Scans (n.toList ++ [' ']) [n] := by
  obtain ⟨hne, hchars⟩ := isIdentifier_iff.1 (ofText?_eq_identifier.1 h).2.2.2.1
  exact scans_word_blank hne hchars

theorem scans_name_blank {n : String} (h : IsName n) : Scans (n.toList ++ [' ']) [n] := by
  rcases h with rfl | ⟨hid, -⟩
  · exact (scans_mark (c := '*') (by simp)).append (Scans.blank (c := ' ') (by decide))
  · exact scans_identifier_blank hid

theorem scans_name_semicolon {n : String} (h : IsName n) : Scans (n.toList ++ [';']) [n, ";"] := by
  rcases h with rfl | ⟨hid, -⟩
  · exact (scans_mark (c := '*') (by simp)).append (scans_mark (c := ';') (by simp))
  · obtain ⟨hne, hchars⟩ := isIdentifier_iff.1 (ofText?_eq_identifier.1 hid).2.2.2.1
    exact scans_word_semicolon hne hchars

theorem scans_keyword (k : Keyword) : Scans (k.text.toList ++ [' ']) [k.text] := by
  have hall : k.text.toList.all isNameChar = true := by cases k <;> decide
  exact scans_word_blank (by cases k <;> decide) (List.all_eq_true.1 hall)

theorem scans_equality {op : Comparison} (h : op ∈ [.equal, .notEqual]) :
    Scans op.text.toList [op.text] := by
  simp only [List.mem_cons, List.not_mem_nil, or_false] at h
  rcases h with rfl | rfl <;> exact .compound (by decide)

theorem scans_quote {value : String} (h : '\'' ∉ value.toList) :
    Scans (quote value).toList [quote value] := by
  rw [toList_quote, quote]
  exact .quoted h

theorem scans_listed {values : List String} (hne : values ≠ [])
    (h : ∀ value ∈ values, '\'' ∉ value.toList) :
    Scans (", ".intercalate (values.map quote)).toList ((Token.listed values).map Token.text) := by
  induction values with
  | nil => exact absurd rfl hne
  | cons value values ih =>
    have hvalue := scans_quote (h value (by simp))
    cases values with
    | nil =>
      rw [List.map_singleton, String.intercalate_singleton]
      exact hvalue
    | cons next values =>
      have hcomma : Scans ", ".toList [","] :=
        (scans_mark (c := ',') (by simp)).append (Scans.blank (c := ' ') (by decide))
      rw [List.map_cons, List.map_cons, String.intercalate_cons_cons, String.toList_append,
        String.toList_append]
      exact (hvalue.append hcomma).append (ih (by simp) fun v hv => h v (by simp [hv]))

end Scanning

namespace Statement
open Grammar Token

def insertText (table : String) (values : List String) : String :=
  "INSERT INTO " ++ table ++ " VALUES (" ++ ", ".intercalate (values.map quote) ++ ");"

def selectText (table : String) : String := "SELECT * FROM " ++ table ++ ";"

def selectWhereText (table column : String) (op : Comparison) (value : String) : String :=
  "SELECT * FROM " ++ table ++ " WHERE " ++ column ++ " " ++ op.text ++ " " ++ quote value ++ ";"

def whereIdText (n : UInt64) : String := "WHERE id == " ++ toString n.toNat ++ ";"

def selectIdText (table : String) (n : UInt64) : String :=
  "SELECT * FROM " ++ table ++ " " ++ whereIdText n

def deleteIdText (table : String) (n : UInt64) : String :=
  "DELETE FROM " ++ table ++ " " ++ whereIdText n

def useText (database : String) : String := "USE " ++ database ++ ";"

/-- A text is read as the statement that its tokens write. -/
theorem ofText_of_body {s : String} {first : Keyword} {body : List Token} {st : Statement}
    (hscan : Scans s.toList ((body.map Token.text) ++ [";"]))
    (hbody : Body Spells Classified first body st) : ofText s = .ok st := by
  have htokens : tokenize s = .ok (body ++ [ofFixed (.symbol .semicolon)]) := by
    refine tokenize_of_scan ?_
    rw [hscan.scan_eq, List.map_append]
    rfl
  rw [ofText, htokens]
  exact ofTokens_of_derives ⟨first, body, _, rfl, rfl, hbody⟩

theorem ofText_useText {d : String} (h : IsName d) : ofText (useText d) = .ok (.use d) := by
  have hscan : Scans (useText d).toList ["USE", d, ";"] := by
    rw [useText, String.toList_append, String.toList_append, List.append_assoc]
    exact (scans_keyword .use).append (scans_name_semicolon h)
  have hbody : Body Spells Classified .use [ofFixed (.keyword .use), ofName d h] (.use d) :=
    .use (spells_ofFixed _) (name_ofName d h)
  refine ofText_of_body ?_ hbody
  rw [List.map_cons, List.map_singleton, text_ofName]
  exact hscan

theorem where_comparison {column : String} (hcolumn : Kind.ofText? column = some .identifier)
    (op : Comparison) (value : TokenOf [.string, .number, .identifier]) :
    Where Spells [ofFixed (.keyword .where_), ofIdentifier column hcolumn, ofComparison op, value.1]
      (some (.comparison column op (unquote value.1.text))) := by
  let name : TokenOf [.identifier] := ⟨ofIdentifier column hcolumn, List.mem_singleton_self _⟩
  let sign : TokenOf [.comparison op] := ⟨ofComparison op, List.mem_singleton_self _⟩
  have hread := (Disjunction.single (.single (.comparison name op sign value))).ofTokens_tokens
  refine .some (spells_ofFixed _) (List.cons_ne_nil _ _) (fun t ht hsemi => ?_) hread
  have hvalue := value.2
  simp only [List.mem_cons, List.not_mem_nil, or_false] at ht hvalue
  rcases ht with rfl | rfl | rfl
  · cases hsemi
  · cases hsemi
  · rw [hsemi] at hvalue
    simp at hvalue

theorem body_selectAll {t : String} (h : IsName t) {cs : List Token} {c : Option Condition}
    (hc : Where Spells cs c) :
    Body Spells Classified .select (ofFixed (.keyword .select) :: ofFixed (.symbol .star) ::
      ofFixed (.keyword .from_) :: ofName t h :: cs) (.select t .all c) :=
  .selectAll (spells_ofFixed _) rfl (spells_ofFixed _) (name_ofName t h) hc

theorem scans_selectFrom : Scans "SELECT * FROM ".toList ["SELECT", "*", "FROM"] := by
  have hstar : Scans "* ".toList ["*"] :=
    (scans_mark (c := '*') (by simp)).append (Scans.blank (by decide))
  rw [show "SELECT * FROM " = "SELECT " ++ "* " ++ "FROM " by decide, String.toList_append,
    String.toList_append]
  exact ((scans_keyword .select).append hstar).append (scans_keyword .from_)

theorem ofText_selectText {t : String} (h : IsName t) :
    ofText (selectText t) = .ok (.select t .all none) := by
  have hscan : Scans (selectText t).toList ["SELECT", "*", "FROM", t, ";"] := by
    rw [selectText, String.toList_append, String.toList_append, List.append_assoc]
    exact scans_selectFrom.append (scans_name_semicolon h)
  refine ofText_of_body ?_ (body_selectAll h .none)
  simp only [List.map_cons, List.map_nil, text_ofName]
  exact hscan

theorem scans_selectAll {t : String} (h : IsName t) :
    Scans ("SELECT * FROM " ++ t ++ " ").toList ["SELECT", "*", "FROM", t] := by
  rw [String.toList_append, String.toList_append, List.append_assoc]
  exact scans_selectFrom.append (scans_name_blank h)

theorem ofText_selectWhereText {t column value : String} {op : Comparison} (h : IsName t)
    (hcolumn : Kind.ofText? column = some .identifier) (hop : op ∈ [.equal, .notEqual])
    (hv : '\'' ∉ value.toList) :
    ofText (selectWhereText t column op value) =
      .ok (.select t .all (some (.comparison column op value))) := by
  have hscan : Scans (selectWhereText t column op value).toList
      ["SELECT", "*", "FROM", t, "WHERE", column, op.text, quote value, ";"] := by
    have hblank : Scans " ".toList [] := Scans.blank (by decide)
    have hend : Scans ";".toList [";"] := scans_mark (c := ';') (by simp)
    have hword : Scans "WHERE ".toList ["WHERE"] := scans_keyword .where_
    have hname : Scans (column.toList ++ " ".toList) [column] := scans_identifier_blank hcolumn
    have hcompared := ((hword.append hname).append (scans_equality hop)).append hblank
    have hcondition := (hcompared.append (scans_quote hv)).append hend
    have htext : selectWhereText t column op value =
        ("SELECT * FROM " ++ t ++ " ") ++
          ("WHERE " ++ (column ++ " ") ++ op.text ++ " " ++ quote value ++ ";") := by
      have hspace : " " ++ "WHERE " = " WHERE " := by decide
      delta selectWhereText
      simp only [String.append_assoc]
      rw [← hspace, String.append_assoc]
    rw [htext, String.toList_append]
    simp only [← String.toList_append] at hcondition
    exact (scans_selectAll h).append hcondition
  have hwhere := where_comparison hcolumn op ⟨ofQuote value, List.mem_cons_self⟩
  have hliteral : unquote (ofQuote value).text = value := unquote_quote value
  rw [hliteral] at hwhere
  refine ofText_of_body ?_ (body_selectAll h hwhere)
  simp only [List.map_cons, List.map_nil, text_ofName]
  exact hscan

theorem unquote_toString (n : Nat) : unquote (toString n) = toString n := by
  unfold unquote
  split
  · next he =>
    have hquote : '\'' ∈ (toString n).toList := he ▸ List.mem_cons_self
    exact absurd (isDigit_of_mem_toString hquote) (by decide)
  · rfl

theorem where_id (n : UInt64) :
    ∃ cs : List Token, cs.map Token.text = ["WHERE", "id", "==", toString n.toNat] ∧
      Where Spells cs (some (.comparison "id" .equal (toString n.toNat))) := by
  have hid : Kind.ofText? "id" = some .identifier := by decide
  have hwhere := where_comparison hid .equal
    ⟨ofNumber n.toNat, List.mem_cons_of_mem _ List.mem_cons_self⟩
  have hliteral : unquote (ofNumber n.toNat).text = toString n.toNat := unquote_toString _
  rw [hliteral] at hwhere
  exact ⟨_, rfl, hwhere⟩

theorem scans_whereIdText (n : UInt64) :
    Scans (whereIdText n).toList ["WHERE", "id", "==", toString n.toNat, ";"] := by
  have hid : Scans "id ".toList ["id"] :=
    scans_identifier_blank (n := "id") (by decide)
  have hequals : Scans "==".toList ["=="] := .compound (by decide)
  have hblank : Scans " ".toList [] := Scans.blank (by decide)
  have hnumber : Scans ((toString n.toNat).toList ++ [';']) [toString n.toNat, ";"] :=
    scans_word_semicolon (toList_toString_ne_nil _)
      fun c hc => isNameChar_of_isDigit (isDigit_of_mem_toString hc)
  rw [whereIdText, show "WHERE id == " = "WHERE " ++ "id " ++ "==" ++ " " by decide]
  simp only [String.toList_append]
  rw [List.append_assoc _ (toString n.toNat).toList]
  have hwords := ((scans_keyword .where_).append hid).append hequals
  exact (hwords.append hblank).append hnumber

theorem ofText_selectIdText {t : String} (h : IsName t) (n : UInt64) :
    ofText (selectIdText t n) =
      .ok (.select t .all (some (.comparison "id" .equal (toString n.toNat)))) := by
  obtain ⟨cs, htexts, hwhere⟩ := where_id n
  have hscan : Scans (selectIdText t n).toList
      ["SELECT", "*", "FROM", t, "WHERE", "id", "==", toString n.toNat, ";"] := by
    rw [selectIdText, String.toList_append]
    exact (scans_selectAll h).append (scans_whereIdText n)
  refine ofText_of_body ?_ (body_selectAll h hwhere)
  simp only [List.map_cons, text_ofName, htexts]
  exact hscan

theorem ofText_deleteIdText {t : String} (h : IsName t) (n : UInt64) :
    ofText (deleteIdText t n) =
      .ok (.delete t (some (.comparison "id" .equal (toString n.toNat)))) := by
  obtain ⟨cs, htexts, hwhere⟩ := where_id n
  have hscan : Scans (deleteIdText t n).toList
      ["DELETE", "FROM", t, "WHERE", "id", "==", toString n.toNat, ";"] := by
    have hbegin := (scans_keyword .delete).append (scans_keyword .from_)
    rw [deleteIdText, show "DELETE FROM " = "DELETE " ++ "FROM " by decide]
    simp only [String.toList_append]
    rw [List.append_assoc _ t.toList]
    exact (hbegin.append (scans_name_blank h)).append (scans_whereIdText n)
  have hbody : Body Spells Classified .delete
      (ofFixed (.keyword .delete) :: ofFixed (.keyword .from_) :: ofName t h :: cs)
      (.delete t (some (.comparison "id" .equal (toString n.toNat)))) :=
    .delete (spells_ofFixed _) (spells_ofFixed _) (name_ofName t h) hwhere
  refine ofText_of_body ?_ hbody
  simp only [List.map_cons, text_ofName, htexts]
  exact hscan

theorem ofText_insertText {t : String} (h : IsName t) {values : List String} (hne : values ≠ [])
    (hv : ∀ value ∈ values, '\'' ∉ value.toList) :
    ofText (insertText t values) = .ok (.insert t (values.map quote)) := by
  have hscan : Scans (insertText t values).toList
      (["INSERT", "INTO", t, "VALUES", "("] ++ (Token.listed values).map Token.text ++
        [")", ";"]) := by
    have hopen : Scans "(".toList ["("] := scans_mark (c := '(') (by simp)
    have hend : Scans ");".toList [")", ";"] :=
      (scans_mark (c := ')') (by simp)).append (scans_mark (c := ';') (by simp))
    delta insertText
    rw [show "INSERT INTO " = "INSERT " ++ "INTO " by decide,
      show " VALUES (" = " " ++ "VALUES " ++ "(" by decide]
    simp only [String.toList_append, ← List.append_assoc]
    rw [List.append_assoc _ t.toList]
    have hbegin :=
      ((scans_keyword .insert).append (scans_keyword .into)).append (scans_name_blank h)
    exact (((hbegin.append (scans_keyword .values)).append hopen).append
      (scans_listed hne hv)).append hend
  have hbody : Body Spells Classified .insert (ofFixed (.keyword .insert) ::
      ofFixed (.keyword .into) :: ofName t h :: ofFixed (.keyword .values) ::
      ofFixed (.symbol .open_) :: (listed values ++ [ofFixed (.symbol .close)]))
      (.insert t (values.map quote)) :=
    .insert (spells_ofFixed _) (spells_ofFixed _) (name_ofName t h) (spells_ofFixed _) rfl
      (literals_listed hne) rfl
  refine ofText_of_body ?_ hbody
  simp only [List.cons_append, List.nil_append] at hscan
  simp only [List.map_cons, List.map_append, List.map_nil, text_ofName, List.cons_append,
    List.nil_append, List.append_assoc]
  exact hscan

end Statement

end Tabular
