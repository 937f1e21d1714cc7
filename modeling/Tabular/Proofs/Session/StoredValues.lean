import Tabular.Proofs.Session.LiteralRoundTrip
import Tabular.Proofs.Table.CellEquality

/-! Which values that are added to a table are found by a comparison with themselves. -/
namespace Tabular

namespace Session
open Statement
variable {s : Session Memory} {d t column value text : String} {table : Table}

theorem answer_selectWhereText (ht : s.Holds d t table) (hwf : table.WellFormed) (name : IsName t)
    (hcolumn : Kind.ofText? column = some .identifier) {op : Comparison}
    (hop : op ∈ [.equal, .notEqual]) (hv : '\'' ∉ value.toList) :
    s.answer (selectWhereText t column op value) =
      .ok (.scan table.header
        (table.rows.filter (table.rowHolds (some (.comparison column op value))))) := by
  have hrun : executeSelect t .all (some (.comparison column op value)) s = _ :=
    executeSelect_ok _ ht hwf.header_ne_nil rfl
  rw [Table.scan_range hwf.width] at hrun
  exact (answer_of_execute (ofText_selectWhereText name hcolumn hop hv) hrun).1

theorem holds_of_inserted {literals : List String} {id : UInt64} (hw : s.storage.WellStored)
    (ht : s.Holds d t table) (hh : table.header ≠ [])
    (hst : Statement.ofText text = .ok (.insert t literals))
    (h : s.answer text = .ok (.insert t id)) :
    ∃ values, literals.mapM cellOf = .ok values ∧ (table.insertRow id values).WellFormed ∧
      (s.respond text).2.Holds d t (table.insertRow id values) := by
  obtain ⟨_, hst', heffect⟩ := effect_of_answer h
  cases hst.symm.trans hst'
  obtain ⟨e, old, u, values, _, v, m, ha, hinserts, hmarked, hm, hafter⟩ := heffect.of_insert
  cases ha
  obtain ⟨rfl, rfl⟩ := ht.eq hinserts.holds
  obtain rfl : table = u := by
    have htitled := hinserts.titled_eq
    rw [Table.titled_eq, List.isEmpty_eq_false_iff.2 hh] at htitled
    exact Except.ok.inj htitled
  have hnew := hinserts.wellFormed hw
  refine ⟨values, hinserts.values_eq, hnew, ?_⟩
  cases hmarked with
  | saved =>
    rw [shown_eq] at hafter
    rw [hafter]
    exact holds_of_written ht.1 hnew.readable hm

/-- A value that a reachable session has added to a column is found by `==`, and not by `!=`,
exactly if it has no white space around it or writes a number. -/
theorem inserted_found_iff (texts : List String) (hs : s = receive ⟨{}, {}⟩ texts)
    (ht : s.Holds d t table) (hcolumn : Kind.ofText? column = some .identifier) {i : Nat}
    (hi : findColumn? table.header column = some (i + 1)) {literals : List String}
    (hst : Statement.ofText text = .ok (.insert t literals))
    (hvalue : literals[i]? = some (quote value)) (hv : '\'' ∉ value.toList) {id : UInt64}
    (h : s.answer text = .ok (.insert t id)) :
    ∃ row equals others,
      (s.respond text).2.answer (selectText t) =
        .ok (.scan table.header (table.rows ++ [row])) ∧
      row.head? = some (toString id.toNat) ∧ row[i + 1]? = some value ∧
      (s.respond text).2.answer (selectWhereText t column .equal value) =
        .ok (.scan table.header equals) ∧
      (row ∈ equals ↔ Findable value) ∧
      (s.respond text).2.answer (selectWhereText t column .notEqual value) =
        .ok (.scan table.header others) ∧
      (row ∈ others ↔ ¬Findable value) := by
  obtain ⟨hstored, hr⟩ : s.storage.WellStored ∧ s.Regular IsName IsName :=
    hs ▸ wellStored_receive Memory.wellStored_empty Regular.empty texts
  have hh : table.header ≠ [] := by
    intro hnil
    rw [hnil] at hi
    cases hi
  have name : IsName t := by
    obtain ⟨-, lines, hl, -⟩ := ht
    exact hr.stored.tables d t lines hl
  obtain ⟨values, hvalues, hwf, hafter⟩ := holds_of_inserted hstored ht hh hst h
  obtain ⟨stored, hstoredValue, hcell⟩ := exists_getElem?_of_mapM hvalues hvalue
  obtain rfl : value = stored := by
    rw [cellOf, unquote_quote] at hcell
    split at hcell
    · cases hcell
    · exact Except.ok.inj hcell
  have hfound : ∀ op : Comparison,
      (toString id.toNat :: values) ∈ (table.insertRow id values).rows.filter
        ((table.insertRow id values).rowHolds (some (.comparison column op value))) ↔
      op.holds value value = true := by
    intro op
    have hcondition : (table.insertRow id values).rowHolds (some (.comparison column op value))
        (toString id.toNat :: values) = op.holds value value :=
      Table.rowHolds_comparison hi hstoredValue op value
    rw [List.mem_filter, hcondition]
    exact and_iff_right (List.mem_append_right _ (List.mem_singleton.2 rfl))
  refine ⟨toString id.toNat :: values, _, _, answer_selectText hafter hwf name, rfl, hstoredValue,
    answer_selectWhereText hafter hwf name hcolumn (by simp) hv, ?_,
    answer_selectWhereText hafter hwf name hcolumn (by simp) hv, ?_⟩
  · rw [hfound, Comparison.equal_holds_self_iff]
  · rw [hfound, Comparison.notEqual_holds_self, ← Comparison.equal_holds_self_iff,
      Bool.not_eq_true', Bool.not_eq_true]

/-- A number between white space is found. -/
theorem inserted_found_iff_number :
    ∃ (s : Session Memory) (row : List String) (equals : List (List String)),
      s.answer "INSERT INTO t VALUES (' 12');" = .ok (.insert "t" 1) ∧
      (s.respond "INSERT INTO t VALUES (' 12');").2.answer
        (selectWhereText "t" "A" .equal " 12") = .ok (.scan ["id", "a"] equals) ∧
      row[1]? = some " 12" ∧ row ∈ equals := by
  let texts := ["CREATE DATABASE d;", "USE d;", "CREATE TABLE t (a);"]
  let s : Session Memory := receive ⟨{}, {}⟩ texts
  have ht : s.Holds "d" "t" ⟨["id", "a"], []⟩ :=
    ⟨by decide +kernel, ["id\ta"], by decide +kernel, by decide +kernel⟩
  have hanswer : s.answer "INSERT INTO t VALUES (' 12');" = .ok (.insert "t" 1) := by
    decide +kernel
  have hst : Statement.ofText "INSERT INTO t VALUES (' 12');" = .ok (.insert "t" ["' 12'"]) := by
    decide +kernel
  have hvalue : (["' 12'"] : List String)[0]? = some (quote " 12") := by decide
  have hcolumn : Kind.ofText? "A" = some .identifier := by decide
  obtain ⟨row, equals, _, -, -, hcell, hequals, hfound, -⟩ :=
    inserted_found_iff texts rfl ht hcolumn (i := 0) (by decide) hst hvalue (by decide) hanswer
  exact ⟨s, row, equals, hanswer, hequals, hcell, hfound.2 (.inr (by decide))⟩

/-- A text after white space is not found. -/
theorem inserted_not_found :
    ∃ s : Session Memory,
      s = receive ⟨{}, {}⟩ ["CREATE DATABASE d;", "USE d;", "CREATE TABLE t (a);",
        "INSERT INTO t VALUES (' a');"] ∧
      s.answer "SELECT * FROM t;" = .ok (.scan ["id", "a"] [["1", " a"]]) ∧
      s.answer "SELECT * FROM t WHERE a == ' a';" = .ok (.scan ["id", "a"] []) ∧
      s.answer "SELECT * FROM t WHERE a != ' a';" = .ok (.scan ["id", "a"] [["1", " a"]]) :=
  ⟨_, rfl, by decide +kernel, by decide +kernel, by decide +kernel⟩

end Session

end Tabular
