import Tabular.Proofs.Session.Regular
import Tabular.Proofs.Session.Success
import Tabular.Proofs.Statement.Writing
import Tabular.Proofs.Table.Lookup

/-! Literals that are stored are read back as they were written. -/
namespace Tabular

theorem mapM_cellOf_quote {values : List String} (h : ∀ value ∈ values, IsCell value) :
    (values.map quote).mapM cellOf = .ok values := by
  have hcontents : (values.map quote).map unquote = values := by
    simp [Function.comp_def, unquote_quote]
  rw [mapM_cellOf_eq_ok, hcontents]
  exact ⟨rfl, h⟩

namespace Table

theorem WellFormed.scan_all {t : Table} (h : t.WellFormed) :
    t.scan (List.range t.header.length) none = .scan t.header t.rows := by
  have hrows : t.rows.filter (t.rowHolds none) = t.rows := List.filter_eq_self.2 fun _ _ => rfl
  rw [scan_range h.width, hrows]

end Table

namespace Session

theorem wellStored_receive {s : Session Memory} (hw : s.storage.WellStored)
    (hr : s.Regular IsName IsName) (texts : List String) :
    (s.receive texts).storage.WellStored ∧ (s.receive texts).Regular IsName IsName := by
  induction texts generalizing s with
  | nil => exact ⟨hw, hr⟩
  | cons text rest ih =>
    have hstep := step_respond s text
    rw [shown_eq, shown_eq] at hstep
    rw [receive_cons]
    exact ih (hstep.wellStored hw) (hstep.regular hr)

variable {s : Session Memory} {d t : String} {table : Table}

theorem answer_selectText (ht : s.Holds d t table) (hwf : table.WellFormed) (name : IsName t) :
    s.answer (Statement.selectText t) = .ok (.scan table.header table.rows) := by
  have hrun : Statement.executeSelect t .all none s = _ :=
    Statement.executeSelect_ok none ht hwf.header_ne_nil rfl
  rw [hwf.scan_all] at hrun
  exact (answer_of_execute (Statement.ofText_selectText name) hrun).1

/-- A row of quoted values is added to a well-formed table. -/
theorem respond_insertText {values : List String} {id : UInt64} (ht : s.Holds d t table)
    (hwf : table.WellFormed) (hr : s.Regular IsName IsName)
    (hwidth : table.header.length = values.length + 1) (hne : values ≠ [])
    (hid : s.context.nextId t table = .ok id)
    (hv : ∀ value ∈ values, ∀ c ∈ value.toList, c ∉ ['\'', '\t', '\n', '\r']) :
    ∃ s' : Session Memory, s.respond (Statement.insertText t values) = ("[OK]", s') ∧
      s'.Holds d t (table.insertRow id values) ∧ (table.insertRow id values).WellFormed ∧
      (s'.storage.marks? d).isSome = true := by
  have name : IsName t := by
    obtain ⟨-, lines, hl, -⟩ := ht
    exact hr.stored.tables d t lines hl
  have hcells : ∀ value ∈ values, IsCell value :=
    fun value hm c hc hbad => hv value hm c hc (by simp_all)
  have hquotes : ∀ value ∈ values, '\'' ∉ value.toList :=
    fun value hm hc => hv value hm _ hc (by simp)
  have hinserts : s.Inserts t (values.map quote) d table table values id := by
    refine ⟨ht, mapM_cellOf_quote hcells, ?_, by rw [hwidth]; rfl, hid⟩
    rw [Table.titled_eq, List.isEmpty_eq_false_iff.2 hwf.header_ne_nil]
    rfl
  have hlt : table.maxId.toNat < id.toNat := by
    rw [Context.toNat_nextId hid]
    omega
  have hnew := hwf.insertRow hlt hcells hinserts.length_eq
  obtain ⟨marks, hm⟩ := Option.isSome_iff_exists.1 (hr.active d ht.1)
  obtain ⟨m, hmarks, hlines, hrun⟩ := Statement.executeInsert_ok hinserts hm
  have hresponse := (answer_of_execute (Statement.ofText_insertText name hne hquotes) hrun).2
  refine ⟨_, hresponse, ?_, hnew, ?_⟩
  · exact ⟨ht.1, _, (hlines d t).trans (if_pos ⟨rfl, rfl⟩), hnew.ofLines_toLines.symm⟩
  · rw [hmarks, if_pos rfl]
    rfl

/-- Texts without quotes, tabs and line breaks that are added to a table between quotes are shown as
they are, after the rows that were there before, and so they are by a new session. -/
theorem insert_read_back (texts : List String) {s : Session Memory}
    (hs : s = receive ⟨{}, {}⟩ texts) {d t : String} {table : Table} (ht : s.Holds d t table)
    (values : List String) (hne : values ≠ []) (hwidth : table.header.length = values.length + 1)
    {id : UInt64} (hid : s.context.nextId t table = .ok id)
    (hv : ∀ value ∈ values, ∀ c ∈ value.toList, c ∉ ['\'', '\t', '\n', '\r']) :
    ∃ s₁ s₂ : Session Memory,
      s.answer (Statement.selectText t) = .ok (.scan table.header table.rows) ∧
      s.respond (Statement.insertText t values) = ("[OK]", s₁) ∧
      s₁.answer (Statement.selectText t) =
        .ok (.scan table.header (table.rows ++ [toString id.toNat :: values])) ∧
      Session.respond ⟨{}, s₁.storage⟩ (Statement.useText d) = ("[OK]", s₂) ∧
      s₂.answer (Statement.selectText t) =
        .ok (.scan table.header (table.rows ++ [toString id.toNat :: values])) := by
  obtain ⟨hstored, hr⟩ : s.storage.WellStored ∧ s.Regular IsName IsName :=
    hs ▸ wellStored_receive Memory.wellStored_empty Regular.empty texts
  have hwf : table.WellFormed := by
    apply ht.wellFormed hstored
    intro hnil
    rw [hnil] at hwidth
    cases hwidth
  have name : IsName t := by
    obtain ⟨-, lines, hl, -⟩ := ht
    exact hr.stored.tables d t lines hl
  have hdatabase : IsName d := by
    obtain ⟨marks, hm⟩ := Option.isSome_iff_exists.1 (hr.active d ht.1)
    exact hr.stored.databases d marks hm
  obtain ⟨s₁, hs₁, ht₁, hwf₁, hm₁⟩ := respond_insertText ht hwf hr hwidth hne hid hv
  obtain ⟨marks, hm₁⟩ := Option.isSome_iff_exists.1 hm₁
  obtain ⟨marks', huse⟩ := Statement.executeUse_ok (s := ⟨{}, s₁.storage⟩) hm₁
  have ht₂ : (⟨⟨some d, marks'⟩, s₁.storage⟩ : Session Memory).Holds d t
      (table.insertRow id values) := ⟨rfl, ht₁.2⟩
  exact ⟨s₁, _, answer_selectText ht hwf name, hs₁, answer_selectText ht₁ hwf₁ name,
    (answer_of_execute (Statement.ofText_useText hdatabase) huse).2,
    answer_selectText ht₂ hwf₁ name⟩

/-- A value that looks like a statement, and one without characters. -/
theorem insert_read_back_statement_text :
    ∃ s₁ : Session Memory,
      (receive (⟨{}, {}⟩ : Session Memory)
        ["CREATE DATABASE d;", "USE d;", "CREATE TABLE t (a, b);"]).respond
        (Statement.insertText "t" ["); DROP TABLE t; =é", ""]) = ("[OK]", s₁) ∧
      s₁.answer (Statement.selectText "t") =
        .ok (.scan ["id", "a", "b"] [["1", "); DROP TABLE t; =é", ""]]) := by
  have ht : (receive (⟨{}, {}⟩ : Session Memory)
      ["CREATE DATABASE d;", "USE d;", "CREATE TABLE t (a, b);"]).Holds
      "d" "t" ⟨["id", "a", "b"], []⟩ :=
    ⟨by decide +kernel, ["id\ta\tb"], by decide +kernel, by decide +kernel⟩
  have hid : (receive (⟨{}, {}⟩ : Session Memory)
      ["CREATE DATABASE d;", "USE d;", "CREATE TABLE t (a, b);"]).context.nextId "t"
      ⟨["id", "a", "b"], []⟩ = .ok 1 := by
    decide +kernel
  have hall : ["); DROP TABLE t; =é", ""].all
      (·.toList.all (· ∉ ['\'', '\t', '\n', '\r'])) = true := by
    decide +kernel
  have hv : ∀ value ∈ ["); DROP TABLE t; =é", ""],
      ∀ c ∈ value.toList, c ∉ ['\'', '\t', '\n', '\r'] := by
    intro value hvalue c hc
    have hchars := List.all_eq_true.1 hall value hvalue
    exact of_decide_eq_true (List.all_eq_true.1 hchars c hc)
  obtain ⟨s₁, s₂, -, hs₁, hshown, -⟩ :=
    insert_read_back ["CREATE DATABASE d;", "USE d;", "CREATE TABLE t (a, b);"]
    rfl ht ["); DROP TABLE t; =é", ""] (List.cons_ne_nil _ _) rfl hid hv
  rw [show toString (1 : UInt64).toNat = "1" by decide +kernel] at hshown
  exact ⟨s₁, hs₁, hshown⟩

end Session

end Tabular
