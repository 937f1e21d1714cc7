import Tabular.Proofs.Session.Regular
import Tabular.Proofs.Session.Success
import Tabular.Proofs.Statement.Writing
import Tabular.Proofs.Table.Lookup

/-! Rows that statements find by their id. Ids are compared by their nearest numbers, so a row with
an id from `2 ^ 53` up may be found together with its neighbours. -/
namespace Tabular.Session
open Statement
variable {s : Session Memory} {d t text column : String} {table : Table} {n : UInt64}
  {row : List String}

theorem answer_selectIdText (ht : s.Holds d t table) (hk : table.Keyed) (name : IsName t)
    (n : UInt64) : s.answer (selectIdText t n) = .ok (.scan table.header (table.rowsNear n)) := by
  have hrun : executeSelect t .all (some (.comparison "id" .equal (toString n.toNat))) s = _ :=
    executeSelect_ok _ ht hk.header_ne_nil rfl
  have hid : isIdColumn "id" = true := by decide
  rw [Table.scan_range hk.width, hk.filter_rowHolds_id hid] at hrun
  exact (answer_of_execute (ofText_selectIdText name n) hrun).1

theorem respond_deleteIdText (ht : s.Holds d t table) (hk : table.Keyed) (name : IsName t)
    (n : UInt64) :
    s.answer (deleteIdText t n) = .ok (.delete (table.rowsNear n).length) ∧
      (s.respond (deleteIdText t n)).2.Holds d t
        ⟨table.header, table.rows.filter fun row => !Table.near n row⟩ := by
  obtain ⟨m, hm, hrun⟩ :=
    executeDelete_ok (some (.comparison "id" .equal (toString n.toNat))) ht hk.header_ne_nil
  have hid : isIdColumn "id" = true := by decide
  rw [hk.remove_id hid] at hm hrun
  rw [← Table.length_rowsNear] at hrun
  obtain ⟨hanswer, hrespond⟩ := answer_of_execute (ofText_deleteIdText name n) hrun
  refine ⟨hanswer, ?_⟩
  rw [hrespond]
  exact holds_of_written ht.1 ((hk.readable ht.tabs).filter_rows _) hm

theorem respond_update_id (ht : s.Holds d t table) (hk : table.Keyed)
    {pairs : List (String × String)}
    (hst : ofText text =
      .ok (.update t pairs (some (.comparison column .equal (toString n.toNat)))))
    (hc : isIdColumn column = true) {a : Answer} (ha : s.answer text = .ok a) :
    a = .update (table.rowsNear n).length ∧
      ∃ change : List String → List String,
        (∀ row, (change row).head? = row.head? ∧ (change row).length = row.length) ∧
        (s.respond text).2.Holds d t
          ⟨table.header, table.rows.map fun row =>
            if Table.near n row then change row else row⟩ := by
  obtain ⟨st, hst', heffect⟩ := effect_of_answer ha
  obtain rfl := Except.ok.inj (hst.symm.trans hst')
  rw [shown_eq, shown_eq] at heffect
  generalize hw : (s.respond text).2 = w at heffect ⊢
  cases heffect with
  | @update e _ _ _ u cells m hu hh hcells hm =>
    obtain ⟨rfl, rfl⟩ := ht.eq hu
    rw [hk.assign_id hc] at hm
    rw [hk.countP_id hc]
    have hset : ∀ cell ∈ cells, cell.1 ≠ 0 ∧ '\t' ∉ cell.2.toList :=
      fun cell hm => (Table.of_mem_assignments hk.first hcells cell hm).imp_right IsCell.tab
    have hchange := Table.foldl_set (P := fun c => '\t' ∉ c.toList) hset
    refine ⟨rfl, fun row => cells.foldl (fun row cell => row.set cell.1 cell.2) row,
      fun row => ⟨(hchange row).1, (hchange row).2.1⟩, ?_⟩
    refine holds_of_written ht.1 ((hk.readable ht.tabs).map_rows fun row => ?_) hm
    split
    · exact hchange row
    · exact ⟨rfl, rfl, fun h => h⟩

/-- A row of a table with keys is among the rows that statements show, change and remove by its id.
These are the rows whose ids have the nearest number of its id, so it is alone among them exactly if
no other id has that number, as none has if the id is below `2 ^ 53`. -/
theorem found_by_id (ht : s.Holds d t table) (hk : table.Keyed) (name : IsName t)
    (hr : row ∈ table.rows) (hn : row.head? = some (toString n.toNat)) :
    s.answer (selectIdText t n) = .ok (.scan table.header (table.rowsNear n)) ∧
      (∀ text pairs column a,
        ofText text =
          .ok (.update t pairs (some (.comparison column .equal (toString n.toNat)))) →
        isIdColumn column = true → s.answer text = .ok a →
        a = .update (table.rowsNear n).length ∧
          ∃ change : List String → List String,
            (∀ row, (change row).head? = row.head? ∧ (change row).length = row.length) ∧
            (s.respond text).2.Holds d t ⟨table.header, table.rows.map fun row =>
              if Table.near n row then change row else row⟩) ∧
      s.answer (deleteIdText t n) = .ok (.delete (table.rowsNear n).length) ∧
      (s.respond (deleteIdText t n)).2.Holds d t
        ⟨table.header, table.rows.filter fun row => !Table.near n row⟩ ∧
      row ∈ table.rowsNear n ∧
      (table.rowsNear n = [row] ↔ ∀ other ∈ table.rows, ∀ m : UInt64,
        other.head? = some (toString m.toNat) → Binary64.ofWord m = Binary64.ofWord n → m = n) ∧
      (n.toNat < 2 ^ 53 → table.rowsNear n = [row]) := by
  obtain ⟨hdelete, hremoved⟩ := respond_deleteIdText ht hk name n
  exact ⟨answer_selectIdText ht hk name n,
    fun _ _ _ _ hst hc ha => respond_update_id ht hk hst hc ha, hdelete, hremoved,
    Table.mem_rowsNear hr hn, hk.rowsNear_eq_singleton_iff hr hn, hk.rowsNear_of_lt hr hn⟩

/-- A table with an id on each side of `2 ^ 53`, of which the lower one is found alone. -/
theorem found_by_id_below :
    let lines := ["id\ta", "9007199254740991\tx", "9007199254740993\ty"]
    let stored : StoredDatabase := { tables := SortedMap.ofList [("t", lines)] }
    let s : Session Memory := ⟨⟨some "d", ∅⟩, ⟨SortedMap.ofList [("d", stored)]⟩⟩
    s.answer (selectIdText "t" 9007199254740991) =
        .ok (.scan ["id", "a"] [["9007199254740991", "x"]]) ∧
      s.answer (deleteIdText "t" 9007199254740991) = .ok (.delete 1) := by
  intro lines stored s
  let table : Table := ⟨["id", "a"], [["9007199254740991", "x"], ["9007199254740993", "y"]]⟩
  have ht : s.Holds "d" "t" table := ⟨rfl, lines, by decide +kernel, by decide +kernel⟩
  have hk : table.Keyed :=
    ⟨rfl, by decide, [9007199254740991, 9007199254740993], by decide +kernel, by decide⟩
  have name : IsName "t" := .inr ⟨by decide, by decide⟩
  have hr : ["9007199254740991", "x"] ∈ table.rows := List.mem_cons_self
  obtain ⟨hselect, -, hdelete, -, -, -, halone⟩ :=
    found_by_id (n := 9007199254740991) ht hk name hr (by decide +kernel)
  rw [halone (by decide +kernel)] at hselect hdelete
  exact ⟨hselect, hdelete⟩

/-- Two ids with one nearest number are found, changed and removed together. -/
theorem not_found_alone_by_id :
    let lines := ["id\ta", "9007199254740992\tx", "9007199254740993\ty"]
    let stored : StoredDatabase := { tables := SortedMap.ofList [("t", lines)] }
    let s : Session Memory := ⟨⟨some "d", ∅⟩, ⟨SortedMap.ofList [("d", stored)]⟩⟩
    let table : Table := ⟨["id", "a"], [["9007199254740992", "x"], ["9007199254740993", "y"]]⟩
    s.Holds "d" "t" table ∧ table.Keyed ∧
      s.answer "SELECT * FROM t WHERE id == 9007199254740993;" =
        .ok (.scan table.header table.rows) ∧
      s.answer "UPDATE t SET a = 'z' WHERE id == 9007199254740993;" = .ok (.update 2) ∧
      s.answer "DELETE FROM t WHERE id == 9007199254740993;" = .ok (.delete 2) := by
  intro lines stored s table
  have hk : table.Keyed :=
    ⟨rfl, by decide, [9007199254740992, 9007199254740993], by decide +kernel, by decide⟩
  exact ⟨⟨rfl, lines, by decide +kernel, by decide +kernel⟩, hk, by decide +kernel,
    by decide +kernel, by decide +kernel⟩

end Tabular.Session
