import Tabular.Proofs.Session.Spared
import Tabular.Proofs.Table.Assignments
import Tabular.Proofs.Table.Lookup

/-! Rows of which a condition holds: the same ones are shown, changed and removed. -/
namespace Tabular

namespace Table

def matching (t : Table) (c : Condition) : List (List String) :=
  t.rows.filter fun row => c.holds t.header row

def others (t : Table) (c : Condition) : Table :=
  ⟨t.header, t.rows.filter fun row => !c.holds t.header row⟩

theorem length_sub_length_others (t : Table) (c : Condition) :
    t.rows.length - (t.others c).rows.length = (t.matching c).length := by
  have hsum := List.length_eq_length_filter_add (l := t.rows) fun row => c.holds t.header row
  rw [matching, others, hsum, Nat.add_sub_cancel]

theorem matching_others (t : Table) (c : Condition) : (t.others c).matching c = [] := by
  rw [matching, others, List.filter_filter, List.filter_eq_nil_iff]
  simp

theorem others_others (t : Table) (c : Condition) : (t.others c).others c = t.others c := by
  simp [others, List.filter_filter]

end Table

namespace Session
open Statement
variable {s s' : Session (Faulty Memory)} {d table : String} {t : Table}

theorem select_all (hreads : s.Reads table) (ht : s.shown.Holds d table t) (hwf : t.WellFormed)
    (condition : Option Condition) :
    (Statement.select table .all condition).execute s =
      .ok (.scan t.header (t.rows.filter (t.rowHolds condition))) s := by
  rw [← Table.scan_range hwf.width]
  exact executeSelect_eq_ok.2 ⟨hreads, d, t, _, ht, hwf.header_ne_nil, rfl, rfl, rfl⟩

theorem replaces_of_update (hs : s.Reachable) {pairs : List (String × String)}
    {condition : Option Condition} {a : Answer}
    (hrun : (Statement.update table pairs condition).execute s = .ok a s') :
    ∃ d t cells, t.WellFormed ∧ (t.assigned condition pairs).WellFormed ∧
      t.assignments table pairs = .ok cells ∧
      s.Replaces d table t (t.assigned condition pairs) s' ∧
      a = .update (t.rows.countP (t.rowHolds condition)) := by
  obtain ⟨d, t, cells, hc, hreplaces, rfl⟩ := executeUpdate_eq_ok.1 hrun
  have hwf := hreplaces.old.wellFormed hs.wellStored hreplaces.titled
  have hnew := hwf.assign (Table.of_mem_assignments hwf.header.first hc) condition
  rw [hwf.assign_eq hc] at hreplaces hnew
  exact ⟨d, t, cells, hwf, hnew, hc, hreplaces, rfl⟩

/-- The rows that match are counted and assigned, and the others stay. -/
theorem of_update (hs : s.Reachable) (ht : s.shown.Holds d table t)
    {pairs : List (String × String)} {condition : Option Condition} {a : Answer}
    (hrun : (Statement.update table pairs condition).execute s = .ok a s') :
    a = .update (t.rows.filter (t.rowHolds condition)).length ∧
      s'.shown.Holds d table (t.assigned condition pairs) := by
  obtain ⟨e, u, cells, -, hnew, -, hreplaces, rfl⟩ := replaces_of_update hs hrun
  obtain ⟨rfl, rfl⟩ := ht.eq hreplaces.old
  rw [List.countP_eq_length_filter]
  exact ⟨rfl, hreplaces.holds hnew.readable⟩

section Deletion
variable (hreads : s.Reads table) (hw : s.storage.Spares .writeTable table)
  (ht : s.shown.Holds d table t)
include hreads hw ht

/-- The rows of which a condition holds are removed, and then there are none left. -/
theorem delete_matching (hwf : t.WellFormed) (c : Condition) :
    ∃ s', (Statement.delete table (some c)).execute s = .ok (.delete (t.matching c).length) s' ∧
      s'.shown.Holds d table (t.others c) ∧
      (Statement.select table .all (some c)).execute s' = .ok (.scan t.header []) s' ∧
      (Statement.delete table (some c)).execute s' = .ok (.delete 0) s' := by
  have hdelete {s s' : Session (Faulty Memory)} {t : Table}
      (h : s.Replaces d table t (t.others c) s') :
      (Statement.delete table (some c)).execute s = .ok (.delete (t.matching c).length) s' := by
    rw [← t.length_sub_length_others c]
    exact executeDelete_eq_ok.2 ⟨d, t, h, rfl⟩
  have hothers : (t.others c).WellFormed := hwf.remove (some c)
  obtain ⟨s', hreplaces⟩ := Replaces.exists_of_holds hreads hw ht hwf.header_ne_nil (t.others c)
  have hagain := hreplaces.again hothers.readable
  have hnone : (t.others c).rows.filter ((t.others c).rowHolds (some c)) = [] :=
    t.matching_others c
  have hselect := select_all hagain.reads hagain.old hothers (some c)
  -- Nothing matches any more, so the second deletion writes the same table.
  have hsecond : s'.Replaces d table (t.others c) ((t.others c).others c) s' := by
    rwa [t.others_others c]
  have hempty := hdelete hsecond
  rw [hnone] at hselect
  rw [t.matching_others c] at hempty
  exact ⟨s', hdelete hreplaces, hagain.old, hselect, hempty⟩

/-- Without a condition the lines of a table are written as they are. -/
theorem delete_none (hs : s.Reachable) (hh : t.header ≠ []) :
    (Statement.delete table none).execute s = .ok (.delete 0) s := by
  obtain ⟨s', hreplaces⟩ := Replaces.exists_of_holds hreads hw ht hh t
  have hrun : (Statement.delete table none).execute s =
      .ok (.delete (t.rows.length - t.rows.length)) s' :=
    executeDelete_eq_ok.2 ⟨d, t, hreplaces, rfl⟩
  have hsame := hreplaces.eq_of_lines?_eq (ht.lines?_eq hs.wellStored)
  rwa [Nat.sub_self, hsame] at hrun

end Deletion

/-- Statements with the same condition show, change and remove the same rows. Without a condition
all rows are shown and changed, and none are removed. -/
theorem rows_matched_alike (hs : s.Reachable) (ht : s.shown.Holds d table t) (hh : t.header ≠ [])
    (hreads : s.Reads table) :
    (∀ c : Condition,
      (Statement.select table .all (some c)).execute s = .ok (.scan t.header (t.matching c)) s ∧
      (∀ pairs a s', (Statement.update table pairs (some c)).execute s = .ok a s' →
        a = .update (t.matching c).length ∧
        s'.shown.Holds d table ⟨t.header, t.rows.map fun row =>
          if c.holds t.header row then assignRow t.header pairs row else row⟩) ∧
      (s.storage.Spares .writeTable table → ∃ s',
        (Statement.delete table (some c)).execute s = .ok (.delete (t.matching c).length) s' ∧
        s'.shown.Holds d table ⟨t.header, t.rows.filter fun row => !c.holds t.header row⟩ ∧
        (Statement.select table .all (some c)).execute s' = .ok (.scan t.header []) s' ∧
        (Statement.delete table (some c)).execute s' = .ok (.delete 0) s')) ∧
    (Statement.select table .all none).execute s = .ok (.scan t.header t.rows) s ∧
    (∀ pairs a s', (Statement.update table pairs none).execute s = .ok a s' →
      a = .update t.rows.length ∧
      s'.shown.Holds d table ⟨t.header, t.rows.map (assignRow t.header pairs)⟩) ∧
    (s.storage.Spares .writeTable table →
      (Statement.delete table none).execute s = .ok (.delete 0) s) := by
  have hwf := ht.wellFormed hs.wellStored hh
  have hall : t.rows.filter (t.rowHolds none) = t.rows := List.filter_eq_self.2 fun _ _ => rfl
  refine ⟨fun c => ⟨?_, fun _ _ _ hrun => of_update hs ht hrun, fun hw => ?_⟩, ?_,
    fun _ _ _ hrun => ?_, fun hw => delete_none hreads hw ht hs hh⟩
  · exact select_all hreads ht hwf (some c)
  · exact delete_matching hreads hw ht hwf c
  · have hselect := select_all hreads ht hwf none
    rwa [hall] at hselect
  · have hupdate := of_update hs ht hrun
    rwa [hall] at hupdate

/-- A condition on two columns that holds of the first and the last of three rows. -/
theorem rows_matched_alike_two_columns :
    let s : Session (Faulty Memory) := (Sharing.acts ⟨fun _ => {}, { base := {} }⟩
      [(0, .run "CREATE DATABASE d;"), (0, .run "USE d;"), (0, .run "CREATE TABLE t (a);"),
        (0, .run "INSERT INTO t VALUES ('x');"), (0, .run "INSERT INTO t VALUES ('y');"),
        (0, .run "INSERT INTO t VALUES (' ');"), (0, .inject [⟨.saveIdMarks, none⟩])]).session 0
    let c : Condition := .or (.comparison "A" .equal "X") (.comparison "id" .greater "2")
    s.Reachable ∧
      (Statement.select "t" .all (some c)).execute s =
        .ok (.scan ["id", "a"] [["1", "x"], ["3", " "]]) s ∧
      (∃ s', (Statement.delete "t" (some c)).execute s = .ok (.delete 2) s' ∧
        s'.shown.Holds "d" "t" ⟨["id", "a"], [["2", "y"]]⟩) ∧
      (Statement.delete "t" none).execute s = .ok (.delete 0) s := by
  intro s c
  let t : Table := ⟨["id", "a"], [["1", "x"], ["2", "y"], ["3", " "]]⟩
  have hs : s.Reachable := ⟨_, _, _, _, rfl⟩
  let lines := ["id\ta", "1\tx", "2\ty", "3\t "]
  have hstate : s.context.database = some "d" ∧ s.storage.base.lines? "d" "t" = some lines ∧
      s.storage.Spares .tableExists "t" ∧ s.storage.Spares .readTable "t" ∧
      s.storage.Spares .writeTable "t" := by
    decide +kernel
  clear_value s
  obtain ⟨hd, hlines, hexists, hread, hw⟩ := hstate
  have hreads : s.Reads "t" := ⟨hexists, hread⟩
  have ht : s.shown.Holds "d" "t" t := ⟨hd, lines, hlines, by decide +kernel⟩
  have hmatching : t.matching c = [["1", "x"], ["3", " "]] := by decide +kernel
  have hothers : t.rows.filter (fun row => !c.holds t.header row) = [["2", "y"]] := by
    decide +kernel
  obtain ⟨hcondition, -, -, hnone⟩ := rows_matched_alike hs ht (by decide) hreads
  obtain ⟨hselect, -, hdelete⟩ := hcondition c
  obtain ⟨s', hrun, hleft, -, -⟩ := hdelete hw
  rw [hmatching] at hselect hrun
  rw [hothers] at hleft
  exact ⟨hs, hselect, ⟨s', hrun, hleft⟩, hnone hw⟩

/-- A change of rows keeps the columns, the number and the order of the rows, and their ids. Each
column of the rows that matched before it has the last value that is assigned to it, if there is
one, and the same change once more leaves everything as it is. -/
theorem update_assigns_last (hs : s.Reachable) {pairs : List (String × String)}
    {condition : Option Condition} {a : Answer}
    (hrun : (Statement.update table pairs condition).execute s = .ok a s') :
    ∃ d old new, s.shown.Holds d table old ∧ s'.shown.Holds d table new ∧
      (∀ e u, s'.storage.base.lines? e u =
        if e = d ∧ u = table then some new.toLines else s.storage.base.lines? e u) ∧
      new.header = old.header ∧ new.rows.length = old.rows.length ∧
      (∀ pair ∈ pairs, isIdColumn pair.1 = false ∧
        ∃ column ∈ old.header, Text.eqCaseless column pair.1 = true) ∧
      (∀ (i : Nat) (row : List String), old.rows[i]? = some row → ∃ row', new.rows[i]? = some row' ∧
        row'.length = row.length ∧ row'.head? = row.head? ∧
        (old.rowHolds condition row = false → row' = row) ∧
        (old.rowHolds condition row = true → ∀ (j : Nat) (column : String),
          old.header[j]? = some column → row'[j]? = (lastAssigned? pairs column).or row[j]?)) ∧
      ∃ a', (Statement.update table pairs condition).execute s' = .ok a' s' := by
  obtain ⟨d, t, cells, hwf, hnew, hc, hreplaces, -⟩ := replaces_of_update hs hrun
  have hc' := (t.assignments_assigned table condition pairs).trans hc
  have hagain : s'.Replaces d table (t.assigned condition pairs)
      ((t.assigned condition pairs).assign condition cells) s' := by
    rw [hnew.assign_eq hc, t.assigned_assigned]
    exact hreplaces.again hnew.readable
  have hsecond := executeUpdate_eq_ok.2 ⟨d, t.assigned condition pairs, cells, hc', hagain, rfl⟩
  have hrows (i : Nat) (row : List String) (hi : t.rows[i]? = some row) :
      (t.assigned condition pairs).rows[i]? = some (t.assignedRow condition pairs row) := by
    rw [Table.assigned, List.getElem?_map, hi]
    rfl
  refine ⟨d, t, t.assigned condition pairs, hreplaces.old, hreplaces.holds hnew.readable,
    hreplaces.lines?_eq, rfl, List.length_map _, Table.exists_column_of_assignments hc,
    fun i row hi => ?_, _, hsecond⟩
  have hr : row ∈ t.rows := List.mem_of_getElem? hi
  exact ⟨t.assignedRow condition pairs row, hrows i row hi, hwf.of_assignedRow hc condition hr⟩

/-- A change under a condition on the column that it assigns twice, in different case. -/
theorem update_assigns_last_twice :
    let s : Session (Faulty Memory) := (Sharing.acts ⟨fun _ => {}, { base := {} }⟩
      [(0, .run "CREATE DATABASE d;"), (0, .run "USE d;"), (0, .run "CREATE TABLE t (a);"),
        (0, .run "INSERT INTO t VALUES ('x');"), (0, .run "INSERT INTO t VALUES ('y');")]).session 0
    let st : Statement :=
      .update "t" [("a", "'lost'"), ("A", "'z'")] (some (.comparison "a" .equal "x"))
    s.Reachable ∧ ∃ s', st.execute s = .ok (.update 1) s' ∧
      s'.storage.base.lines? "d" "t" = some ["id\ta", "1\tz", "2\ty"] ∧
      ∃ a, st.execute s' = .ok a s' := by
  intro s st
  have hs : s.Reachable := ⟨_, _, _, _, rfl⟩
  have hok : (match st.execute s with
      | .ok a s' => some (a, s'.storage.base.lines? "d" "t")
      | .error _ _ => none) =
        some (.update 1, some ["id\ta", "1\tz", "2\ty"]) := by
    decide +kernel
  clear_value s
  cases hrun : st.execute s with
  | error e s' =>
    rw [hrun] at hok
    cases hok
  | ok a s' =>
    rw [hrun] at hok
    obtain ⟨rfl, hlines⟩ := Prod.mk.inj (Option.some.inj hok)
    obtain ⟨d, old, new, -, -, -, -, -, -, -, a, hagain⟩ := update_assigns_last hs hrun
    exact ⟨hs, s', rfl, hlines, a, hagain⟩

end Session

end Tabular
