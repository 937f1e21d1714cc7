import Tabular.Proofs.Session.Spared
import Tabular.Proofs.Table.Joining

/-! Joins of stored tables. -/
namespace Tabular

namespace Session
open Statement SessionM
variable {s : Session (Faulty Memory)} {d e left right a b : String} {l r : Table} {i j : Nat}

theorem execute_join (hleft : s.Reads left) (hl : s.shown.Holds d left l) (hlh : l.header ≠ [])
    (hright : s.Reads right) (hr : s.shown.Holds e right r) (hrh : r.header ≠ [])
    (hi : findColumn? l.header a = some i) (hj : findColumn? r.header b = some j) :
    (Statement.join left right a b).execute s = .ok (l.join r left right i j) s := by
  rw [Statement.execute, executeJoin, loadTitled_bind hleft hl hlh]
  dsimp only
  rw [loadTitled_bind hright hr hrh]
  dsimp only
  rw [bind_ok _ (ofExcept_ok s (Table.columnIndex_of_findColumn? hi left)),
    bind_ok _ (ofExcept_ok s (Table.columnIndex_of_findColumn? hj right))]
  rfl

/-- A join shows the pairs of rows whose keys match, in the order of the left rows and then of the
right ones, under columns that are as many as the cells of each row. There are as many pairs with
the tables and their keys swapped, and nothing is stored. -/
theorem join_shows_matches (hs : s.Reachable)
    (hl : s.shown.Holds d left l) (hlh : l.header ≠ []) (hleft : s.Reads left)
    (hr : s.shown.Holds d right r) (hrh : r.header ≠ []) (hright : s.Reads right)
    (hi : findColumn? l.header a = some i) (hj : findColumn? r.header b = some j) :
    let columns := l.header.headD "" ::
      ((cellsOff (fun k => k == 0 || k == i) l.header).map (left ++ "." ++ ·) ++
        (cellsOff (· == j) r.header).map (right ++ "." ++ ·))
    let rows := ((l.rows ×ˢ r.rows).filter (rowsMatch i j)).map fun pair =>
      pair.1.headD "" :: (cellsOff (fun k => k == 0 || k == i) pair.1 ++ cellsOff (· == j) pair.2)
    (Statement.join left right a b).execute s = .ok (.scan columns rows) s ∧
      (∀ row ∈ rows, row.length = columns.length) ∧
      rows.length = (l.rows ×ˢ r.rows).countP (rowsMatch i j) ∧
      ∃ columns' rows',
        (Statement.join right left b a).execute s = .ok (.scan columns' rows') s ∧
          rows'.length = rows.length := by
  intro columns rows
  have hlwf := hl.wellFormed hs.wellStored hlh
  have hrwf := hr.wellFormed hs.wellStored hrh
  have hjoin := execute_join hleft hl hlh hright hr hrh hi hj
  have hswapped := execute_join hright hr hrh hleft hl hlh hj hi
  rw [hlwf.join_eq hrwf] at hjoin
  rw [hrwf.join_eq hlwf] at hswapped
  refine ⟨hjoin, fun row hrow => ?_, ?_, _, _, hswapped, ?_⟩
  · obtain ⟨pair, hpair, rfl⟩ := List.mem_map.1 hrow
    exact hlwf.length_joinedRow hrwf left right hpair
  · rw [List.length_map, List.countP_eq_length_filter]
  · rw [List.length_map, List.length_map, Table.length_matchedRows_swap]
    rfl

/-- A table is joined with itself, with two spellings of the id of one row. -/
theorem join_shows_matches_itself :
    let s : Session (Faulty Memory) := (Sharing.acts ⟨fun _ => {}, { base := {} }⟩
      [(0, .run "CREATE DATABASE d;"), (0, .run "USE d;"), (0, .run "CREATE TABLE t (a);"),
        (0, .run "INSERT INTO t VALUES ('2');"), (0, .run "INSERT INTO t VALUES ('x');"),
        (0, .run "INSERT INTO t VALUES ('+2');")]).session 0
    s.Reachable ∧
      (Statement.join "t" "t" "A" "id").execute s =
        .ok (.scan ["id", "t.a"] [["1", "x"], ["3", "x"]]) s ∧
      ∃ columns rows, (Statement.join "t" "t" "id" "A").execute s = .ok (.scan columns rows) s ∧
        rows.length = 2 := by
  intro s
  have hs : s.Reachable := ⟨_, _, _, _, rfl⟩
  let t : Table := ⟨["id", "a"], [["1", "2"], ["2", "x"], ["3", "+2"]]⟩
  let lines := ["id\ta", "1\t2", "2\tx", "3\t+2"]
  have hstate : s.context.database = some "d" ∧ s.storage.base.lines? "d" "t" = some lines ∧
      s.storage.Spares .tableExists "t" ∧ s.storage.Spares .readTable "t" := by
    decide +kernel
  clear_value s
  obtain ⟨hd, hlines, hexists, hread⟩ := hstate
  have hreads : s.Reads "t" := ⟨hexists, hread⟩
  have ht : s.shown.Holds "d" "t" t := ⟨hd, lines, hlines, by decide +kernel⟩
  have hfound : findColumn? t.header "A" = some 1 ∧ findColumn? t.header "id" = some 0 := by
    decide +kernel
  have hpairs : (t.rows ×ˢ t.rows).filter (rowsMatch 1 0) =
      [(["1", "2"], ["2", "x"]), (["3", "+2"], ["2", "x"])] := by
    decide +kernel
  obtain ⟨hjoin, -, -, columns, rows, hswapped, hlength⟩ :=
    join_shows_matches hs ht (by decide) hreads ht (by decide) hreads hfound.1 hfound.2
  rw [hpairs] at hjoin hlength
  exact ⟨hs, hjoin, columns, rows, hswapped, hlength⟩

end Session

end Tabular
