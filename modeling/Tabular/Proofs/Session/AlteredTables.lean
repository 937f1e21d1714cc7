import Tabular.Proofs.Session.Spared
import Tabular.Proofs.Table.Columns

/-! Tables whose columns are changed: what statements answer to then, and how a change is undone. -/
namespace Tabular

namespace Statement
open Session SessionM
variable {s s' : Session (Faulty Memory)} {d table x : String} {t : Table}

/-- The answer to a statement or the error that it fails with, apart from the session after it. -/
def result {σ : Type} [Storage σ] (st : Statement) (s : Session σ) : Except Error Answer :=
  match st.execute s with
  | .ok a _ => .ok a
  | .error e _ => .error e

theorem result_of_execute {st : Statement} {r : Except Error Answer}
    (h : st.execute s = (ofExcept r : SessionM (Faulty Memory) Answer) s) : st.result s = r := by
  rw [result, h, ofExcept_apply]
  cases r <;> rfl

section Loaded
variable (hreads : s.Reads table) (ht : s.shown.Holds d table t) (hh : t.header ≠ [])
include hreads ht hh

/-- A selection is answered, or fails, without a change of the session. -/
theorem execute_select (shown : Projection) (condition : Option Condition) :
    (Statement.select table shown condition).execute s =
      (ofExcept (t.selected table shown condition) : SessionM (Faulty Memory) Answer) s := by
  rw [execute, executeSelect, loadTitled_bind hreads ht hh, Table.selected]
  dsimp only
  cases t.projected table shown <;> rfl

theorem execute_update_error {pairs : List (String × String)} {e : Error}
    (he : t.assignments table pairs = .error e) (condition : Option Condition) :
    (Statement.update table pairs condition).execute s = .error e s := by
  rw [execute, executeUpdate, loadTitled_bind hreads ht hh]
  dsimp only
  rw [he]
  rfl

end Loaded

/-- A column is added or dropped if it is not that of the ids, and the table is stored. -/
theorem executeAlter_eq_ok (ht : s.shown.Holds d table t) (hh : t.header ≠ [])
    {what : ColumnChange} {a : Answer} :
    executeAlter table what x s = .ok a s' ↔ isIdColumn x = false ∧ ∃ new,
      t.Alters x what new ∧ s.Replaces d table t new s' ∧ a = .alter table := by
  rw [executeAlter]
  cases what with
  | add =>
    simp only [bind_eq_ok, loadTable_eq_ok, refuse_eq_ok, change_eq_ok, pure_eq_ok]
    constructor
    · intro h
      obtain ⟨⟨e, u⟩, _, ⟨hreads, hu, rfl⟩, hid, hnew, _, _, ⟨rfl, rfl⟩, h⟩ := h
      obtain ⟨_, _, ⟨hw, m, hm, rfl⟩, rfl, rfl⟩ := h
      obtain ⟨rfl, rfl⟩ := ht.eq hu
      have hnone : findColumn? t.header x = none := by simpa using hnew
      exact ⟨Bool.eq_false_iff.2 hid, _, .add hnone, ⟨hreads, hw, ht, hh, m, hm, rfl⟩, rfl⟩
    · rintro ⟨hid, _, hadded, ⟨hreads, hw, -, -, m, hm, rfl⟩, rfl⟩
      cases hadded with
      | add hnone =>
        exact ⟨(d, t), s, ⟨hreads, ht, rfl⟩, Bool.eq_false_iff.1 hid, by simp [hnone], _, s,
          ⟨rfl, rfl⟩, (), _, ⟨hw, m, hm, rfl⟩, rfl, rfl⟩
  | drop =>
    simp only [bind_map_left, bind_eq_ok, loadTable_eq_ok, refuse_eq_ok, ofExcept_eq_ok,
      change_eq_ok, pure_eq_ok]
    constructor
    · intro h
      obtain ⟨⟨e, u⟩, _, ⟨hreads, hu, rfl⟩, hid, k, _, ⟨hk, rfl⟩, h⟩ := h
      obtain ⟨_, _, ⟨hw, m, hm, rfl⟩, rfl, rfl⟩ := h
      obtain ⟨rfl, rfl⟩ := ht.eq hu
      have hfound := Table.findColumn?_of_columnIndex hk
      exact ⟨Bool.eq_false_iff.2 hid, _, .drop hfound, ⟨hreads, hw, ht, hh, m, hm, rfl⟩, rfl⟩
    · rintro ⟨hid, _, hdropped, ⟨hreads, hw, -, -, m, hm, rfl⟩, rfl⟩
      cases hdropped with
      | drop hk =>
        have hindex := Table.columnIndex_of_findColumn? hk table
        exact ⟨(d, t), s, ⟨hreads, ht, rfl⟩, Bool.eq_false_iff.1 hid, _, s, ⟨hindex, rfl⟩, (), _,
          ⟨hw, m, hm, rfl⟩, rfl, rfl⟩

end Statement

namespace Session
open Statement
variable {s s' : Session (Faulty Memory)} {d table text x : String} {t : Table} {a : Answer}

/-- A column that a text adds or drops leaves a well-formed table in the place of another. -/
theorem replaces_of_alter (hs : s.Reachable) (ht : s.shown.Holds d table t) (hh : t.header ≠ [])
    {what : ColumnChange} (hst : ofText text = .ok (.alter table what x))
    (hrun : execute text s = .ok a s') :
    isIdColumn x = false ∧ ∃ new, t.WellFormed ∧ new.WellFormed ∧ t.Alters x what new ∧
      s.Replaces d table t new s' ∧ s'.shown.Holds d table new := by
  have hwf := ht.wellFormed hs.wellStored hh
  have hcell : IsCell x := (proper_of_ofText hst).2
  rw [execute_of_ofText hst] at hrun
  obtain ⟨hid, new, halters, hreplaces, -⟩ := (executeAlter_eq_ok ht hh).1 hrun
  have hnew := halters.wellFormed hwf hid hcell
  exact ⟨hid, new, hwf, hnew, halters, hreplaces, hreplaces.holds hnew.readable⟩

section Missing
variable (hreads : s.Reads table) (ht : s.shown.Holds d table t) (hh : t.header ≠ [])
  {column : String} (hm : findColumn? t.header column = none)
include hreads ht hh hm

theorem select_missing {names : List String} (hc : column ∈ names) (condition : Option Condition) :
    ∃ cause, (Statement.select table (.columns names) condition).execute s =
      .error (.schema cause) s := by
  obtain ⟨cause, he⟩ := Table.projected_error hm hc table
  refine ⟨cause, ?_⟩
  rw [execute_select hreads ht hh, Table.selected, he]
  rfl

theorem update_missing {pairs : List (String × String)} (hc : column ∈ pairs.map Prod.fst)
    (condition : Option Condition) :
    ∃ cause, (Statement.update table pairs condition).execute s = .error (.schema cause) s := by
  obtain ⟨⟨_, literal⟩, hpair, rfl⟩ := List.mem_map.1 hc
  obtain ⟨cause, he⟩ := Table.assignments_error hm hpair table
  exact ⟨cause, execute_update_error hreads ht hh he condition⟩

end Missing

/-- What is answered to a selection that does not mention a column is the same before and after it
is added or dropped. A column that is added stands at the end, with null cells; one that is dropped
is found no more, neither by selections and assignments nor by comparisons. -/
theorem alter_keeps_other_columns (hs : s.Reachable) (ht : s.shown.Holds d table t)
    (hh : t.header ≠ []) {what : ColumnChange} (hst : ofText text = .ok (.alter table what x))
    (hrun : execute text s = .ok a s') :
    (∀ names condition, (∀ column ∈ names, Text.eqCaseless column x = false) →
      (∀ c ∈ condition, ¬c.Mentions x) →
      (Statement.select table (.columns names) condition).result s' =
        (Statement.select table (.columns names) condition).result s) ∧
    (what = .add → s'.shown.Holds d table ⟨t.header ++ [x], t.rows.map (· ++ [nullCell])⟩ ∧
      ∀ id column, isIdColumn id = true → Text.eqCaseless x column = true →
        (Statement.select table (.columns [id, column]) none).result s' =
          .ok (.scan [idColumn, x] (t.rows.map fun row => [row.headD "", nullCell]))) ∧
    (what = .drop → ∃ k, findColumn? t.header x = some k ∧
      s'.shown.Holds d table ⟨t.header.eraseIdx k, t.rows.map (·.eraseIdx k)⟩ ∧
      ∀ column, Text.eqCaseless x column = true →
        (∀ names condition, column ∈ names → ∃ cause,
          (Statement.select table (.columns names) condition).execute s' =
            .error (.schema cause) s') ∧
        (∀ pairs condition, column ∈ pairs.map Prod.fst → ∃ cause,
          (Statement.update table pairs condition).execute s' = .error (.schema cause) s') ∧
        ∀ op value row,
          (Condition.comparison column op value).holds (t.header.eraseIdx k) row = false) := by
  obtain ⟨-, new, hwf, hnew, halters, hreplaces, hholds⟩ := replaces_of_alter hs ht hh hst hrun
  have hreads := hreplaces.spared.1
  have hselect := execute_select hreads hholds hnew.header_ne_nil
  refine ⟨fun names condition hn hc => ?_, ?_, ?_⟩
  · rw [result_of_execute (hselect _ _), halters.selected_eq hwf hn hc,
      result_of_execute (execute_select hreplaces.reads ht hh _ _)]
  · rintro rfl
    cases halters with
    | add hnone =>
      refine ⟨hwf.addColumn_eq x ▸ hholds, fun id column hid hc => ?_⟩
      rw [result_of_execute (hselect _ _), hwf.selected_addColumn hid hnone hc]
  · rintro rfl
    cases halters with
    | @drop k hk =>
      rw [hwf.dropColumn_eq (lt_length_of_findColumn? hk)] at hnew hholds
      refine ⟨k, hk, hholds, fun column hc => ?_⟩
      have hmissing := (findColumn?_congr hc _).symm.trans
        (findColumn?_eraseIdx_self hwf.header.distinct hk)
      have hh' := hnew.header_ne_nil
      exact ⟨fun _ condition hn => select_missing hreads hholds hh' hmissing hn condition,
        fun _ condition hp => update_missing hreads hholds hh' hmissing hp condition,
        Condition.not_holds_of_missing hmissing⟩

/-- Another column is shown, under a condition on it, without the one before it, and with a new one
after it. -/
theorem alter_keeps_other_columns_both_ways :
    let s : Session (Faulty Memory) := (Sharing.acts ⟨fun _ => {}, { base := {} }⟩
      [(0, .run "CREATE DATABASE d;"), (0, .run "USE d;"), (0, .run "CREATE TABLE t (a, b);"),
        (0, .run "INSERT INTO t VALUES ('x', '1');"),
        (0, .run "INSERT INTO t VALUES ('y', '2');")]).session 0
    let shown : Statement := .select "t" (.columns ["B"]) (some (.comparison "b" .greater "1"))
    s.Reachable ∧
      (∃ s', execute "ALTER TABLE t DROP A;" s = .ok (.alter "t") s' ∧
        shown.result s' = .ok (.scan ["b"] [["2"]]) ∧
        ∃ cause, (Statement.select "t" (.columns ["b", "a"]) none).execute s' =
          .error (.schema cause) s') ∧
      ∃ s', execute "ALTER TABLE t ADD x;" s = .ok (.alter "t") s' ∧
        shown.result s' = .ok (.scan ["b"] [["2"]]) ∧
        (Statement.select "t" (.columns ["id", "X"]) none).result s' =
          .ok (.scan ["id", "x"] [["1", "NULL"], ["2", "NULL"]]) := by
  intro s shown
  have hs : s.Reachable := ⟨_, _, _, _, rfl⟩
  let t : Table := ⟨["id", "a", "b"], [["1", "x", "1"], ["2", "y", "2"]]⟩
  let lines := ["id\ta\tb", "1\tx\t1", "2\ty\t2"]
  have hstate : s.context.database = some "d" ∧ s.storage.base.lines? "d" "t" = some lines ∧
      shown.result s = .ok (.scan ["b"] [["2"]]) ∧
      s.answer "ALTER TABLE t DROP A;" = .ok (.alter "t") ∧
      s.answer "ALTER TABLE t ADD x;" = .ok (.alter "t") := by
    decide +kernel
  clear_value s
  obtain ⟨hd, hlines, hshown, hdrop, hadd⟩ := hstate
  have ht : s.shown.Holds "d" "t" t := ⟨hd, lines, hlines, by decide +kernel⟩
  have hdropped : Statement.ofText "ALTER TABLE t DROP A;" = .ok (.alter "t" .drop "A") := by
    decide +kernel
  have hadded : Statement.ofText "ALTER TABLE t ADD x;" = .ok (.alter "t" .add "x") := by
    decide +kernel
  obtain ⟨hkept, -, hmissing⟩ :=
    alter_keeps_other_columns hs ht (by decide) hdropped (respond_of_answer hdrop)
  obtain ⟨hkept', hnew, -⟩ :=
    alter_keeps_other_columns hs ht (by decide) hadded (respond_of_answer hadd)
  obtain ⟨_, -, -, hnone⟩ := hmissing rfl
  obtain ⟨hselect, -, -⟩ := hnone "a" (by decide +kernel)
  have hother {x : String} (hb : Text.eqCaseless "B" x = false ∧ Text.eqCaseless "b" x = false) :
      (∀ column ∈ ["B"], Text.eqCaseless column x = false) ∧
        ∀ c ∈ some (Condition.comparison "b" .greater "1"), ¬c.Mentions x := by
    refine ⟨by simpa using hb.1, fun c hc => ?_⟩
    cases hc
    exact Bool.eq_false_iff.1 hb.2
  obtain ⟨hn, hc⟩ := hother (x := "A") (by decide +kernel)
  obtain ⟨hn', hc'⟩ := hother (x := "x") (by decide +kernel)
  exact ⟨hs,
    ⟨_, respond_of_answer hdrop, (hkept _ _ hn hc).trans hshown, hselect _ none (by decide)⟩,
    ⟨_, respond_of_answer hadd, (hkept' _ _ hn' hc').trans hshown,
      (hnew rfl).2 "id" "X" (by decide +kernel) (by decide +kernel)⟩⟩

/-- A column that has been added is dropped by its name in any case of ASCII letters, which leaves
the whole session as it was: all lines that it stores and all ids that it hands out next. -/
theorem add_drop_restores (hs : s.Reachable) (ht : s.shown.Holds d table t) (hh : t.header ≠ [])
    (hst : ofText text = .ok (.alter table .add x)) (hrun : execute text s = .ok a s')
    {column : String} (hc : Text.eqCaseless x column = true) :
    (Statement.alter table .drop column).execute s' = .ok (.alter table) s := by
  obtain ⟨hid, new, hwf, hnew, halters, hreplaces, hholds⟩ := replaces_of_alter hs ht hh hst hrun
  have hid' : isIdColumn column = false := by
    rw [Bool.eq_false_iff] at hid ⊢
    exact fun he => hid (Text.eqCaseless_trans hc he)
  have hback := halters.undo hwf hnew hc
  obtain ⟨hreads, hwrites⟩ := hreplaces.spared
  obtain ⟨s'', hput⟩ :=
    Replaces.exists_of_holds hreads hwrites hholds hnew.header_ne_nil t
  have hsame : s'' = s := hreplaces.undo hput (ht.lines?_eq hs.wellStored)
  rw [hsame] at hput
  exact (executeAlter_eq_ok hholds hnew.header_ne_nil).2 ⟨hid', t, hback, hput, rfl⟩

/-- A column is added to a row with a null cell and an empty one, and dropped in another case. -/
theorem add_drop_restores_null_and_empty :
    let s : Session (Faulty Memory) := (Sharing.acts ⟨fun _ => {}, { base := {} }⟩
      [(0, .run "CREATE DATABASE d;"), (0, .run "USE d;"), (0, .run "CREATE TABLE t (a, b);"),
        (0, .run "INSERT INTO t VALUES ('NULL', '');")]).session 0
    s.Reachable ∧ s.storage.base.lines? "d" "t" = some ["id\ta\tb", "1\tNULL\t"] ∧
      ∃ s', execute "ALTER TABLE t ADD x;" s = .ok (.alter "t") s' ∧
        (Statement.alter "t" .drop "X").execute s' = .ok (.alter "t") s := by
  intro s
  have hs : s.Reachable := ⟨_, _, _, _, rfl⟩
  let t : Table := ⟨["id", "a", "b"], [["1", "NULL", ""]]⟩
  let lines := ["id\ta\tb", "1\tNULL\t"]
  have hstate : s.context.database = some "d" ∧ s.storage.base.lines? "d" "t" = some lines ∧
      s.answer "ALTER TABLE t ADD x;" = .ok (.alter "t") := by
    decide +kernel
  clear_value s
  obtain ⟨hd, hlines, hadd⟩ := hstate
  have ht : s.shown.Holds "d" "t" t := ⟨hd, lines, hlines, by decide +kernel⟩
  have hadded : Statement.ofText "ALTER TABLE t ADD x;" = .ok (.alter "t" .add "x") := by
    decide +kernel
  have hrun := respond_of_answer hadd
  exact ⟨hs, hlines, _, hrun,
    add_drop_restores hs ht (by decide) hadded hrun (by decide +kernel)⟩

end Session

end Tabular
