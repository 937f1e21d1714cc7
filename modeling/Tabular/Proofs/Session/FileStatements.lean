import Tabular.Proofs.Session.Agreement

/-! Each statement does over the files of a memory what it does over the memory. -/
namespace Tabular
open Files

section Parts
open Session
variable {α : Type} {v : Session Memory}

theorem agrees_loadTable (hv : v.Bounded) {table : String} (ht : FitsTable table) :
    Agrees (loadTable table) (loadTable table) v := by
  apply agrees_requireDatabase_bind
  intro d hd
  have hmarks := hv.regular.active d hd
  apply agrees_ask_bind (q := .tableExists d table) hv ⟨hmarks, ht⟩
  intro there _
  apply agrees_refuse_bind
  intro _
  apply agrees_ask_bind (q := .readTable d table) hv ⟨hmarks, ht⟩
  intro lines _
  exact agrees_pure _

theorem agrees_loadTable_bind (hv : v.Bounded) {table : String} (ht : FitsTable table)
    {f : String × Table → SessionM FileTree α} {g : String × Table → SessionM Memory α}
    (hf : ∀ d t, v.Holds d table t → Agrees (f (d, t)) (g (d, t)) v) :
    Agrees (loadTable table >>= f) (loadTable table >>= g) v := by
  apply agrees_bind (agrees_loadTable hv ht)
  rintro ⟨d, t⟩ w hw
  obtain ⟨rfl, ht⟩ := (Statement.does_loadTable table).of_ok hw
  exact hf d t ht

theorem agrees_loadTitled_bind (hv : v.Bounded) {table : String} (ht : FitsTable table)
    {f : String × Table → SessionM FileTree α} {g : String × Table → SessionM Memory α}
    (hf : ∀ d t, v.Holds d table t → Agrees (f (d, t)) (g (d, t)) v) :
    Agrees (loadTitled table >>= f) (loadTitled table >>= g) v := by
  have hload : Agrees (loadTitled table) (loadTitled table) v := by
    apply agrees_loadTable_bind hv ht
    intro d t _
    apply agrees_refuse_bind
    intro _
    exact agrees_pure _
  apply agrees_bind hload
  rintro ⟨d, t⟩ w hw
  obtain ⟨rfl, ht, -⟩ := (Statement.does_loadTitled table).of_ok hw
  exact hf d t ht

theorem agrees_saveMarks (hv : v.Regular FitsDatabase FitsTable)
    (hcount : v.context.marks.entries.length < 2 ^ 64) : Agrees saveMarks saveMarks v := by
  apply agrees_requireDatabase_bind
  intro d hd
  apply agrees_get_bind
  intro s hs
  rw [hs]
  exact agrees_change hv.stored ⟨hv.held, hcount⟩ (hv.active d hd)

theorem agrees_recordId (hv : v.Regular FitsDatabase FitsTable)
    (hcount : v.context.marks.entries.length < 2 ^ 63) {table : String} (ht : FitsTable table)
    (id : UInt64) :
    Agrees (recordId table id) (recordId table id) v := by
  apply agrees_requireDatabase_bind
  intro d hd
  apply agrees_modify_bind (c := fun c => { c with marks := c.marks.insert table id })
  have hinsert : (v.context.marks.insert table id).entries.length < 2 ^ 64 := by
    have := v.context.marks.length_insert_le table id
    omega
  exact agrees_saveMarks ⟨hv.active, hv.stored, hv.held.insert ht id⟩ hinsert

theorem agrees_forgetTable (hv : v.Regular FitsDatabase FitsTable)
    (hcount : v.context.marks.entries.length < 2 ^ 63) (table : String) :
    Agrees (forgetTable table) (forgetTable table) v := by
  apply agrees_get_bind
  intro s hs
  rw [hs]
  split
  · apply agrees_modify_bind (c := fun c => { c with marks := c.marks.erase table })
    have herase : (v.context.marks.erase table).entries.length < 2 ^ 64 := by
      have := v.context.marks.length_erase_le table
      omega
    exact agrees_saveMarks ⟨hv.active, hv.stored, hv.held.erase table⟩ herase
  · exact agrees_pure _

theorem agrees_storedIds (hv : v.Bounded) {d : String}
    (hd : (v.storage.marks? d).isSome = true) {listed : List String}
    (ht : ∀ t ∈ listed, FitsTable t) :
    Agrees (listed.mapM fun t => do pure (t, (Table.ofLines (← ask (.readTable d t))).maxId))
      (listed.mapM fun t => do pure (t, (Table.ofLines (← ask (.readTable d t))).maxId)) v := by
  induction listed with
  | nil => exact agrees_pure _
  | cons t rest ih =>
    rw [List.mapM_cons, List.mapM_cons, bind_assoc, bind_assoc]
    apply agrees_ask_bind (q := .readTable d t) hv ⟨hd, ht t (by simp)⟩
    intro lines _
    rw [pure_bind, pure_bind]
    have hrest := ih fun t ht' => ht t (by simp [ht'])
    apply agrees_bind hrest
    intro stored w _
    exact agrees_pure _

theorem agrees_switchTo (hv : v.Bounded) {d : String}
    (hd : (v.storage.marks? d).isSome = true) : Agrees (switchTo d) (switchTo d) v := by
  apply agrees_ask_bind (q := .listTables d) hv hd
  intro listed hlisted
  apply agrees_ask_bind (q := .loadIdMarks d) hv hd
  intro marks _
  have hfits : ∀ t ∈ listed, FitsTable t := by
    intro t ht
    exact hv.fitsTable ((Memory.mem_of_ask_listTables hlisted t).1 ht)
  apply agrees_bind (agrees_storedIds hv hd hfits)
  intro stored w _
  apply agrees_modify_bind (c := fun _ => ⟨some d, raiseMarks marks stored⟩)
  exact agrees_pure _

end Parts

namespace Statement
open Session
variable {v : Session Memory} {d table : String}

/-- Tables that are listed are deleted from the files too. -/
theorem agrees_deleteTables {listed : List String}
    (names : v.storage.Names FitsDatabase FitsTable) (hnodup : listed.Nodup)
    (ht : ∀ t ∈ listed, (v.storage.lines? d t).isSome = true) :
    Agrees (deleteTables d listed) (deleteTables d listed) v := by
  induction listed generalizing v with
  | nil => exact agrees_pure _
  | cons t rest ih =>
    obtain ⟨hnew, hrest⟩ := List.nodup_cons.1 hnodup
    have hpossible : (Change.deleteTable d t).Possible v.storage := ht t (by simp)
    have hdelete : Agrees (tryCatch (do change (.deleteTable d t); pure true) fun _ => pure false)
        (tryCatch (do change (.deleteTable d t); pure true) fun _ => pure false) v := by
      apply agrees_tryCatch
      · apply agrees_change_bind (c := .deleteTable d t) names trivial hpossible
        intro m _
        exact agrees_pure _
      · intro e w _
        exact agrees_pure _
    apply agrees_bind hdelete
    intro done w hw
    obtain ⟨m, hm⟩ := Memory.exists_changed hpossible
    rw [deleteTable_ok hm] at hw
    cases hw
    have hleft : ∀ u ∈ rest, (m.lines? d u).isSome = true := by
      intro u hu
      rw [(Memory.of_deleteTable hm).2.2, if_neg (by rintro ⟨-, rfl⟩; exact hnew hu)]
      exact ht u (by simp [hu])
    apply agrees_bind (ih (v := { v with storage := m }) (names.changed hm trivial) hrest hleft)
    intro all w _
    exact agrees_pure _

theorem agrees_use (hv : v.Bounded) (hd : FitsDatabase d) :
    Agrees (executeUse d) (executeUse d) v := by
  apply agrees_ask_bind (q := .databaseExists d) hv hd
  intro there hthere
  apply agrees_refuse_bind
  intro hfound
  have hmarks : (v.storage.marks? d).isSome = true := by
    rw [Memory.ask_databaseExists] at hthere
    cases hthere
    simpa [Option.isSome_iff_ne_none] using hfound
  apply agrees_bind (agrees_switchTo hv hmarks)
  intro u w _
  exact agrees_pure _

theorem agrees_createDatabase (hv : v.Bounded) (hd : FitsDatabase d) :
    Agrees (executeCreateDatabase d) (executeCreateDatabase d) v := by
  apply agrees_ask_bind (q := .databaseExists d) hv hd
  intro there hthere
  apply agrees_refuse_bind
  intro hnew
  have hmarks : v.storage.marks? d = none := by
    rw [Memory.ask_databaseExists] at hthere
    cases hthere
    simpa using hnew
  apply agrees_change_bind (c := .createDatabase d) hv.regular.stored hd hmarks
  intro m _
  exact agrees_pure _

theorem agrees_dropDatabase (hv : v.Bounded) (hd : FitsDatabase d) :
    Agrees (executeDropDatabase d) (executeDropDatabase d) v := by
  apply agrees_ask_bind (q := .databaseExists d) hv hd
  intro there hthere
  apply agrees_refuse_bind
  intro hfound
  have hmarks : (v.storage.marks? d).isSome = true := by
    rw [Memory.ask_databaseExists] at hthere
    cases hthere
    simpa [Option.isSome_iff_ne_none] using hfound
  apply agrees_ask_bind (q := .listTables d) hv hmarks
  intro listed hlisted
  have hmem := Memory.mem_of_ask_listTables hlisted
  have hnodup : listed.Nodup := Memory.nodup_of_ask_listTables hlisted
  apply agrees_bind (agrees_deleteTables hv.regular.stored hnodup fun t => (hmem t).1)
  intro all w hw
  obtain ⟨m, hdeleted, hnone, hrun⟩ := deleteTables_ok (s := v) hnodup fun t => (hmem t).1
  rw [hrun] at hw
  cases hw
  apply agrees_refuse_bind
  intro _
  have hempty : ∀ t, m.lines? d t = none := by
    intro t
    cases hl : m.lines? d t with
    | none => rfl
    | some lines =>
      have hold := hdeleted.lines?_of_some hl
      rw [hnone t ((hmem t).2 (Option.isSome_of_eq_some hold))] at hl
      cases hl
  have hpossible : (Change.deleteDatabase d).Possible m := by
    constructor
    · rw [hdeleted.marks?_eq]
      exact hmarks
    · exact hempty
  have hchange := agrees_change (c := .deleteDatabase d) (v := { v with storage := m })
    (hv.regular.stored.deleted hdeleted) trivial hpossible
  apply agrees_bind (agrees_tryCatch hchange fun e w _ => agrees_throw _)
  intro u w _
  apply agrees_get_bind
  intro s hs
  rw [hs]
  split
  · apply agrees_modify_bind (c := fun _ => {})
    exact agrees_pure _
  · exact agrees_pure _

theorem agrees_createTable (hv : v.Bounded) (hcount : v.context.marks.entries.length < 2 ^ 63)
    (ht : FitsTable table) (columns : List String) :
    Agrees (executeCreateTable table columns) (executeCreateTable table columns) v := by
  apply agrees_requireDatabase_bind
  intro d hd
  have hmarks := hv.regular.active d hd
  apply agrees_ask_bind (q := .tableExists d table) hv ⟨hmarks, ht⟩
  intro there hthere
  apply agrees_refuse_bind
  intro hnew
  have hlines : v.storage.lines? d table = none := by
    rw [Memory.ask_tableExists] at hthere
    cases hthere
    simpa using hnew
  apply agrees_change_bind (c := .createTable d table _) hv.regular.stored ht ⟨hmarks, hlines⟩
  intro m hm
  have hregular : Regular FitsDatabase FitsTable { v with storage := m } := by
    apply hv.regular.changed hm ht
    intro e _ he
    rwa [(Memory.of_createTable hm).2.2.1]
  apply agrees_bind (agrees_forgetTable hregular hcount table)
  intro u w _
  exact agrees_pure _

theorem agrees_dropTable (hv : v.Bounded) (hcount : v.context.marks.entries.length < 2 ^ 63)
    (ht : FitsTable table) : Agrees (executeDropTable table) (executeDropTable table) v := by
  apply agrees_requireDatabase_bind
  intro d hd
  apply agrees_ask_bind (q := .tableExists d table) hv ⟨hv.regular.active d hd, ht⟩
  intro there hthere
  apply agrees_refuse_bind
  intro hfound
  have hlines : (v.storage.lines? d table).isSome = true := by
    rw [Memory.ask_tableExists] at hthere
    cases hthere
    simpa [Option.isSome_iff_ne_none] using hfound
  apply agrees_change_bind (c := .deleteTable d table) hv.regular.stored trivial hlines
  intro m hm
  have hregular : Regular FitsDatabase FitsTable { v with storage := m } := by
    apply hv.regular.changed hm trivial
    intro e _ he
    rwa [(Memory.of_deleteTable hm).2.1]
  apply agrees_bind (agrees_forgetTable hregular hcount table)
  intro u w _
  exact agrees_pure _

theorem agrees_writeTable_bind {α : Type}
    (names : v.storage.Names FitsDatabase FitsTable) {lines : List String}
    (ht : (v.storage.lines? d table).isSome = true) (a : α) :
    Agrees (do change (.writeTable d table lines); pure a)
      (do change (.writeTable d table lines); pure a) v := by
  apply agrees_change_bind (c := .writeTable d table lines) names trivial ht
  intro m _
  exact agrees_pure a

theorem agrees_alter (hv : v.Bounded) (ht : FitsTable table)
    (what : ColumnChange) (column : String) :
    Agrees (executeAlter table what column) (executeAlter table what column) v := by
  apply agrees_loadTable_bind hv ht
  intro d t hholds
  obtain ⟨-, lines, hlines, -⟩ := hholds
  have hthere := Option.isSome_of_eq_some hlines
  apply agrees_refuse_bind
  intro _
  cases what with
  | add =>
    apply agrees_refuse_bind
    intro _
    exact agrees_writeTable_bind hv.regular.stored hthere _
  | drop =>
    dsimp only
    rw [bind_map_left, bind_map_left]
    apply agrees_ofExcept_bind
    intro i _
    exact agrees_writeTable_bind hv.regular.stored hthere _

theorem agrees_insert (hv : v.Bounded) (hcount : v.context.marks.entries.length < 2 ^ 63)
    (ht : FitsTable table) (literals : List String) :
    Agrees (executeInsert table literals) (executeInsert table literals) v := by
  apply agrees_loadTable_bind hv ht
  intro d t hholds
  obtain ⟨hd, lines, hlines, -⟩ := hholds
  apply agrees_ofExcept_bind
  intro values _
  apply agrees_ofExcept_bind
  intro t' _
  apply agrees_refuse_bind
  intro _
  apply agrees_nextId_bind
  intro id _
  apply agrees_bind (agrees_recordId hv.regular hcount ht id)
  intro u w hw
  have hmarked := (does_recordId hd).of_ok hw
  have hthere : (w.storage.lines? d table).isSome = true := by
    rw [hmarked.lines?_eq, hlines]
    rfl
  have hnames : w.storage.Names FitsDatabase FitsTable :=
    (hv.regular.marked hmarked (hv.regular.held.insert ht id)).stored
  exact agrees_writeTable_bind hnames hthere _

theorem agrees_select (hv : v.Bounded) (ht : FitsTable table) (shown : Projection)
    (condition : Option Condition) :
    Agrees (executeSelect table shown condition) (executeSelect table shown condition) v := by
  apply agrees_loadTitled_bind hv ht
  intro d t _
  apply agrees_ofExcept_bind
  intro indexes _
  exact agrees_pure _

theorem agrees_update (hv : v.Bounded) (ht : FitsTable table)
    (pairs : List (String × String)) (condition : Option Condition) :
    Agrees (executeUpdate table pairs condition) (executeUpdate table pairs condition) v := by
  apply agrees_loadTitled_bind hv ht
  intro d t hholds
  obtain ⟨-, lines, hlines, -⟩ := hholds
  apply agrees_ofExcept_bind
  intro cells _
  exact agrees_writeTable_bind hv.regular.stored (Option.isSome_of_eq_some hlines) _

theorem agrees_delete (hv : v.Bounded) (ht : FitsTable table)
    (condition : Option Condition) :
    Agrees (executeDelete table condition) (executeDelete table condition) v := by
  apply agrees_loadTitled_bind hv ht
  intro d t hholds
  obtain ⟨-, lines, hlines, -⟩ := hholds
  exact agrees_writeTable_bind hv.regular.stored (Option.isSome_of_eq_some hlines) _

theorem agrees_join (hv : v.Bounded) {left right : String} (hl : FitsTable left)
    (hr : FitsTable right) (leftColumn rightColumn : String) :
    Agrees (executeJoin left right leftColumn rightColumn)
      (executeJoin left right leftColumn rightColumn) v := by
  apply agrees_loadTitled_bind hv hl
  intro d l _
  apply agrees_loadTitled_bind hv hr
  intro d' r _
  apply agrees_ofExcept_bind
  intro leftKey _
  apply agrees_ofExcept_bind
  intro rightKey _
  exact agrees_pure _

/-- A statement whose names files can have is executed alike. -/
theorem agrees_execute (hv : v.Bounded) (hcount : v.context.marks.entries.length < 2 ^ 63)
    {st : Statement} (names : st.Names FitsDatabase FitsTable) :
    Agrees st.execute st.execute v := by
  cases st with
  | use d => exact agrees_use hv names
  | createDatabase d => exact agrees_createDatabase hv names
  | dropDatabase d => exact agrees_dropDatabase hv names
  | createTable table columns => exact agrees_createTable hv hcount names columns
  | dropTable table => exact agrees_dropTable hv hcount names
  | alter table what column => exact agrees_alter hv names what column
  | insert table literals => exact agrees_insert hv hcount names literals
  | select table shown condition => exact agrees_select hv names shown condition
  | update table pairs condition => exact agrees_update hv names pairs condition
  | delete table condition => exact agrees_delete hv names condition
  | join left right leftColumn rightColumn =>
      exact agrees_join hv names.1 names.2 leftColumn rightColumn

end Statement

end Tabular
