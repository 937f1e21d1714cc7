import Tabular.Proofs.Session.Logic

/-! All that a statement can do to a session over a memory, some of whose operations may fail. -/
namespace Tabular

/-- Some tables of a database are deleted, one after the other. -/
inductive Memory.Deleted (d : String) (m : Memory) : Memory → Prop where
  | none : Deleted d m m
  | table {m₁ m₂ : Memory} {t : String} (before : Deleted d m m₁)
      (h : m₁.changed (.deleteTable d t) = .ok m₂) :
      Deleted d m m₂

theorem Memory.Deleted.after {d t : String} {m m₁ m₂ : Memory} (h : Deleted d m₁ m₂)
    (h₁ : m.changed (.deleteTable d t) = .ok m₁) : Deleted d m m₂ := by
  induction h with
  | none => exact .table .none h₁
  | table _ h ih => exact .table ih h

namespace Session
variable {v : Session Memory}

def Holds (v : Session Memory) (d table : String) (t : Table) : Prop :=
  v.context.database = some d ∧ ∃ lines, v.storage.lines? d table = some lines ∧ t = .ofLines lines

/-- The marks are replaced, and stored unless that fails. -/
inductive Marked (v : Session Memory) (marks : IdMarks) : Except Error Unit → Session Memory →
    Prop where
  | unsaved (fault : StorageFault) :
      Marked v marks (.error (.storage fault)) ⟨⟨v.context.database, marks⟩, v.storage⟩
  | saved {d : String} {m : Memory} (hd : v.context.database = some d)
      (hm : v.storage.changed (.saveIdMarks d marks) = .ok m) :
      Marked v marks (.ok ()) ⟨⟨v.context.database, marks⟩, m⟩

theorem Marked.lines?_eq {marks : IdMarks} {r : Except Error Unit} {w : Session Memory}
    (h : v.Marked marks r w) (d t : String) : w.storage.lines? d t = v.storage.lines? d t := by
  cases h with
  | unsaved => rfl
  | saved _ hm => exact (Memory.of_saveIdMarks hm).2.2 d t

/-- The mark of a table is removed if there is one. -/
inductive Forgot (v : Session Memory) (table : String) : Except Error Unit → Session Memory →
    Prop where
  | unknown (h : v.context.marks.contains table = false) : Forgot v table (.ok ()) v
  | marked {r : Except Error Unit} {w : Session Memory} (h : v.context.marks.contains table = true)
      (hm : v.Marked (v.context.marks.erase table) r w) : Forgot v table r w

/-- The values and the id of the row that a statement adds to a table, which it may have given its
columns. -/
structure Inserts (v : Session Memory) (table : String) (literals : List String) (d : String)
    (old t : Table) (values : List String) (id : UInt64) : Prop where
  holds : v.Holds d table old
  values_eq : literals.mapM cellOf = .ok values
  titled_eq : old.titled values = .ok t
  length_eq : values.length = t.header.length - 1
  nextId_eq : v.context.nextId table t = .ok id

def storedIds (m : Memory) (d : String) (tables : List String) : List (String × UInt64) :=
  tables.map fun t => (t, (Table.ofLines ((m.lines? d t).getD [])).maxId)

end Session

open Session in
/-- What a statement can answer, and the session after it. -/
inductive Statement.Effect (v : Session Memory) : Statement → Except Error Answer → Session Memory →
    Prop where
  | refused {st : Statement} (e : Error) : Effect v st (.error e) v
  | use {d : String} {tables : List String} {marks : IdMarks}
      (ht : v.storage.ask (.listTables d) = .ok tables)
      (hm : v.storage.marks? d = some marks) :
      Effect v (.use d) (.ok (.use d))
        { v with context := ⟨some d, raiseMarks marks (storedIds v.storage d tables)⟩ }
  | createDatabase {d : String} {m : Memory} (hm : v.storage.changed (.createDatabase d) = .ok m) :
      Effect v (.createDatabase d) (.ok (.createDatabase d)) { v with storage := m }
  | dropTables {d : String} {m : Memory} (hm : v.storage.Deleted d m) :
      Effect v (.dropDatabase d) (.error (.storage (.filesLeft d))) { v with storage := m }
  | dropDatabase {d : String} {m m' : Memory} (hm : v.storage.Deleted d m)
      (hm' : m.changed (.deleteDatabase d) = .ok m') :
      Effect v (.dropDatabase d) (.ok (.dropDatabase d))
        ⟨if v.context.database = some d then {} else v.context, m'⟩
  | createTable {d table : String} {columns : List String} {m : Memory} {r : Except Error Unit}
      {w : Session Memory} (hd : v.context.database = some d)
      (hm : v.storage.changed (.createTable d table
        (Table.toLines ⟨if columns.isEmpty then [] else idColumn :: columns, []⟩)) = .ok m)
      (hw : Forgot { v with storage := m } table r w) :
      Effect v (.createTable table columns) (r.map fun _ => .createTable table) w
  | dropTable {d table : String} {m : Memory} {r : Except Error Unit} {w : Session Memory}
      (hd : v.context.database = some d) (hm : v.storage.changed (.deleteTable d table) = .ok m)
      (hw : Forgot { v with storage := m } table r w) :
      Effect v (.dropTable table) (r.map fun _ => .dropTable table) w
  | addColumn {d table column : String} {t : Table} {m : Memory} (ht : v.Holds d table t)
      (hid : isIdColumn column = false) (hnew : findColumn? t.header column = none)
      (hm : v.storage.changed (.writeTable d table (t.addColumn column).toLines) = .ok m) :
      Effect v (.alter table .add column) (.ok (.alter table)) { v with storage := m }
  | dropColumn {d table column : String} {t : Table} {i : Nat} {m : Memory} (ht : v.Holds d table t)
      (hid : isIdColumn column = false) (hi : t.columnIndex table column = .ok i)
      (hm : v.storage.changed (.writeTable d table (t.dropColumn i).toLines) = .ok m) :
      Effect v (.alter table .drop column) (.ok (.alter table)) { v with storage := m }
  | burned {d table : String} {literals values : List String} {old t : Table} {id : UInt64}
      {r : Except Error Unit} {w : Session Memory}
      (hi : v.Inserts table literals d old t values id)
      (hw : Marked v (v.context.marks.insert table id) r w) (fault : StorageFault) :
      Effect v (.insert table literals) (.error (.storage fault)) w
  | insert {d table : String} {literals values : List String} {old t : Table} {id : UInt64}
      {w : Session Memory} {m : Memory} (hi : v.Inserts table literals d old t values id)
      (hw : Marked v (v.context.marks.insert table id) (.ok ()) w)
      (hm : w.storage.changed (.writeTable d table (t.insertRow id values).toLines) = .ok m) :
      Effect v (.insert table literals) (.ok (.insert table id)) { w with storage := m }
  | select {d table : String} {shown : Projection} {condition : Option Condition} {t : Table}
      {indexes : List Nat} (ht : v.Holds d table t) (hh : t.header ≠ [])
      (hi : t.projected table shown = .ok indexes) :
      Effect v (.select table shown condition) (.ok (t.scan indexes condition)) v
  | update {d table : String} {pairs : List (String × String)} {condition : Option Condition}
      {t : Table} {cells : List (Nat × String)} {m : Memory} (ht : v.Holds d table t)
      (hh : t.header ≠ []) (hc : t.assignments table pairs = .ok cells)
      (hm : v.storage.changed (.writeTable d table (t.assign condition cells).toLines) = .ok m) :
      Effect v (.update table pairs condition)
        (.ok (.update (t.rows.countP (t.rowHolds condition))))
        { v with storage := m }
  | delete {d table : String} {condition : Option Condition} {t : Table} {m : Memory}
      (ht : v.Holds d table t)
      (hh : t.header ≠ [])
      (hm : v.storage.changed (.writeTable d table (t.remove condition).toLines) = .ok m) :
      Effect v (.delete table condition)
        (.ok (.delete (t.rows.length - (t.remove condition).rows.length)))
        { v with storage := m }
  | join {d left right leftColumn rightColumn : String} {l r : Table} {leftKey rightKey : Nat}
      (hl : v.Holds d left l) (hr : v.Holds d right r) (hlh : l.header ≠ []) (hrh : r.header ≠ [])
      (hlk : l.columnIndex left leftColumn = .ok leftKey)
      (hrk : r.columnIndex right rightColumn = .ok rightKey) :
      Effect v (.join left right leftColumn rightColumn)
        (.ok (l.join r left right leftKey rightKey)) v

namespace Statement.Effect
open Session
variable {v w : Session Memory} {table : String} {literals : List String} {a : Answer}

theorem of_insert (h : (Statement.insert table literals).Effect v (.ok a) w) :
    ∃ d old t values id u m, a = .insert table id ∧ v.Inserts table literals d old t values id ∧
      v.Marked (v.context.marks.insert table id) (.ok ()) u ∧
      u.storage.changed (.writeTable d table (t.insertRow id values).toLines) = .ok m ∧
        w = { u with storage := m } := by
  cases h with
  | insert hi hu hm => exact ⟨_, _, _, _, _, _, _, rfl, hi, hu, hm, rfl⟩

theorem eq_insert {st : Statement} {id : UInt64} (h : st.Effect v (.ok (.insert table id)) w) :
    ∃ literals, st = .insert table literals := by
  generalize hr : Except.ok (Answer.insert table id) = r at h
  cases h with
  | insert hi hw hm => cases hr; exact ⟨_, rfl⟩
  | @createTable _ _ _ _ r | @dropTable _ _ _ r => cases r <;> cases hr
  | _ => cases hr

end Statement.Effect

namespace Statement
open Session
variable {σ β : Type} [Storage σ] [MemoryBacked σ] {v : Session Memory}

theorem does_loadTable (table : String) :
    Does (loadTable table : SessionM σ (String × Table)) v fun r w => match r with
      | .ok (d, t) => w = v ∧ v.Holds d table t
      | .error _ => w = v := by
  refine does_requireDatabase_bind (fun _ => rfl) fun d hd =>
    does_ask_bind (fun _ => rfl) fun b hb => ?_
  rw [Memory.ask_tableExists] at hb
  cases hb
  refine does_refuse_bind rfl fun hl => ?_
  obtain ⟨lines, hl⟩ : ∃ lines, v.storage.lines? d table = some lines := by
    simpa [Option.ne_none_iff_exists'] using hl
  refine does_ask_bind (fun _ => rfl) fun b hb => ?_
  rw [Memory.ask_readTable, hl] at hb
  cases hb
  exact does_pure ⟨rfl, hd, lines, hl, rfl⟩

theorem does_loadTable_bind {Q : Except Error β → Session Memory → Prop} {table : String}
    {f : String × Table → SessionM σ β} (he : ∀ e, Q (.error e) v)
    (hf : ∀ d t, v.Holds d table t → Does (f (d, t)) v Q) : Does (loadTable table >>= f) v Q :=
  does_bind (does_loadTable table) (fun e _ h => h ▸ he e) fun _ _ ⟨hw, h⟩ => hw ▸ hf _ _ h

theorem does_loadTitled (table : String) :
    Does (loadTitled table : SessionM σ (String × Table)) v fun r w => match r with
      | .ok (d, t) => w = v ∧ v.Holds d table t ∧ t.header ≠ []
      | .error _ => w = v := by
  refine does_loadTable_bind (fun _ => rfl) fun d t ht => ?_
  exact does_refuse_bind rfl fun hh => does_pure ⟨rfl, ht, by simpa using hh⟩

theorem does_loadTitled_bind {Q : Except Error β → Session Memory → Prop} {table : String}
    {f : String × Table → SessionM σ β} (he : ∀ e, Q (.error e) v)
    (hf : ∀ d t, v.Holds d table t → t.header ≠ [] → Does (f (d, t)) v Q) :
    Does (loadTitled table >>= f) v Q :=
  does_bind (does_loadTitled table) (fun e _ h => h ▸ he e) fun _ _ ⟨hw, h⟩ => hw ▸ hf _ _ h.1 h.2

/-- Marks that replace those of the active database are stored, or that fails. -/
theorem does_saveMarks {marks : IdMarks} {d : String} (hd : v.context.database = some d) :
    Does (saveMarks : SessionM σ Unit) ⟨⟨v.context.database, marks⟩, v.storage⟩
      (v.Marked marks) := by
  refine does_requireDatabase_bind (fun h => ?_) fun d' hd' => does_get_bind fun s hs => ?_
  · cases h.symm.trans hd
  · have hm : s.context.marks = marks := congrArg (·.context.marks) hs
    rw [hm]
    refine does_change ?_ fun m hm => .saved hd' hm
    rintro e (⟨fault, rfl⟩ | he)
    · exact .unsaved fault
    · rw [Memory.error_of_saveIdMarks he]
      exact .unsaved _

theorem does_recordId {table : String} {id : UInt64} {d : String}
    (hd : v.context.database = some d) :
    Does (recordId table id : SessionM σ Unit) v (v.Marked (v.context.marks.insert table id)) := by
  refine does_requireDatabase_bind (fun h => by cases h.symm.trans hd) fun _ _ => ?_
  refine does_modify_bind (fun s hs => ?_) (does_saveMarks hd)
  subst hs
  rfl

theorem does_forgetTable {table : String} {d : String} (hd : v.context.database = some d) :
    Does (forgetTable table : SessionM σ Unit) v (v.Forgot table) := by
  refine does_get_bind fun s hs => ?_
  have hc : s.context = v.context := congrArg (·.context) hs
  rw [hc]
  split
  · next h =>
    refine does_modify_bind (fun s hs => ?_) (does_mono (does_saveMarks hd) fun _ _ => .marked h)
    subst hs
    rfl
  · next h => exact does_pure (.unknown (by simpa using h))

theorem does_storedIds (d : String) (tables : List String) :
    Does (tables.mapM fun t => do
        pure (t, (Table.ofLines (← ask (.readTable d t))).maxId) : SessionM σ _) v
      fun r w => match r with
      | .ok stored => w = v ∧ stored = storedIds v.storage d tables
      | .error _ => w = v := by
  induction tables with
  | nil => exact does_pure ⟨rfl, rfl⟩
  | cons t rest ih =>
    rw [List.mapM_cons, bind_assoc]
    refine does_ask_bind (fun _ => rfl) fun lines hl => ?_
    rw [pure_bind]
    rw [Memory.ask_readTable] at hl
    cases hl
    refine does_bind ih (fun _ _ h => h) ?_
    rintro stored _ ⟨rfl, rfl⟩
    exact does_pure ⟨rfl, rfl⟩

theorem does_switchTo_bind {Q : Except Error β → Session Memory → Prop} {d : String}
    {f : Unit → SessionM σ β} (he : ∀ e, Q (.error e) v)
    (hf : ∀ tables marks, v.storage.ask (.listTables d) = .ok tables →
      v.storage.marks? d = some marks →
      Does (f ()) ⟨⟨some d, raiseMarks marks (storedIds v.storage d tables)⟩, v.storage⟩ Q) :
    Does (switchTo d >>= f) v Q := by
  rw [switchTo, bind_assoc]
  refine does_ask_bind he fun tables ht => ?_
  rw [bind_assoc]
  refine does_ask_bind he fun marks hm => ?_
  rw [bind_assoc]
  refine does_bind (does_storedIds d tables) (fun e _ h => h ▸ he e) ?_
  rintro stored _ ⟨rfl, rfl⟩
  exact does_setContext_bind (hf tables marks ht (Memory.ask_loadIdMarks.1 hm))

/-- Tables that cannot be deleted stay, and that is no error. -/
theorem does_deleteTables (d : String) (tables : List String) :
    Does (deleteTables d tables : SessionM σ Bool) v fun r w => (∃ all, r = .ok all) ∧
      ∃ m, v.storage.Deleted d m ∧ w = { v with storage := m } := by
  induction tables generalizing v with
  | nil => exact does_pure ⟨⟨true, rfl⟩, v.storage, .none, rfl⟩
  | cons t rest ih =>
    refine does_bind (Q := fun r w => (∃ done, r = .ok done) ∧ (w = v ∨
        ∃ m, v.storage.changed (.deleteTable d t) = .ok m ∧ w = { v with storage := m })) ?_ ?_ ?_
    · refine does_tryCatch (P := fun r w => match r with
          | .ok _ => ∃ m, v.storage.changed (.deleteTable d t) = .ok m ∧ w = { v with storage := m }
          | .error _ => w = v) ?_ (fun a w h => ⟨⟨a, rfl⟩, .inr h⟩) fun e w h =>
              does_pure ⟨⟨false, rfl⟩, .inl h⟩
      exact does_change_bind (fun _ _ => rfl) fun m hm => does_pure ⟨m, hm, rfl⟩
    · rintro e w ⟨⟨done, h⟩, -⟩
      cases h
    · rintro done w ⟨-, hw⟩
      refine does_bind ih ?_ ?_
      · rintro e w ⟨⟨all, h⟩, -⟩
        cases h
      · rintro all w' ⟨-, m, hm, rfl⟩
        refine does_pure ⟨⟨_, rfl⟩, ?_⟩
        rcases hw with rfl | ⟨m₁, hm₁, rfl⟩
        · exact ⟨m, hm, rfl⟩
        · exact ⟨m, hm.after hm₁, rfl⟩

theorem does_use (d : String) : Does (executeUse d : SessionM σ Answer) v (Effect v (.use d)) := by
  refine does_ask_bind .refused fun there _ => does_refuse_bind (.refused _) fun _ => ?_
  exact does_switchTo_bind .refused fun tables marks ht hm => does_pure (.use ht hm)

theorem does_createDatabase (d : String) :
    Does (executeCreateDatabase d : SessionM σ Answer) v (Effect v (.createDatabase d)) := by
  refine does_ask_bind .refused fun there _ => does_refuse_bind (.refused _) fun _ => ?_
  exact does_change_bind (fun _ _ => .refused _) fun m hm => does_pure (.createDatabase hm)

theorem does_dropDatabase (d : String) :
    Does (executeDropDatabase d : SessionM σ Answer) v (Effect v (.dropDatabase d)) := by
  refine does_ask_bind .refused fun there _ => does_refuse_bind (.refused _) fun _ => ?_
  refine does_ask_bind .refused fun tables _ => does_bind (does_deleteTables d tables) ?_ ?_
  · rintro e w ⟨⟨all, h⟩, -⟩
    cases h
  · rintro all w ⟨-, m, hm, rfl⟩
    refine does_refuse_bind (.dropTables hm) fun _ => ?_
    refine does_bind (Q := fun r w => match r with
        | .ok () => ∃ m', m.changed (.deleteDatabase d) = .ok m' ∧ w = { v with storage := m' }
        | .error e => e = .storage (.filesLeft d) ∧ w = { v with storage := m }) ?_ ?_ ?_
    · refine does_tryCatch (P := fun r w => match r with
          | .ok () => ∃ m', m.changed (.deleteDatabase d) = .ok m' ∧ w = { v with storage := m' }
          | .error _ => w = { v with storage := m }) ?_ (fun _ _ h => h) fun _ _ h =>
              does_throw ⟨rfl, h⟩
      exact does_change (fun _ _ => rfl) fun m' hm' => ⟨m', hm', rfl⟩
    · rintro e w ⟨rfl, rfl⟩
      exact .dropTables hm
    · rintro ⟨⟩ w ⟨m', hm', rfl⟩
      refine does_get_bind fun s hs => ?_
      have hc : s.context = v.context := congrArg (·.context) hs
      have effect := Effect.dropDatabase hm hm'
      rw [hc]
      split
      · next hd =>
        rw [if_pos hd] at effect
        exact does_setContext_bind (does_pure effect)
      · next hd =>
        rw [if_neg hd] at effect
        exact does_pure effect

theorem does_createTable (table : String) (columns : List String) :
    Does (executeCreateTable table columns : SessionM σ Answer) v
      (Effect v (.createTable table columns)) := by
  refine does_requireDatabase_bind (fun _ => .refused _) fun d hd => ?_
  refine does_ask_bind .refused fun there _ => does_refuse_bind (.refused _) fun _ => ?_
  refine does_change_bind (fun _ _ => .refused _) fun m hm => ?_
  refine does_bind (does_forgetTable hd) ?_ ?_
  · rintro e w hw
    exact .createTable hd hm hw
  · rintro ⟨⟩ w hw
    exact does_pure (.createTable hd hm hw)

theorem does_dropTable (table : String) :
    Does (executeDropTable table : SessionM σ Answer) v (Effect v (.dropTable table)) := by
  refine does_requireDatabase_bind (fun _ => .refused _) fun d hd => ?_
  refine does_ask_bind .refused fun there _ => does_refuse_bind (.refused _) fun _ => ?_
  refine does_change_bind (fun _ _ => .refused _) fun m hm => ?_
  refine does_bind (does_forgetTable hd) ?_ ?_
  · rintro e w hw
    exact .dropTable hd hm hw
  · rintro ⟨⟩ w hw
    exact does_pure (.dropTable hd hm hw)

theorem does_alter (table : String) (what : ColumnChange) (column : String) :
    Does (executeAlter table what column : SessionM σ Answer) v
      (Effect v (.alter table what column)) := by
  refine does_loadTable_bind .refused fun d t ht => does_refuse_bind (.refused _) fun hid => ?_
  have hid : isIdColumn column = false := by simpa using hid
  cases what with
  | add =>
    refine does_refuse_bind (.refused _) fun hnew => ?_
    have hnew : findColumn? t.header column = none := by simpa using hnew
    exact does_change_bind (fun _ _ => .refused _) fun m hm => does_pure (.addColumn ht hid hnew hm)
  | drop =>
    dsimp only
    rw [bind_map_left]
    refine does_ofExcept_bind .refused fun i hi => ?_
    exact does_change_bind (fun _ _ => .refused _) fun m hm => does_pure (.dropColumn ht hid hi hm)

theorem does_insert (table : String) (literals : List String) :
    Does (executeInsert table literals : SessionM σ Answer) v
      (Effect v (.insert table literals)) := by
  refine does_loadTable_bind .refused fun d t ht => does_ofExcept_bind .refused fun values hv => ?_
  refine does_ofExcept_bind .refused fun t' ht' => does_refuse_bind (.refused _) fun hlen => ?_
  refine does_nextId_bind .refused fun id hid => ?_
  have hi : v.Inserts table literals d t t' values id := ⟨ht, hv, ht', by simpa using hlen, hid⟩
  refine does_bind (does_recordId ht.1) ?_ ?_
  · rintro e w hw
    cases hw with
    | unsaved fault => exact .burned hi (.unsaved fault) fault
  · rintro ⟨⟩ w hw
    refine does_change_bind ?_ fun m hm => does_pure (.insert hi hw hm)
    rintro e (⟨fault, rfl⟩ | he)
    · exact .burned hi hw fault
    · obtain ⟨-, lines, hl, -⟩ := ht
      obtain ⟨m, hm⟩ := Memory.exists_changed
        (c := .writeTable d table (t'.insertRow id values).toLines)
        (Option.isSome_of_eq_some ((hw.lines?_eq d table).trans hl))
      cases he.symm.trans hm

theorem does_select (table : String) (shown : Projection) (condition : Option Condition) :
    Does (executeSelect table shown condition : SessionM σ Answer) v
      (Effect v (.select table shown condition)) :=
  does_loadTitled_bind .refused fun _ _ ht hh => does_ofExcept_bind .refused fun _ hi =>
    does_pure (.select ht hh hi)

theorem does_update (table : String) (pairs : List (String × String))
    (condition : Option Condition) :
    Does (executeUpdate table pairs condition : SessionM σ Answer) v
      (Effect v (.update table pairs condition)) := by
  refine does_loadTitled_bind .refused fun d t ht hh => does_ofExcept_bind .refused fun cells hc =>
    ?_
  exact does_change_bind (fun _ _ => .refused _) fun m hm => does_pure (.update ht hh hc hm)

theorem does_delete (table : String) (condition : Option Condition) :
    Does (executeDelete table condition : SessionM σ Answer) v
      (Effect v (.delete table condition)) := by
  refine does_loadTitled_bind .refused fun d t ht hh => ?_
  exact does_change_bind (fun _ _ => .refused _) fun m hm => does_pure (.delete ht hh hm)

theorem does_join (left right leftColumn rightColumn : String) :
    Does (executeJoin left right leftColumn rightColumn : SessionM σ Answer) v
      (Effect v (.join left right leftColumn rightColumn)) := by
  refine does_loadTitled_bind .refused fun d l hl hlh =>
    does_loadTitled_bind .refused fun d' r hr hrh => ?_
  refine does_ofExcept_bind .refused fun leftKey hlk =>
    does_ofExcept_bind .refused fun rightKey hrk => ?_
  obtain rfl : d = d' := Option.some.inj (hl.1.symm.trans hr.1)
  exact does_pure (.join hl hr hlh hrh hlk hrk)

/-- A statement does no more than its effect. -/
theorem does_execute (st : Statement) : Does (st.execute : SessionM σ Answer) v (Effect v st) := by
  cases st with
  | use d => exact does_use d
  | createDatabase d => exact does_createDatabase d
  | dropDatabase d => exact does_dropDatabase d
  | createTable table columns => exact does_createTable table columns
  | dropTable table => exact does_dropTable table
  | alter table what column => exact does_alter table what column
  | insert table literals => exact does_insert table literals
  | select table shown condition => exact does_select table shown condition
  | update table pairs condition => exact does_update table pairs condition
  | delete table condition => exact does_delete table condition
  | join left right leftColumn rightColumn => exact does_join left right leftColumn rightColumn

end Statement

end Tabular
