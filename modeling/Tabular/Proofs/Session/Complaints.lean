import Tabular.Proofs.Session.Refusals
import Tabular.Proofs.Statement.Plain
import Tabular.Proofs.Table.Changes

/-! Errors of plain statements: all that they quote is of one line, as all is that the statements
say. -/
namespace Tabular

def Query.database {α : Type} : Query α → String
  | databaseExists d | listTables d | tableExists d _ | readTable d _ | loadIdMarks d => d

def Change.Plain : Change → Prop
  | createDatabase d | deleteDatabase d | saveIdMarks d _ => OneLine d
  | createTable d t _ | writeTable d t _ | deleteTable d t => OneLine d ∧ OneLine t

section Quotes
variable {e : Error}

theorem Query.plain_of_mem_complaints {α : Type} {q : Query α} (h : OneLine q.database)
    (he : e ∈ q.complaints) : e.Plain := by
  rcases List.mem_cons.1 he with rfl | he
  · exact Error.plain_of_no_quotes rfl
  · cases q with
    | databaseExists | tableExists | readTable => cases he
    | listTables d | loadIdMarks d =>
      rw [List.mem_singleton.1 he]
      exact Error.plain_of_quotes_one rfl h

theorem Change.plain_of_mem_complaints {c : Change} (h : c.Plain) (he : e ∈ c.complaints) :
    e.Plain := by
  rcases List.mem_cons.1 he with rfl | he
  · exact Error.plain_of_no_quotes rfl
  · cases c with
    | createDatabase d | saveIdMarks d _ =>
      rw [List.mem_singleton.1 he]
      exact Error.plain_of_quotes_one rfl h
    | deleteDatabase d =>
      rcases List.mem_cons.1 he with rfl | he
      · exact Error.plain_of_quotes_one rfl h
      · rw [List.mem_singleton.1 he]
        exact Error.plain_of_quotes_one rfl h
    | createTable d t _ | writeTable d t _ | deleteTable d t =>
      rcases List.mem_cons.1 he with rfl | he
      · exact Error.plain_of_quotes_one rfl h.1
      · rw [List.mem_singleton.1 he]
        exact Error.plain_of_quotes_one rfl h.2

end Quotes

theorem IsCell.oneLine {s : String} (h : IsCell s) : OneLine s := fun hm => h _ hm (by simp)

theorem plain_of_cellOf {literal : String} {e : Error} (hl : OneLine literal)
    (h : cellOf literal = .error e) : e.Plain := by
  rw [eq_of_cellOf_error h]
  exact Error.plain_of_quotes_one rfl hl

namespace Table
variable {t : Table} {table : String} {e : Error}

theorem plain_of_columnIndex {column : String} (ht : OneLine table) (hc : OneLine column)
    (h : t.columnIndex table column = .error e) : e.Plain := by
  rw [eq_of_columnIndex_error h]
  exact Error.plain_of_quotes_two rfl hc ht

theorem plain_of_titled {values : List String} (hv : ∀ v ∈ values, OneLine v)
    (h : t.titled values = .error e) : e.Plain := by
  rw [titled_eq] at h
  split at h
  · obtain ⟨v, hm, names, hextend⟩ := exists_of_foldlM_error (Except.map_eq_error.1 h)
    unfold extendHeader at hextend
    split at hextend
    · cases hextend
      exact Error.plain_of_quotes_one rfl (hv v hm)
    · cases hextend
  · cases h

theorem plain_of_projected {shown : Projection} (ht : OneLine table)
    (hc : ∀ names, shown = .columns names → ∀ c ∈ names, OneLine c)
    (h : t.projected table shown = .error e) : e.Plain := by
  cases shown with
  | all => cases h
  | columns names =>
    obtain ⟨c, hm, hf⟩ := exists_of_mapM_error h
    exact plain_of_columnIndex ht (hc names rfl c hm) hf

theorem plain_of_assignments {pairs : List (String × String)} (ht : OneLine table)
    (hp : ∀ pair ∈ pairs, OneLine pair.1 ∧ OneLine pair.2)
    (h : t.assignments table pairs = .error e) : e.Plain := by
  obtain ⟨pair, hm, rfl | rfl | rfl⟩ := exists_of_assignments_error h
  · exact Error.plain_of_no_quotes rfl
  · exact Error.plain_of_quotes_two rfl (hp pair hm).1 ht
  · exact Error.plain_of_quotes_one rfl (hp pair hm).2

end Table

def Session.Plain {σ : Type} (s : Session σ) : Prop :=
  ∀ d, s.context.database = some d → OneLine d

namespace SessionM
open Session
variable {α β : Type} {P : α → Prop} {Q : β → Prop}

/-- Where the active database has a name of one line, a program leaves such a one, and it fails with
plain errors alone. -/
def Plainly (P : α → Prop) (x : SessionM (Faulty Memory) α) : Prop :=
  ∀ s, s.Plain → match x s with
    | .ok a s' => P a ∧ s'.Plain
    | .error e s' => e.Plain ∧ s'.Plain

section Rules

theorem plainly_pure {a : α} (h : P a) : Plainly P (pure a) := fun _ hs => ⟨h, hs⟩

theorem plainly_throw {e : Error} (h : e.Plain) : Plainly P (throw e) := fun _ hs => ⟨h, hs⟩

theorem plainly_bind {x : SessionM (Faulty Memory) α} {f : α → SessionM (Faulty Memory) β}
    (hx : Plainly P x) (hf : ∀ a, P a → Plainly Q (f a)) : Plainly Q (x >>= f) := by
  intro s hs
  have hx := hx s hs
  rw [bind_apply]
  cases hr : x s with
  | error e s' => rw [hr] at hx; exact hx
  | ok a s' => rw [hr] at hx; exact hf a hx.1 s' hx.2

theorem plainly_if {c : Prop} [Decidable c] {x y : SessionM (Faulty Memory) α} (hx : Plainly P x)
    (hy : Plainly P y) : Plainly P (if c then x else y) := by
  split
  · exact hx
  · exact hy

theorem plainly_refuse {c : Prop} [Decidable c] {e : Error} {f : β → SessionM (Faulty Memory) α}
    {x : SessionM (Faulty Memory) α} (he : e.Plain) (hx : Plainly P x) :
    Plainly P (if c then throw e >>= f else x) :=
  plainly_if (fun _ hs => ⟨he, hs⟩) hx

theorem plainly_tryCatch {x : SessionM (Faulty Memory) α}
    {handle : Error → SessionM (Faulty Memory) α} (hx : Plainly P x)
    (hh : ∀ e, Plainly P (handle e)) : Plainly P (tryCatch x handle) := by
  intro s hs
  have hx := hx s hs
  rw [tryCatch_apply]
  cases hr : x s with
  | ok a s' => rw [hr] at hx; exact hx
  | error e s' => rw [hr] at hx; exact hh e s' hx.2

theorem plainly_ofExcept {x : Except Error α} (he : ∀ e, x = .error e → e.Plain)
    (hok : ∀ a, x = .ok a → P a) : Plainly P (ofExcept x) := by
  intro s hs
  rw [ofExcept_apply]
  cases x with
  | error e => exact ⟨he e rfl, hs⟩
  | ok a => exact ⟨hok a rfl, hs⟩

end Rules

section Operations

theorem plainly_get : Plainly Session.Plain get := fun _ hs => ⟨hs, hs⟩

theorem plainly_setContext {c : Context} (h : ∀ d, c.database = some d → OneLine d) :
    Plainly (fun _ => True) (setContext c) :=
  fun _ _ => ⟨trivial, h⟩

theorem plainly_modify {f : Session (Faulty Memory) → Session (Faulty Memory)}
    (hf : ∀ s, (f s).context.database = s.context.database) :
    Plainly (fun _ => True) (modify f) :=
  fun s hs => ⟨trivial, fun d hd => hs d (hf s ▸ hd)⟩

theorem plainly_ask {q : Query α} (h : OneLine q.database) :
    Plainly (fun _ => True) (ask q) := by
  intro s hs
  rw [ask_apply, Faulty.ask_apply]
  by_cases hfault : s.storage.faults.any (·.hits q.method q.subject) = true
  · rw [if_pos hfault]
    exact ⟨Error.plain_of_no_quotes rfl, hs⟩
  · rw [if_neg hfault]
    cases hm : Storage.ask q s.storage.base with
    | ok a => exact ⟨trivial, hs⟩
    | error e => exact ⟨q.plain_of_mem_complaints h (Memory.mem_complaints_of_ask hm), hs⟩

theorem plainly_change {c : Change} (h : c.Plain) : Plainly (fun _ => True) (change c) := by
  intro s hs
  cases hr : change c s with
  | error e s' =>
    have he := fails_change (P := fun e s' => e.Plain ∧ s'.Plain)
      fun e he => ⟨c.plain_of_mem_complaints h he, hs⟩
    exact he e s' hr
  | ok u s' =>
    obtain ⟨m, -, rfl⟩ := of_change_ok hr
    exact ⟨trivial, hs⟩

theorem plainly_requireDatabase : Plainly OneLine (requireDatabase : SessionM _ String) := by
  intro s hs
  rw [requireDatabase_apply]
  cases hd : s.context.database with
  | none => exact ⟨Error.plain_of_no_quotes rfl, hs⟩
  | some d => exact ⟨hs d hd, hs⟩

theorem plainly_nextId {table : String} (h : OneLine table) (t : Table) :
    Plainly (fun _ => True) (nextId table t) := by
  refine plainly_bind plainly_get fun s _ => plainly_ofExcept (fun e he => ?_) fun _ _ => trivial
  unfold Context.nextId at he
  dsimp only at he
  split at he
  · cases he
  · cases he
    exact Error.plain_of_quotes_one rfl h

theorem plainly_saveMarks :
    Plainly (fun _ => True) (saveMarks : SessionM (Faulty Memory) Unit) := by
  refine plainly_bind plainly_requireDatabase fun d hd => plainly_bind plainly_get fun s _ => ?_
  exact plainly_change hd

theorem plainly_recordId (table : String) (id : UInt64) :
    Plainly (fun _ => True) (recordId table id : SessionM (Faulty Memory) Unit) := by
  refine plainly_bind plainly_requireDatabase fun _ _ => ?_
  exact plainly_bind (plainly_modify fun _ => rfl) fun _ _ => plainly_saveMarks

theorem plainly_forgetTable (table : String) :
    Plainly (fun _ => True) (forgetTable table : SessionM (Faulty Memory) Unit) := by
  refine plainly_bind plainly_get fun s _ => plainly_if ?_ (plainly_pure trivial)
  exact plainly_bind (plainly_modify fun _ => rfl) fun _ _ => plainly_saveMarks

theorem plainly_loadTable {table : String} (h : OneLine table) :
    Plainly (fun loaded => OneLine loaded.1)
      (loadTable table : SessionM (Faulty Memory) (String × Table)) := by
  refine plainly_bind plainly_requireDatabase fun d hd => ?_
  refine plainly_bind (plainly_ask hd) fun there _ => ?_
  refine plainly_refuse (Error.plain_of_quotes_one rfl h) ?_
  exact plainly_bind (plainly_ask hd) fun lines _ => plainly_pure hd

theorem plainly_loadTitled {table : String} (h : OneLine table) :
    Plainly (fun loaded => OneLine loaded.1)
      (loadTitled table : SessionM (Faulty Memory) (String × Table)) := by
  refine plainly_bind (plainly_loadTable h) fun loaded hd => ?_
  exact plainly_refuse (Error.plain_of_quotes_one rfl h) (plainly_pure hd)

theorem plainly_switchTo {d : String} (h : OneLine d) :
    Plainly (fun _ => True) (switchTo d : SessionM (Faulty Memory) Unit) := by
  have hstored (tables : List String) : Plainly (fun _ => True)
      (tables.mapM fun t => do pure (t, (Table.ofLines (← ask (.readTable d t))).maxId) :
        SessionM (Faulty Memory) _) := by
    induction tables with
    | nil => exact plainly_pure trivial
    | cons t rest ih =>
      rw [List.mapM_cons]
      refine plainly_bind (P := fun _ => True) ?_ fun _ _ => ?_
      · exact plainly_bind (plainly_ask h) fun _ _ => plainly_pure trivial
      · exact plainly_bind ih fun _ _ => plainly_pure trivial
  refine plainly_bind (plainly_ask h) fun tables _ => plainly_bind (plainly_ask h) fun marks _ => ?_
  refine plainly_bind (hstored tables) fun stored _ => plainly_setContext fun e he => ?_
  exact Option.some.inj he ▸ h

end Operations

end SessionM

namespace Statement
open Session SessionM
variable {d table : String}

section Kinds

theorem plainly_deleteTables (d : String) (tables : List String) :
    Plainly (fun _ => True) (deleteTables d tables : SessionM (Faulty Memory) Bool) := by
  intro s hs
  have hdeleted := does_deleteTables d tables s rfl
  cases hr : deleteTables d tables s with
  | error e s' =>
    rw [hr] at hdeleted
    cases hdeleted.1.choose_spec
  | ok all s' =>
    rw [hr] at hdeleted
    obtain ⟨-, m, -, hw⟩ := hdeleted
    have hcontext : s'.context = s.context := congrArg (·.context) hw
    exact ⟨trivial, fun e he => hs e (hcontext ▸ he)⟩

theorem plainly_use (h : OneLine d) :
    Plainly (fun _ => True) (executeUse d : SessionM (Faulty Memory) Answer) := by
  refine plainly_bind (plainly_ask h) fun there _ => ?_
  refine plainly_refuse (Error.plain_of_quotes_one rfl h) ?_
  exact plainly_bind (plainly_switchTo h) fun _ _ => plainly_pure trivial

theorem plainly_createDatabase (h : OneLine d) :
    Plainly (fun _ => True) (executeCreateDatabase d : SessionM (Faulty Memory) Answer) := by
  refine plainly_bind (plainly_ask h) fun there _ => ?_
  refine plainly_refuse (Error.plain_of_quotes_one rfl h) ?_
  exact plainly_bind (plainly_change h) fun _ _ => plainly_pure trivial

theorem plainly_dropDatabase (h : OneLine d) :
    Plainly (fun _ => True) (executeDropDatabase d : SessionM (Faulty Memory) Answer) := by
  have hleft : (Error.storage (.filesLeft d)).Plain := Error.plain_of_quotes_one rfl h
  refine plainly_bind (plainly_ask h) fun there _ => ?_
  refine plainly_refuse (Error.plain_of_quotes_one rfl h) ?_
  refine plainly_bind (plainly_ask h) fun tables _ => ?_
  refine plainly_bind (plainly_deleteTables d tables) fun all _ => plainly_refuse hleft ?_
  refine plainly_bind (plainly_tryCatch (plainly_change h) fun _ => plainly_throw hleft) ?_
  refine fun _ _ => plainly_bind plainly_get fun s _ => plainly_if ?_ (plainly_pure trivial)
  exact plainly_bind (plainly_setContext fun _ he => nomatch he) fun _ _ => plainly_pure trivial

theorem plainly_createTable (h : OneLine table) (columns : List String) :
    Plainly (fun _ => True)
      (executeCreateTable table columns : SessionM (Faulty Memory) Answer) := by
  refine plainly_bind plainly_requireDatabase fun d hd => ?_
  refine plainly_bind (plainly_ask hd) fun _ _ => ?_
  refine plainly_refuse (Error.plain_of_quotes_one rfl h) ?_
  refine plainly_bind (plainly_change ⟨hd, h⟩) fun _ _ => ?_
  exact plainly_bind (plainly_forgetTable table) fun _ _ => plainly_pure trivial

theorem plainly_dropTable (h : OneLine table) :
    Plainly (fun _ => True) (executeDropTable table : SessionM (Faulty Memory) Answer) := by
  refine plainly_bind plainly_requireDatabase fun d hd => ?_
  refine plainly_bind (plainly_ask hd) fun _ _ => ?_
  refine plainly_refuse (Error.plain_of_quotes_one rfl h) ?_
  refine plainly_bind (plainly_change ⟨hd, h⟩) fun _ _ => ?_
  exact plainly_bind (plainly_forgetTable table) fun _ _ => plainly_pure trivial

theorem plainly_alter {column : String} (h : OneLine table) (hc : OneLine column)
    (what : ColumnChange) :
    Plainly (fun _ => True) (executeAlter table what column : SessionM (Faulty Memory) Answer) := by
  refine plainly_bind (plainly_loadTable h) fun loaded hd => ?_
  have hwrite (t : Table) : Plainly (fun _ => True)
      (do change (.writeTable loaded.1 table t.toLines); pure (.alter table) :
        SessionM (Faulty Memory) Answer) :=
    plainly_bind (plainly_change ⟨hd, h⟩) fun _ _ => plainly_pure trivial
  refine plainly_refuse (Error.plain_of_no_quotes rfl) ?_
  cases what with
  | add =>
    exact plainly_refuse (Error.plain_of_quotes_two rfl hc h) (hwrite _)
  | drop =>
    refine plainly_bind (P := fun _ => True) ?_ fun t _ => hwrite t
    exact plainly_bind (plainly_ofExcept (fun e he => Table.plain_of_columnIndex h hc he)
      fun _ _ => trivial) fun _ _ => plainly_pure trivial

theorem plainly_insert {literals : List String} (h : OneLine table)
    (hl : ∀ l ∈ literals, OneLine l) :
    Plainly (fun _ => True) (executeInsert table literals : SessionM (Faulty Memory) Answer) := by
  refine plainly_bind (plainly_loadTable h) fun loaded hd => ?_
  refine plainly_bind (plainly_ofExcept (P := fun values => ∀ v ∈ values, OneLine v) ?_ ?_)
    fun values hvalues => ?_
  · intro e he
    obtain ⟨l, hm, hf⟩ := exists_of_mapM_error he
    exact plain_of_cellOf (hl l hm) hf
  · intro values hvalues v hm
    obtain ⟨l, -, hf⟩ := exists_of_mem_mapM hvalues hm
    exact (isCell_of_cellOf hf).oneLine
  refine plainly_bind (plainly_ofExcept (fun e he => Table.plain_of_titled hvalues he)
    fun _ _ => trivial) fun t _ => ?_
  refine plainly_refuse (Error.plain_of_no_quotes rfl) ?_
  refine plainly_bind (plainly_nextId h t) fun id _ => ?_
  refine plainly_bind (plainly_recordId table id) fun _ _ => ?_
  exact plainly_bind (plainly_change ⟨hd, h⟩) fun _ _ => plainly_pure trivial

theorem plainly_select {shown : Projection} (h : OneLine table)
    (hc : ∀ names, shown = .columns names → ∀ c ∈ names, OneLine c)
    (condition : Option Condition) :
    Plainly (fun _ => True)
      (executeSelect table shown condition : SessionM (Faulty Memory) Answer) := by
  refine plainly_bind (plainly_loadTitled h) fun loaded _ => ?_
  exact plainly_bind (plainly_ofExcept (fun e he => Table.plain_of_projected h hc he)
    fun _ _ => trivial) fun _ _ => plainly_pure trivial

theorem plainly_update {pairs : List (String × String)} (h : OneLine table)
    (hp : ∀ pair ∈ pairs, OneLine pair.1 ∧ OneLine pair.2) (condition : Option Condition) :
    Plainly (fun _ => True)
      (executeUpdate table pairs condition : SessionM (Faulty Memory) Answer) := by
  refine plainly_bind (plainly_loadTitled h) fun loaded hd => ?_
  refine plainly_bind (plainly_ofExcept (fun e he => Table.plain_of_assignments h hp he)
    fun _ _ => trivial) fun _ _ => ?_
  exact plainly_bind (plainly_change ⟨hd, h⟩) fun _ _ => plainly_pure trivial

theorem plainly_delete (h : OneLine table) (condition : Option Condition) :
    Plainly (fun _ => True) (executeDelete table condition : SessionM (Faulty Memory) Answer) := by
  refine plainly_bind (plainly_loadTitled h) fun loaded hd => ?_
  exact plainly_bind (plainly_change ⟨hd, h⟩) fun _ _ => plainly_pure trivial

theorem plainly_join {left right leftColumn rightColumn : String} (hl : OneLine left)
    (hr : OneLine right) (hlc : OneLine leftColumn) (hrc : OneLine rightColumn) :
    Plainly (fun _ => True)
      (executeJoin left right leftColumn rightColumn : SessionM (Faulty Memory) Answer) := by
  refine plainly_bind (plainly_loadTitled hl) fun _ _ => ?_
  refine plainly_bind (plainly_loadTitled hr) fun _ _ => ?_
  refine plainly_bind (plainly_ofExcept (fun e he => Table.plain_of_columnIndex hl hlc he)
    fun _ _ => trivial) fun _ _ => ?_
  exact plainly_bind (plainly_ofExcept (fun e he => Table.plain_of_columnIndex hr hrc he)
    fun _ _ => trivial) fun _ _ => plainly_pure trivial

end Kinds

/-- A plain statement fails with plain errors alone. -/
theorem plainly_execute {st : Statement} (h : st.Plain) :
    Plainly (fun _ => True) (st.execute : SessionM (Faulty Memory) Answer) := by
  cases st with
  | use d => exact plainly_use h
  | createDatabase d => exact plainly_createDatabase h
  | dropDatabase d => exact plainly_dropDatabase h
  | createTable table columns => exact plainly_createTable h.1 columns
  | dropTable table => exact plainly_dropTable h
  | alter table what column => exact plainly_alter h.1 h.2 what
  | insert table literals => exact plainly_insert h.1 h.2
  | select table shown condition =>
    cases shown with
    | all => exact plainly_select h (by rintro _ ⟨⟩) condition
    | columns names =>
      exact plainly_select h.1 (fun _ he => Projection.columns.inj he ▸ h.2) condition
  | update table pairs condition => exact plainly_update h.1 h.2 condition
  | delete table condition => exact plainly_delete h condition
  | join left right leftColumn rightColumn => exact plainly_join h.1.1 h.1.2 h.2.1 h.2.2

end Statement

/-- A text of one line is refused with a plain error, if it is refused. -/
theorem Session.plainly_execute {text : String} (h : OneLine text) :
    SessionM.Plainly (fun _ => True) (execute text : SessionM (Faulty Memory) Answer) := by
  have hread := Statement.plain_ofText h
  refine SessionM.plainly_bind (P := Statement.Plain) (SessionM.plainly_ofExcept ?_ ?_)
    fun st hst => Statement.plainly_execute hst
  · intro e he
    rw [he] at hread
    exact hread
  · intro st hst
    rw [hst] at hread
    exact hread

end Tabular
