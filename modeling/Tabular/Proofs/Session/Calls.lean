import Tabular.Proofs.Session.Regular

/-! The names that statements hand to storage. Two storages may differ at will in what they do with
all other names: sessions over them do alike. -/
namespace Tabular

/-- Runs that end with one result, which satisfies `Q`, in states that are related by `R`. -/
inductive SameOutcome {S T α : Type} (Q : α → Prop) (R : S → T → Prop) :
    EStateM.Result Error S α → EStateM.Result Error T α → Prop where
  | ok {a : α} {s : S} {t : T} (ha : Q a) (h : R s t) : SameOutcome Q R (.ok a s) (.ok a t)
  | error {e : Error} {s : S} {t : T} (h : R s t) : SameOutcome Q R (.error e s) (.error e t)

/-- Storages that do the same where they are handed names of `P`, and list no others. -/
structure Echoes {σ τ : Type} [Storage σ] [Storage τ] (P : String → Prop) (R : σ → τ → Prop) :
    Prop where
  ask : ∀ {s : σ} {t : τ} {α : Type} (q : Query α), R s t → q.Within P →
    Storage.ask q s = Storage.ask q t
  listed : ∀ {s : σ} {t : τ} {d : String} {tables : List String}, R s t → P d →
    Storage.ask (.listTables d) s = .ok tables → ∀ u ∈ tables, P u
  change : ∀ {s : σ} {t : τ} (c : Change), R s t → c.Within P →
    SameOutcome (fun _ => True) R (Storage.change c s) (Storage.change c t)

/-- Sessions in one context, whose names are such as those of `P`, over related storages. -/
structure Session.Paired {σ τ : Type} (P : String → Prop) (R : σ → τ → Prop) (s : Session σ)
    (t : Session τ) : Prop where
  context : s.context = t.context
  active : ∀ d, s.context.database = some d → P d
  held : s.context.marks.Names P
  storage : R s.storage t.storage

/-- Marks are raised for the tables that are listed alone. -/
theorem names_raiseMarks {P : String → Prop} (marks : IdMarks) {stored : List (String × UInt64)}
    (h : ∀ u ∈ stored.map (·.1), P u) : (raiseMarks marks stored).Names P := by
  have hfold : ∀ (entries : List (String × UInt64)) (start : IdMarks),
      (∀ e ∈ entries, P e.1) → start.Names P →
      (entries.foldl (fun marks e => marks.insert e.1 (max ((marks.get? e.1).getD 0) e.2))
        start).Names P := by
    intro entries
    induction entries with
    | nil => exact fun _ _ hstart => hstart
    | cons e rest ih =>
      intro start hentries hstart
      obtain ⟨he, hrest⟩ := List.forall_mem_cons.1 hentries
      exact ih _ hrest (hstart.insert he _)
  refine hfold stored _ (fun e he => h e.1 (List.mem_map_of_mem he)) fun t n hn => ?_
  rw [SortedMap.get?_filterKeys] at hn
  split at hn
  · next ht => exact h t (by simpa using ht)
  · cases hn

section Rules
open Session
variable {σ τ α β : Type} {P : String → Prop} {R : σ → τ → Prop} {Q : α → Prop} {Q' : β → Prop}

/-- From paired sessions two programs end with one result, in paired sessions. -/
def InStep (P : String → Prop) (R : σ → τ → Prop) (Q : α → Prop) (x : SessionM σ α)
    (y : SessionM τ α) : Prop :=
  ∀ s t, Paired P R s t → SameOutcome Q (Paired P R) (x s) (y t)

variable {x : SessionM σ α} {y : SessionM τ α}

theorem inStep_pure {a : α} (ha : Q a) : InStep P R Q (pure a) (pure a) :=
  fun _ _ h => .ok ha h

theorem inStep_throw (e : Error) : InStep P R Q (throw e) (throw e) := fun _ _ h => .error h

theorem inStep_bind {f : α → SessionM σ β} {g : α → SessionM τ β} (hx : InStep P R Q x y)
    (hf : ∀ a, Q a → InStep P R Q' (f a) (g a)) : InStep P R Q' (x >>= f) (y >>= g) := by
  intro s t h
  have hrun := hx s t h
  rw [SessionM.bind_apply, SessionM.bind_apply]
  generalize x s = r, y t = r' at hrun
  cases hrun with
  | ok ha h => exact hf _ ha _ _ h
  | error h => exact .error h

theorem inStep_tryCatch {f : Error → SessionM σ α} {g : Error → SessionM τ α}
    (hx : InStep P R Q x y) (hf : ∀ e, InStep P R Q (f e) (g e)) :
    InStep P R Q (tryCatch x f) (tryCatch y g) := by
  intro s t h
  have hrun := hx s t h
  rw [SessionM.tryCatch_apply, SessionM.tryCatch_apply]
  generalize x s = r, y t = r' at hrun
  cases hrun with
  | ok ha h => exact .ok ha h
  | error h => exact hf _ _ _ h

theorem inStep_get_bind {f : Session σ → SessionM σ α} {g : Session τ → SessionM τ α}
    (hf : ∀ s t, Paired P R s t → InStep P R Q (f s) (g t)) :
    InStep P R Q (get >>= f) (get >>= g) :=
  fun s t h => hf s t h s t h

theorem inStep_modify {c : Context → Context}
    (hc : ∀ context : Context, (∀ d, context.database = some d → P d) → context.marks.Names P →
      (∀ d, (c context).database = some d → P d) ∧ (c context).marks.Names P) :
    InStep P R (fun _ => True) (modify fun s => ⟨c s.context, s.storage⟩)
      (modify fun s => ⟨c s.context, s.storage⟩) := by
  intro s t h
  obtain ⟨hactive, hheld⟩ := hc s.context h.active h.held
  exact .ok trivial ⟨congrArg c h.context, hactive, hheld, h.storage⟩

theorem inStep_setContext {c : Context} (hactive : ∀ d, c.database = some d → P d)
    (hheld : c.marks.Names P) :
    InStep P R (fun _ => True) (setContext c) (setContext c) :=
  fun _ _ h => .ok trivial ⟨rfl, hactive, hheld, h.storage⟩

theorem inStep_ofExcept {r : Except Error α} (hr : ∀ a, r = .ok a → Q a) :
    InStep P R Q (ofExcept r) (ofExcept r) := by
  cases r with
  | error e => exact inStep_throw e
  | ok a => exact inStep_pure (hr a rfl)

theorem inStep_if {c : Prop} [Decidable c] {x' : SessionM σ α} {y' : SessionM τ α}
    (h : InStep P R Q x y) (h' : InStep P R Q x' y') :
    InStep P R Q (if c then x else x') (if c then y else y') := by
  split
  · exact h
  · exact h'

theorem inStep_refuse_bind {c : Prop} [Decidable c] {e : Error} {f : β → SessionM σ α}
    {g : β → SessionM τ α} (h : InStep P R Q x y) :
    InStep P R Q (if c then throw e >>= f else x) (if c then throw e >>= g else y) :=
  inStep_if (fun _ _ h => .error h) h

theorem inStep_requireDatabase : InStep P R P requireDatabase requireDatabase := by
  intro s t h
  rw [SessionM.requireDatabase_apply, SessionM.requireDatabase_apply, ← h.context]
  cases hd : s.context.database with
  | none => exact .error h
  | some d => exact .ok (h.active d hd) h

theorem inStep_nextId (table : String) (t : Table) :
    InStep P R (fun _ => True) (nextId table t) (nextId table t) :=
  inStep_get_bind fun s t h => by
    rw [h.context]
    exact inStep_ofExcept fun _ _ => trivial

section Storages
variable [Storage σ] [Storage τ] (echoes : Echoes P R)
include echoes

theorem inStep_ask {q : Query α} (hq : q.Within P) :
    InStep P R (fun _ => True) (ask q) (ask q) := by
  intro s t h
  rw [SessionM.ask_apply, SessionM.ask_apply, echoes.ask q h.storage hq]
  cases Storage.ask q t.storage with
  | error e => exact .error h
  | ok a => exact .ok trivial h

theorem inStep_ask_listTables {d : String} (hd : P d) :
    InStep P R (fun tables => ∀ u ∈ tables, P u) (ask (.listTables d)) (ask (.listTables d)) := by
  intro s t h
  rw [SessionM.ask_apply, SessionM.ask_apply, ← echoes.ask (.listTables d) h.storage hd]
  cases hq : Storage.ask (.listTables d) s.storage with
  | error e => exact .error h
  | ok tables => exact .ok (echoes.listed h.storage hd hq) h

theorem inStep_change {c : Change} (hc : c.Within P) :
    InStep P R (fun _ => True) (change c) (change c) := by
  intro s t h
  have hrun := echoes.change c h.storage hc
  rw [Session.change, Session.change]
  generalize Storage.change c s.storage = r, Storage.change c t.storage = r' at hrun
  cases hrun with
  | ok _ hstorage => exact .ok trivial ⟨h.context, h.active, h.held, hstorage⟩
  | error hstorage => exact .error ⟨h.context, h.active, h.held, hstorage⟩

theorem inStep_ask_bind {q : Query β} {f : β → SessionM σ α} {g : β → SessionM τ α}
    (hq : q.Within P) (hf : ∀ b, InStep P R Q (f b) (g b)) :
    InStep P R Q (ask q >>= f) (ask q >>= g) :=
  inStep_bind (inStep_ask echoes hq) fun b _ => hf b

theorem inStep_change_bind {c : Change} {f : Unit → SessionM σ α} {g : Unit → SessionM τ α}
    (hc : c.Within P) (hf : InStep P R Q (f ()) (g ())) :
    InStep P R Q (change c >>= f) (change c >>= g) :=
  inStep_bind (inStep_change echoes hc) fun _ _ => hf

theorem inStep_saveMarks : InStep P R (fun _ => True) saveMarks saveMarks := by
  refine inStep_bind inStep_requireDatabase fun d hd => inStep_get_bind fun s t h => ?_
  rw [← h.context]
  exact inStep_change echoes ⟨hd, h.held⟩

theorem inStep_recordId {table : String} (ht : P table) (id : UInt64) :
    InStep P R (fun _ => True) (recordId table id) (recordId table id) := by
  refine inStep_bind inStep_requireDatabase fun _ _ =>
    inStep_bind (Q := fun _ => True) ?_ fun _ _ => inStep_saveMarks echoes
  exact inStep_modify (c := fun c => { c with marks := c.marks.insert table id })
    fun _ hactive hheld => ⟨hactive, hheld.insert ht id⟩

theorem inStep_forgetTable (table : String) :
    InStep P R (fun _ => True) (forgetTable table) (forgetTable table) := by
  refine inStep_get_bind fun s t h => ?_
  rw [h.context]
  refine inStep_if (inStep_bind (Q := fun _ => True) ?_ fun _ _ => inStep_saveMarks echoes)
    (inStep_pure trivial)
  exact inStep_modify (c := fun c => { c with marks := c.marks.erase table })
    fun _ hactive hheld => ⟨hactive, hheld.erase table⟩

theorem inStep_loadTable {table : String} (ht : P table) :
    InStep P R (fun loaded => P loaded.1) (loadTable table) (loadTable table) := by
  refine inStep_bind inStep_requireDatabase fun d hd => inStep_ask_bind echoes ⟨hd, ht⟩ fun _ => ?_
  refine inStep_refuse_bind (inStep_ask_bind echoes ⟨hd, ht⟩ fun _ => ?_)
  exact inStep_pure hd

theorem inStep_loadTitled {table : String} (ht : P table) :
    InStep P R (fun loaded => P loaded.1) (loadTitled table) (loadTitled table) := by
  refine inStep_bind (inStep_loadTable echoes ht) fun ⟨d, t⟩ hd => ?_
  exact inStep_refuse_bind (inStep_pure hd)

/-- The highest ids that are stored are those of the tables that are listed. -/
theorem inStep_storedIds {d : String} (hd : P d) {tables : List String} (ht : ∀ u ∈ tables, P u) :
    InStep P R (fun stored => stored.map (·.1) = tables)
      (tables.mapM fun u => do pure (u, (Table.ofLines (← ask (.readTable d u))).maxId))
      (tables.mapM fun u => do pure (u, (Table.ofLines (← ask (.readTable d u))).maxId)) := by
  induction tables with
  | nil => exact inStep_pure rfl
  | cons u rest ih =>
    obtain ⟨hu, hrest⟩ := List.forall_mem_cons.1 ht
    rw [List.mapM_cons, List.mapM_cons, bind_assoc, bind_assoc]
    refine inStep_ask_bind echoes ⟨hd, hu⟩ fun lines => ?_
    rw [pure_bind, pure_bind]
    refine inStep_bind (ih hrest) fun stored hstored => inStep_pure ?_
    rw [List.map_cons, hstored]

theorem inStep_switchTo {d : String} (hd : P d) :
    InStep P R (fun _ => True) (switchTo d) (switchTo d) := by
  refine inStep_bind (inStep_ask_listTables echoes hd) fun tables ht => ?_
  refine inStep_ask_bind echoes hd fun marks => ?_
  refine inStep_bind (inStep_storedIds echoes hd ht) fun stored hstored => ?_
  refine inStep_setContext ?_ ?_
  · rintro _ ⟨⟩
    exact hd
  · exact names_raiseMarks marks (hstored ▸ ht)

end Storages

end Rules

namespace Statement
open Session
variable {σ τ : Type} [Storage σ] [Storage τ] {P : String → Prop} {R : σ → τ → Prop}
  (echoes : Echoes P R)
include echoes

theorem inStep_deleteTables {d : String} (hd : P d) {tables : List String}
    (ht : ∀ u ∈ tables, P u) :
    InStep P R (fun _ => True) (deleteTables d tables) (deleteTables d tables) := by
  induction tables with
  | nil => exact inStep_pure trivial
  | cons u rest ih =>
    obtain ⟨hu, hrest⟩ := List.forall_mem_cons.1 ht
    refine inStep_bind (inStep_tryCatch (Q := fun _ => True) ?_ fun _ => inStep_pure trivial)
      fun _ _ => inStep_bind (ih hrest) fun _ _ => inStep_pure trivial
    exact inStep_change_bind echoes ⟨hd, hu⟩ (inStep_pure trivial)

theorem inStep_use {d : String} (hd : P d) :
    InStep P R (fun _ => True) (executeUse d) (executeUse d) := by
  refine inStep_ask_bind echoes hd fun _ => inStep_refuse_bind ?_
  exact inStep_bind (inStep_switchTo echoes hd) fun _ _ => inStep_pure trivial

theorem inStep_createDatabase {d : String} (hd : P d) :
    InStep P R (fun _ => True) (executeCreateDatabase d) (executeCreateDatabase d) := by
  refine inStep_ask_bind echoes hd fun _ => inStep_refuse_bind ?_
  exact inStep_change_bind echoes hd (inStep_pure trivial)

theorem inStep_dropDatabase {d : String} (hd : P d) :
    InStep P R (fun _ => True) (executeDropDatabase d) (executeDropDatabase d) := by
  refine inStep_ask_bind echoes hd fun _ => inStep_refuse_bind ?_
  refine inStep_bind (inStep_ask_listTables echoes hd) fun tables ht => ?_
  refine inStep_bind (inStep_deleteTables echoes hd ht) fun _ _ => inStep_refuse_bind ?_
  refine inStep_bind (inStep_tryCatch (inStep_change echoes hd) fun _ => inStep_throw _)
    fun _ _ => inStep_get_bind fun s t h => ?_
  rw [h.context]
  refine inStep_if ?_ (inStep_pure trivial)
  exact inStep_bind (inStep_setContext nofun IdMarks.names_empty)
    fun _ _ => inStep_pure trivial

theorem inStep_createTable {table : String} (ht : P table) (columns : List String) :
    InStep P R (fun _ => True) (executeCreateTable table columns)
      (executeCreateTable table columns) := by
  refine inStep_bind inStep_requireDatabase fun d hd => inStep_ask_bind echoes ⟨hd, ht⟩ fun _ =>
    inStep_refuse_bind (inStep_change_bind echoes ⟨hd, ht⟩ ?_)
  exact inStep_bind (inStep_forgetTable echoes table) fun _ _ => inStep_pure trivial

theorem inStep_dropTable {table : String} (ht : P table) :
    InStep P R (fun _ => True) (executeDropTable table) (executeDropTable table) := by
  refine inStep_bind inStep_requireDatabase fun d hd => inStep_ask_bind echoes ⟨hd, ht⟩ fun _ =>
    inStep_refuse_bind (inStep_change_bind echoes ⟨hd, ht⟩ ?_)
  exact inStep_bind (inStep_forgetTable echoes table) fun _ _ => inStep_pure trivial

theorem inStep_alter {table : String} (ht : P table) (what : ColumnChange) (column : String) :
    InStep P R (fun _ => True) (executeAlter table what column)
      (executeAlter table what column) := by
  refine inStep_bind (inStep_loadTable echoes ht) fun ⟨d, t⟩ hd => inStep_refuse_bind ?_
  have hwrite (t' : Table) : InStep P R (fun _ => True)
      (do change (.writeTable d table t'.toLines); pure (Answer.alter table))
      (do change (.writeTable d table t'.toLines); pure (Answer.alter table)) :=
    inStep_change_bind echoes ⟨hd, ht⟩ (inStep_pure trivial)
  cases what with
  | add => exact inStep_refuse_bind (hwrite _)
  | drop =>
    dsimp only
    rw [bind_map_left, bind_map_left]
    exact inStep_bind (inStep_ofExcept fun _ _ => trivial) fun i _ => hwrite _

theorem inStep_insert {table : String} (ht : P table) (literals : List String) :
    InStep P R (fun _ => True) (executeInsert table literals) (executeInsert table literals) := by
  refine inStep_bind (inStep_loadTable echoes ht) fun ⟨d, old⟩ hd => ?_
  refine inStep_bind (inStep_ofExcept fun _ _ => trivial) fun values _ => ?_
  refine inStep_bind (inStep_ofExcept fun _ _ => trivial) fun t _ => inStep_refuse_bind ?_
  refine inStep_bind (inStep_nextId table t) fun id _ => ?_
  refine inStep_bind (inStep_recordId echoes ht id) fun _ _ => ?_
  exact inStep_change_bind echoes ⟨hd, ht⟩ (inStep_pure trivial)

theorem inStep_select {table : String} (ht : P table) (shown : Projection)
    (condition : Option Condition) :
    InStep P R (fun _ => True) (executeSelect table shown condition)
      (executeSelect table shown condition) :=
  inStep_bind (inStep_loadTitled echoes ht) fun _ _ =>
    inStep_bind (inStep_ofExcept fun _ _ => trivial) fun _ _ => inStep_pure trivial

theorem inStep_update {table : String} (ht : P table) (pairs : List (String × String))
    (condition : Option Condition) :
    InStep P R (fun _ => True) (executeUpdate table pairs condition)
      (executeUpdate table pairs condition) := by
  refine inStep_bind (inStep_loadTitled echoes ht) fun ⟨d, t⟩ hd => ?_
  refine inStep_bind (inStep_ofExcept fun _ _ => trivial) fun cells _ => ?_
  exact inStep_change_bind echoes ⟨hd, ht⟩ (inStep_pure trivial)

theorem inStep_delete {table : String} (ht : P table) (condition : Option Condition) :
    InStep P R (fun _ => True) (executeDelete table condition)
      (executeDelete table condition) := by
  refine inStep_bind (inStep_loadTitled echoes ht) fun ⟨d, t⟩ hd => ?_
  exact inStep_change_bind echoes ⟨hd, ht⟩ (inStep_pure trivial)

theorem inStep_join {left right : String} (hl : P left) (hr : P right)
    (leftColumn rightColumn : String) :
    InStep P R (fun _ => True) (executeJoin left right leftColumn rightColumn)
      (executeJoin left right leftColumn rightColumn) :=
  inStep_bind (inStep_loadTitled echoes hl) fun _ _ =>
    inStep_bind (inStep_loadTitled echoes hr) fun _ _ =>
      inStep_bind (inStep_ofExcept fun _ _ => trivial) fun _ _ =>
        inStep_bind (inStep_ofExcept fun _ _ => trivial) fun _ _ => inStep_pure trivial

/-- A statement hands over the names that it has, the active database and the tables listed. -/
theorem inStep_execute {st : Statement} (names : st.Names P P) :
    InStep P R (fun _ => True) st.execute st.execute := by
  cases st with
  | use d => exact inStep_use echoes names
  | createDatabase d => exact inStep_createDatabase echoes names
  | dropDatabase d => exact inStep_dropDatabase echoes names
  | createTable table columns => exact inStep_createTable echoes names columns
  | dropTable table => exact inStep_dropTable echoes names
  | alter table what column => exact inStep_alter echoes names what column
  | insert table literals => exact inStep_insert echoes names literals
  | select table shown condition => exact inStep_select echoes names shown condition
  | update table pairs condition => exact inStep_update echoes names pairs condition
  | delete table condition => exact inStep_delete echoes names condition
  | join left right leftColumn rightColumn =>
    exact inStep_join echoes names.1 names.2 leftColumn rightColumn

end Statement

def Faulty.Over {σ τ : Type} (R : σ → τ → Prop) (s : Faulty σ) (t : Faulty τ) : Prop :=
  s.faults = t.faults ∧ R s.base t.base

theorem Echoes.faulty {σ τ : Type} [Storage σ] [Storage τ] {P : String → Prop} {R : σ → τ → Prop}
    (echoes : Echoes P R) : Echoes P (Faulty.Over R) where
  ask q h hq := by
    rw [Faulty.ask_apply, Faulty.ask_apply, h.1, echoes.ask q h.2 hq]
  listed h hd ht := by
    rw [Faulty.ask_apply] at ht
    split at ht
    · cases ht
    · exact echoes.listed h.2 hd ht
  change {s t} c h hc := by
    rw [Faulty.change_apply, Faulty.change_apply, h.1]
    split
    · exact .error h
    · have hrun := echoes.change c h.2 hc
      generalize Storage.change c s.base = r, Storage.change c t.base = r' at hrun
      cases hrun with
      | ok _ hbase => exact .ok trivial ⟨rfl, hbase⟩
      | error hbase => exact .error ⟨rfl, hbase⟩

namespace Session
variable {σ τ : Type} [Storage σ] [Storage τ] {P : String → Prop} {R : σ → τ → Prop}

theorem Paired.respond (echoes : Echoes P R) {s : Session σ} {t : Session τ} (h : s.Paired P R t)
    {text : String} (names : ∀ st, Statement.ofText text = .ok st → st.Names P P) :
    (s.respond text).1 = (t.respond text).1 ∧ (s.respond text).2.Paired P R (t.respond text).2 := by
  have hrun : InStep P R (fun _ => True) (execute text : SessionM σ Answer) (execute text) :=
    inStep_bind (inStep_ofExcept names) fun _ hst => Statement.inStep_execute echoes hst
  have hend := hrun s t h
  unfold Session.respond
  split
  · exact ⟨rfl, h⟩
  · generalize execute text s = r, execute text t = r' at hend
    cases hend with
    | ok _ h => exact ⟨rfl, h⟩
    | error h => exact ⟨rfl, h⟩

/-- Paired sessions stay so, whatever text they receive, whatever fails, and if they start again. -/
theorem Paired.act (echoes : Echoes P R) {s : Session (Faulty σ)} {t : Session (Faulty τ)}
    (h : s.Paired P (Faulty.Over R) t)
    (names : ∀ text st, Statement.ofText text = .ok st → st.Names P P) (a : Action) :
    (s.act a).Paired P (Faulty.Over R) (t.act a) := by
  cases a with
  | inject faults => exact ⟨h.context, h.active, h.held, rfl, h.storage.2⟩
  | run text => exact (h.respond echoes.faulty (names text)).2
  | restart => exact ⟨rfl, nofun, IdMarks.names_empty, h.storage⟩

end Session

namespace Sharing
variable {σ τ : Type} [Storage σ] [Storage τ] {P : String → Prop} {R : σ → τ → Prop}

def Paired (P : String → Prop) (R : σ → τ → Prop) (s : Sharing σ) (t : Sharing τ) : Prop :=
  ∀ k, (s.session k).Paired P (Faulty.Over R) (t.session k)

/-- All sessions stay paired, whatever happens to them. -/
theorem Paired.acts (echoes : Echoes P R) {s : Sharing σ} {t : Sharing τ} (h : s.Paired P R t)
    (names : ∀ text st, Statement.ofText text = .ok st → st.Names P P)
    (actions : List (Nat × Action)) : (s.acts actions).Paired P R (t.acts actions) := by
  induction actions generalizing s t with
  | nil => exact h
  | cons a rest ih =>
    refine ih fun k => ?_
    have hact := (h a.1).act echoes names a.2
    by_cases hk : k = a.1
    · rw [session, session, Sharing.act, Sharing.act]
      dsimp only
      rw [if_pos hk, if_pos hk]
      exact hact
    · rw [session, session, Sharing.act, Sharing.act]
      dsimp only
      rw [if_neg hk, if_neg hk]
      exact ⟨(h k).context, (h k).active, (h k).held, hact.storage⟩

end Sharing

end Tabular
