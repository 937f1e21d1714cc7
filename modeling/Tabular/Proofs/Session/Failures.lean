import Tabular.Proofs.Session.Success

/-! Statements that fail leave databases, tables and rows as they are. -/
namespace Tabular

structure Memory.SameTables (m m' : Memory) : Prop where
  databases (d : String) : (m'.marks? d).isSome = (m.marks? d).isSome
  lines (d t : String) : m'.lines? d t = m.lines? d t

theorem Memory.SameTables.refl (m : Memory) : m.SameTables m := ⟨fun _ => rfl, fun _ _ => rfl⟩

theorem Memory.sameTables_saveIdMarks {m m' : Memory} {d : String} {marks : IdMarks}
    (h : m.changed (.saveIdMarks d marks) = .ok m') : m.SameTables m' := by
  obtain ⟨hd, hmarks, hlines⟩ := Memory.of_saveIdMarks h
  refine ⟨fun e => ?_, hlines⟩
  rw [hmarks]
  split
  · next he => rw [he, hd]; rfl
  · rfl

/-- The statement changes databases and tables by its last step alone. -/
def Statement.ChangesLast : Statement → Prop
  | use _ | createDatabase _ | alter _ _ _ | insert _ _ | select _ _ _ | update _ _ _ | delete _ _
  | join _ _ _ _ => True
  | dropDatabase _ | createTable _ _ | dropTable _ => False

namespace Statement.Effect
open Session
variable {v w : Session Memory} {st : Statement} {e : Error}

/-- Only storage that fails lets a statement fail after its first change. -/
theorem eq_of_error (h : st.Effect v (.error e) w) (he : ∀ fault, e ≠ .storage fault) : w = v := by
  generalize hr : Except.error e = r at h
  cases h with
  | refused => rfl
  | dropTables => cases hr; exact absurd rfl (he _)
  | createTable _ _ hw | dropTable _ _ hw =>
    cases hw with
    | unknown => cases hr
    | marked _ hw =>
      cases hw with
      | unsaved fault => cases hr; exact absurd rfl (he fault)
      | saved => cases hr
  | burned _ _ fault => cases hr; exact absurd rfl (he fault)
  | _ => cases hr

/-- Of the statements that change tables last, only one that adds a row can fail after a change. -/
theorem eq_or_insert_of_error (h : st.Effect v (.error e) w) (hst : st.ChangesLast) :
    w = v ∨ ∃ table literals, st = .insert table literals := by
  generalize hr : Except.error e = r at h
  cases h with
  | refused => exact .inl rfl
  | dropTables | createTable | dropTable => exact hst.elim
  | burned => exact .inr ⟨_, _, rfl⟩
  | _ => cases hr

end Statement.Effect

namespace SessionM
variable {σ α β : Type}

def Idle (x : SessionM σ α) : Prop :=
  ∀ s, match x s with
    | .ok _ s' => s' = s
    | .error _ s' => s' = s

theorem idle_ofExcept (x : Except Error α) : Idle (ofExcept x : SessionM σ α) := by
  intro s
  rw [ofExcept_apply]
  cases x <;> rfl

theorem idle_ask [Storage σ] (q : Query α) : Idle (Session.ask q : SessionM σ α) :=
  fun s => idle_ofExcept (Storage.ask q s.storage) s

theorem idle_requireDatabase : Idle (Session.requireDatabase : SessionM σ String) := by
  intro s
  rw [requireDatabase_apply]
  cases s.context.database <;> rfl

theorem Idle.bind {x : SessionM σ α} {f : α → SessionM σ β} (hx : Idle x) (hf : ∀ a, Idle (f a)) :
    Idle (x >>= f) := by
  intro s
  have hx := hx s
  rw [bind_apply]
  cases h : x s with
  | error e s' => rw [h] at hx; exact hx
  | ok a s' => rw [h] at hx; rw [show s' = s from hx]; exact hf a s

theorem idle_loadTable [Storage σ] (table : String) :
    Idle (Session.loadTable table : SessionM σ (String × Table)) := by
  refine idle_requireDatabase.bind fun d => (idle_ask _).bind fun there => ?_
  cases there with
  | false => exact fun _ => rfl
  | true => exact (idle_ask _).bind fun _ _ => rfl

theorem idle_nextId (table : String) (t : Table) :
    Idle (Session.nextId table t : SessionM σ UInt64) :=
  fun s => idle_ofExcept (s.context.nextId table t) s

/-- After a step that changes nothing, a program fails at once or goes on from where it began. -/
theorem Idle.bind_error {x : SessionM σ α} {f : α → SessionM σ β} (hx : Idle x) {s s' : Session σ}
    {e : Error} (h : (x >>= f) s = .error e s') :
    s' = s ∨ ∃ a, x s = .ok a s ∧ f a s = .error e s' := by
  have hx := hx s
  rw [bind_apply] at h
  cases hr : x s with
  | error e₁ s₁ =>
    rw [hr] at h hx
    cases h
    exact .inl hx
  | ok a s₁ =>
    rw [hr] at h hx
    obtain rfl : s₁ = s := hx
    exact .inr ⟨a, rfl, h⟩

end SessionM

namespace Session
open SessionM
variable {s s' : Session (Faulty Memory)} {e : Error}

/-- A change of storage with faults that fails does nothing. -/
theorem faulty_of_change_error {c : Change} {m m' : Faulty Memory}
    (h : Storage.change c m = .error e m') : m' = m := by
  rw [Faulty.change_apply, Memory.change_apply] at h
  by_cases hfault : m.faults.any (·.hits c.method c.subject) = true
  · rw [if_pos hfault] at h
    cases h
    rfl
  · rw [if_neg hfault] at h
    cases hm : m.base.changed c with
    | ok => rw [hm] at h; cases h
    | error => rw [hm] at h; cases h; rfl

theorem eq_of_change_error {c : Change} (h : change c s = .error e s') : s' = s := by
  rw [change] at h
  cases hc : Storage.change c s.storage with
  | ok => rw [hc] at h; cases h
  | error e₁ m =>
    rw [hc] at h
    cases h
    rw [faulty_of_change_error hc]

/-- What is stored after the marks of a database are, unless they cannot be. -/
def savedBase (s : Faulty Memory) (d : String) (marks : IdMarks) : Memory :=
  match Storage.change (.saveIdMarks d marks) s with
  | .ok _ s' => s'.base
  | .error _ _ => s.base

/-- The id of a row that could not be added is noted, and the marks are stored unless that fails. -/
structure Burned (s : Session (Faulty Memory)) (d table : String) (id : UInt64)
    (s' : Session (Faulty Memory)) : Prop where
  database_eq : s'.context.database = s.context.database
  marks_eq : s'.context.marks = s.context.marks.insert table id
  base_eq : s'.storage.base = savedBase s.storage d s'.context.marks

/-- Once its id is chosen, a row that cannot be added leaves the id burned. -/
theorem burned_of_error {d table : String} {id : UInt64} {c : Change} {a : Answer}
    (hd : s.context.database = some d)
    (h : (do recordId table id; change c; pure a : SessionM (Faulty Memory) Answer) s =
      .error e s') : s.Burned d table id s' := by
  have hwrite : ∀ {s₁}, (do change c; pure a : SessionM (Faulty Memory) Answer) s₁ = .error e s' →
      s' = s₁ := by
    intro s₁ h
    rw [bind_apply] at h
    cases hc : change c s₁ with
    | ok => rw [hc] at h; cases h
    | error e₁ s₂ => rw [hc] at h; cases h; exact eq_of_change_error hc
  rw [bind_apply, recordId_apply hd] at h
  cases hsave : Storage.change (.saveIdMarks d (s.context.marks.insert table id)) s.storage with
  | error e₁ t =>
    rw [change, hsave] at h
    cases h
    refine ⟨rfl, rfl, ?_⟩
    rw [savedBase, hsave, faulty_of_change_error hsave]
  | ok u t =>
    rw [change, hsave] at h
    obtain rfl := hwrite h
    refine ⟨rfl, rfl, ?_⟩
    rw [savedBase, hsave]

end Session

namespace Statement
open Session SessionM
variable {s s' : Session (Faulty Memory)} {e : Error} {table : String} {literals : List String}

theorem executeInsert_error (h : executeInsert table literals s = .error e s') :
    s' = s ∨ ∃ d old t values id, s.shown.Inserts table literals d old t values id ∧
      s.Burned d table id s' := by
  rw [executeInsert] at h
  rcases (idle_loadTable table).bind_error h with hs | ⟨⟨d, old⟩, hload, h⟩
  · exact .inl hs
  have hholds := does_loadTable table s rfl
  rw [hload] at hholds
  rcases (idle_ofExcept _).bind_error h with hs | ⟨values, hvalues, h⟩
  · exact .inl hs
  rcases (idle_ofExcept _).bind_error h with hs | ⟨t, ht, h⟩
  · exact .inl hs
  split at h
  · cases h
    exact .inl rfl
  next hlength =>
  rcases (idle_nextId table t).bind_error h with hs | ⟨id, hid, h⟩
  · exact .inl hs
  have hinserts : s.shown.Inserts table literals d old t values id :=
    ⟨hholds.2, (ofExcept_eq_ok.1 hvalues).1, (ofExcept_eq_ok.1 ht).1, by simpa using hlength,
      (nextId_eq_ok.1 hid).1⟩
  exact .inr ⟨d, old, t, values, id, hinserts, burned_of_error hholds.2.1 h⟩

end Statement

namespace Session
variable {s s' : Session (Faulty Memory)} {text : String} {e : Error}

theorem respond_of_error (h : s.answer text = .error e) :
    execute text s = .error e (s.respond text).2 := by
  unfold answer at h
  cases hr : execute text s with
  | ok a s' => rw [hr] at h; cases h
  | error e₁ s' =>
    rw [hr] at h
    cases h
    rw [respond]
    split
    · next hb =>
      rw [execute, Statement.ofText_of_blank hb] at hr
      cases hr
      rfl
    · rw [hr]

theorem execute_error (h : execute text s = .error e s') :
    s' = s ∨ ∃ st, Statement.ofText text = .ok st ∧ st.execute s = .error e s' := by
  rcases (SessionM.idle_ofExcept _).bind_error h with hs | ⟨st, hst, h⟩
  · exact .inl hs
  · exact .inr ⟨st, (SessionM.ofExcept_eq_ok.1 hst).1, h⟩

theorem Inserts.answer_eq {v : Session Memory} {table d : String} {literals values : List String}
    {old t : Table} {id : UInt64} (h : v.Inserts table literals d old t values id)
    (hst : Statement.ofText text = .ok (.insert table literals)) :
    v.answer text = .ok (.insert table id) := by
  obtain ⟨-, lines, hl, -⟩ := h.holds
  obtain ⟨marks, hm⟩ := Option.isSome_iff_exists.1
    (Memory.marks?_of_lines? (Option.isSome_of_eq_some hl))
  obtain ⟨m, -, -, hrun⟩ := Statement.executeInsert_ok h hm
  exact (answer_of_execute hst hrun).1

theorem Burned.sameTables {d table : String} {id : UInt64} (h : s.Burned d table id s') :
    s.storage.base.SameTables s'.storage.base := by
  rw [h.base_eq, savedBase]
  cases hsave : Storage.change (.saveIdMarks d s'.context.marks) s.storage with
  | error => exact .refl _
  | ok u m => exact Memory.sameTables_saveIdMarks (MemoryBacked.change_ok hsave)

/-- A statement that fails leaves everything as it was if storage is not the cause. If it is, one
that changes tables last leaves all databases, tables and lines, and the active database; one that
adds a row may have noted the id that the row would have had. -/
theorem error_keeps_tables (h : execute text s = .error e s') :
    ((∀ fault, e ≠ .storage fault) →
      s'.context = s.context ∧ s'.storage.base = s.storage.base) ∧
    ∀ fault st, e = .storage fault → Statement.ofText text = .ok st → st.ChangesLast →
      s.storage.base.SameTables s'.storage.base ∧
      s'.context.database = s.context.database ∧
      (s'.context = s.context ∧ s'.storage.base = s.storage.base ∨
        ∃ d table literals id, st = .insert table literals ∧ s.context.database = some d ∧
          s.shown.answer text = .ok (.insert table id) ∧ s.Burned d table id s') := by
  have heffect := does_execute text s rfl
  rw [h] at heffect
  have hsplit : ∀ {t t' : Session (Faulty Memory)}, t'.shown = t.shown →
      t'.context = t.context ∧ t'.storage.base = t.storage.base :=
    fun h => ⟨congrArg (·.context) h, congrArg (·.storage) h⟩
  constructor
  · intro he
    rcases heffect with ⟨_, _, hw⟩ | ⟨st, _, heffect⟩
    · exact hsplit hw
    · exact hsplit (heffect.eq_of_error he)
  · rintro fault st rfl hst hlast
    have hkept : s'.shown = s.shown ∨ ∃ d table literals id, st = .insert table literals ∧
        s.context.database = some d ∧ s.shown.answer text = .ok (.insert table id) ∧
        s.Burned d table id s' := by
      rcases heffect with ⟨_, _, hw⟩ | ⟨st', hst', heffect⟩
      · exact .inl hw
      cases hst.symm.trans hst'
      rcases heffect.eq_or_insert_of_error hlast with hw | ⟨table, literals, rfl⟩
      · exact .inl hw
      rcases execute_error h with hs | ⟨_, hst', hrun⟩
      · exact .inl (congrArg _ hs)
      cases hst.symm.trans hst'
      rcases Statement.executeInsert_error hrun with hs | ⟨d, _, _, _, id, hinserts, hburned⟩
      · exact .inl (congrArg _ hs)
      · exact .inr ⟨d, table, literals, id, rfl, hinserts.holds.1, hinserts.answer_eq hst, hburned⟩
    rcases hkept with hw | ⟨d, table, literals, id, hinsert, hd, hanswer, hburned⟩
    · obtain ⟨hcontext, hbase⟩ := hsplit hw
      exact ⟨hbase ▸ .refl _, congrArg (·.database) hcontext, .inl ⟨hcontext, hbase⟩⟩
    · exact ⟨hburned.sameTables, hburned.database_eq,
        .inr ⟨d, table, literals, id, hinsert, hd, hanswer, hburned⟩⟩

/-- A row that cannot be written burns its id. -/
theorem error_keeps_tables_unwritten_row :
    ∃ s s' : Session (Faulty Memory),
      execute "INSERT INTO t VALUES ('x');" s = .error (.storage (.injected .writeTable)) s' ∧
      s.storage.base.SameTables s'.storage.base ∧ s.Burned "d" "t" 1 s' := by
  let s : Session (Faulty Memory) := acts ⟨{}, { base := {} }⟩
    [.run "CREATE DATABASE d;", .run "USE d;", .run "CREATE TABLE t (a);",
      .inject [⟨.writeTable, some "t"⟩]]
  have hanswer : s.answer "INSERT INTO t VALUES ('x');" =
      .error (.storage (.injected .writeTable)) := by
    decide +kernel
  have hst : Statement.ofText "INSERT INTO t VALUES ('x');" = .ok (.insert "t" ["'x'"]) := by
    decide +kernel
  have hrun := respond_of_error hanswer
  obtain ⟨hsame, -, hkept⟩ := (error_keeps_tables hrun).2 _ _ rfl hst trivial
  have hnoted : (s.respond "INSERT INTO t VALUES ('x');").2.context.marks.get? "t" = some 1 := by
    decide +kernel
  rcases hkept with ⟨hcontext, -⟩ | ⟨d, table, literals, id, hinsert, hd, hid, hburned⟩
  · rw [hcontext, show s.context.marks.get? "t" = none by decide +kernel] at hnoted
    cases hnoted
  · cases hinsert
    obtain rfl : d = "d" := Option.some.inj (hd.symm.trans (by decide +kernel))
    rw [hburned.marks_eq, SortedMap.get?_insert, if_pos rfl] at hnoted
    obtain rfl : id = 1 := Option.some.inj hnoted
    exact ⟨s, _, hrun, hsame, hburned⟩

end Session

end Tabular
