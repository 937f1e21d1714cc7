import Tabular.Proofs.Session.Refusals

/-! Statements that make or remove a table do all of it or nothing, unless the mark of the table is
to be forgotten and the marks cannot be stored. -/
namespace Tabular

/-- The statement makes a table (`there`) or removes it. -/
def Statement.Turns (table : String) (there : Bool) : Statement → Prop
  | createTable t _ => t = table ∧ there = true
  | dropTable t => t = table ∧ there = false
  | _ => False

namespace Session
variable {s s' : Session (Faulty Memory)} {d table text : String} {there : Bool}

/-- The table is made or removed and its mark is forgotten, but what is stored of marks is as
before. -/
structure HalfTurned (s : Session (Faulty Memory)) (d table : String) (there : Bool)
    (s' : Session (Faulty Memory)) : Prop where
  remembered : s.context.marks.contains table = true
  before : (s.storage.base.lines? d table).isSome = !there
  after : (s'.storage.base.lines? d table).isSome = there
  others : ∀ e t, ¬(e = d ∧ t = table) → s'.storage.base.lines? e t = s.storage.base.lines? e t
  stored : ∀ e, s'.storage.base.marks? e = s.storage.base.marks? e
  context_eq : s'.context = ⟨some d, s.context.marks.erase table⟩

inductive TurnsTable (d table : String) : Bool → Change → Prop where
  | create (lines : List String) : TurnsTable d table true (.createTable d table lines)
  | delete : TurnsTable d table false (.deleteTable d table)

theorem TurnsTable.changed {c : Change} (hc : TurnsTable d table there c) {m m' : Memory}
    (h : m.changed c = .ok m') :
    (m.marks? d).isSome = true ∧ (m.lines? d table).isSome = !there ∧
      (m'.lines? d table).isSome = there ∧
      (∀ e t, ¬(e = d ∧ t = table) → m'.lines? e t = m.lines? e t) ∧
      ∀ e, m'.marks? e = m.marks? e := by
  cases hc with
  | create lines =>
    obtain ⟨hd, hfree, hmarks, hlines⟩ := Memory.of_createTable h
    refine ⟨hd, by rw [hfree]; rfl, ?_, fun e t he => ?_, hmarks⟩
    · rw [hlines, if_pos ⟨rfl, rfl⟩]
      rfl
    · rw [hlines, if_neg he]
  | delete =>
    obtain ⟨hold, hmarks, hlines⟩ := Memory.of_deleteTable h
    refine ⟨Memory.marks?_of_lines? hold, hold, ?_, fun e t he => ?_, hmarks⟩
    · rw [hlines, if_pos ⟨rfl, rfl⟩]
      rfl
    · rw [hlines, if_neg he]

/-- The mark of a table can be forgotten unless an injected fault keeps the marks from being
stored; then it is forgotten in the session alone. -/
theorem fails_forgetTable (hd : s.context.database = some d)
    (hthere : (s.storage.base.marks? d).isSome = true) :
    Fails (forgetTable table) s fun e s' => e = .storage (.injected .saveIdMarks) ∧
      s.context.marks.contains table = true ∧
        s' = ⟨⟨some d, s.context.marks.erase table⟩, s.storage⟩ := by
  intro e s' h
  rw [forgetTable_apply hd, hd] at h
  split at h
  · next hremembered =>
    refine fails_change_of_possible (P := fun e s' => e = .storage (.injected .saveIdMarks) ∧
      _ ∧ s' = _) ?_ ⟨rfl, hremembered, rfl⟩ e s' h
    exact hthere
  · cases h

/-- How a statement that makes or removes a table fails: nothing is done, or all but storing the
marks. -/
def FailsWhole (s : Session (Faulty Memory)) (table : String) (there : Bool) (e : Error)
    (s' : Session (Faulty Memory)) : Prop :=
  if e = .storage (.injected .saveIdMarks) then
    ∃ d, s.context.database = some d ∧ s.HalfTurned d table there s'
  else s' = s

theorem failsWhole_of_ne {e : Error} (he : e ≠ .storage (.injected .saveIdMarks)) :
    s.FailsWhole table there e s := by
  rw [FailsWhole, if_neg he]

/-- The mark of the table is forgotten last, after the table is turned. -/
theorem fails_turn {c : Change} {a : Answer} (hc : TurnsTable d table there c)
    (hd : s.context.database = some d) :
    Fails (do change c; forgetTable table; pure a) s (s.FailsWhole table there) := by
  refine fails_change_bind (fun e he => failsWhole_of_ne ?_) fun m hm => ?_
  · rintro rfl
    cases hc <;> simp [Change.complaints, Change.method] at he
  · obtain ⟨hthere, hbefore, hafter, hothers, hmarks⟩ := hc.changed hm
    let turned : Session (Faulty Memory) := ⟨s.context, { s.storage with base := m }⟩
    have hd' : turned.context.database = some d := hd
    have hthere' : (turned.storage.base.marks? d).isSome = true := by
      rw [show turned.storage.base = m from rfl, hmarks, hthere]
    refine fails_bind (fun e s' h => ?_) fun _ _ _ => fails_pure
    obtain ⟨rfl, hremembered, rfl⟩ := fails_forgetTable hd' hthere' e s' h
    rw [FailsWhole, if_pos rfl]
    exact ⟨d, hd, ⟨hremembered, hbefore, hafter, hothers, hmarks, rfl⟩⟩

end Session

namespace Statement
open Session
variable {s s' : Session (Faulty Memory)} {d table text : String} {there : Bool}

theorem fails_tableExists_bind {f : Bool → SessionM (Faulty Memory) Answer}
    (hf : ∀ known, Fails (f known) s (s.FailsWhole table there)) :
    Fails (ask (.tableExists d table) >>= f) s (s.FailsWhole table there) := by
  refine fails_ask_bind (fun e he => ?_) fun known _ => hf known
  have he : e = .storage (.injected .tableExists) := List.mem_singleton.1 he
  rw [he]
  exact failsWhole_of_ne nofun

theorem fails_createTable (table : String) (columns : List String) :
    Fails (executeCreateTable table columns) s (s.FailsWhole table true) := by
  refine fails_requireDatabase_bind (failsWhole_of_ne nofun) fun d hd => ?_
  refine fails_tableExists_bind fun known => ?_
  exact fails_refuse_bind (failsWhole_of_ne nofun) fun _ => fails_turn (.create _) hd

theorem fails_dropTable (table : String) :
    Fails (executeDropTable table) s (s.FailsWhole table false) := by
  refine fails_requireDatabase_bind (failsWhole_of_ne nofun) fun d hd => ?_
  refine fails_tableExists_bind fun known => ?_
  exact fails_refuse_bind (failsWhole_of_ne nofun) fun _ => fails_turn .delete hd

theorem Turns.fails {st : Statement} (h : st.Turns table there) :
    Fails (st.execute : SessionM (Faulty Memory) Answer) s (s.FailsWhole table there) := by
  cases st with
  | createTable t columns =>
    obtain ⟨rfl, rfl⟩ := h
    exact fails_createTable _ _
  | dropTable t =>
    obtain ⟨rfl, rfl⟩ := h
    exact fails_dropTable _
  | _ => exact h.elim

theorem Turns.effect {st : Statement} {v w : Session Memory} {a : Answer}
    (hst : st.Turns table there) (h : st.Effect v (.ok a) w) :
    ∃ d, v.context.database = some d ∧ w.context.database = some d ∧
      (v.storage.lines? d table).isSome = !there ∧ (w.storage.lines? d table).isSome = there := by
  have hforgot : ∀ {d m r}, v.context.database = some d →
      Forgot { v with storage := m } table r w →
      w.context.database = some d ∧ w.storage.lines? d table = m.lines? d table := by
    intro d m r hd hw
    refine ⟨?_, hw.lines?_eq d table⟩
    cases hw with
    | unknown => exact hd
    | marked _ hm => cases hm <;> exact hd
  generalize hr : Except.ok a = r at h
  cases h with
  | refused | dropTables | burned => cases hr
  | @createTable d t columns m r w hd hm hw =>
    obtain ⟨rfl, rfl⟩ := hst
    obtain ⟨hd', hl⟩ := hforgot hd hw
    obtain ⟨-, hbefore, hafter, -⟩ := (TurnsTable.create _).changed hm
    exact ⟨d, hd, hd', hbefore, by rw [hl, hafter]⟩
  | @dropTable d t m r w hd hm hw =>
    obtain ⟨rfl, rfl⟩ := hst
    obtain ⟨hd', hl⟩ := hforgot hd hw
    obtain ⟨-, hbefore, hafter, -⟩ := TurnsTable.delete.changed hm
    exact ⟨d, hd, hd', hbefore, by rw [hl, hafter]⟩
  | _ => exact hst.elim

end Statement

namespace Session
variable {d table text : String} {there : Bool}

/-- A statement that makes or removes a table and succeeds has done so. One that fails has done
nothing, unless it is an injected fault that keeps the marks from being stored: then the table is
made or removed all the same, and the session alone forgets its mark. -/
theorem turns_whole_table (s : Session (Faulty Memory)) {st : Statement}
    (hst : Statement.ofText text = .ok st) (hturns : st.Turns table there) :
    (∀ a, s.answer text = .ok a →
      ∃ d, s.context.database = some d ∧ (s.respond text).2.context.database = some d ∧
        (s.storage.base.lines? d table).isSome = !there ∧
        ((s.respond text).2.storage.base.lines? d table).isSome = there) ∧
    ∀ e, s.answer text = .error e →
      (e ≠ .storage (.injected .saveIdMarks) → (s.respond text).2 = s) ∧
      (e = .storage (.injected .saveIdMarks) →
        ∃ d, s.context.database = some d ∧ s.HalfTurned d table there (s.respond text).2) := by
  constructor
  · intro a ha
    obtain ⟨st', hst', heffect⟩ := effect_of_answer ha
    cases hst.symm.trans hst'
    generalize (s.respond text).2 = s' at heffect ⊢
    exact hturns.effect heffect
  · intro e he
    have hfails : s.FailsWhole table there e (s.respond text).2 := by
      have hrun := respond_of_error he
      rw [execute, hst] at hrun
      exact hturns.fails e _ hrun
    rw [FailsWhole] at hfails
    refine ⟨fun hne => ?_, fun heq => ?_⟩
    · rwa [if_neg hne] at hfails
    · rwa [if_pos heq] at hfails

/-- A table stays, with its mark, while the memory refuses to delete it. -/
theorem turns_whole_table_undeleted :
    ∃ s : Session (Faulty Memory),
      s.answer "DROP TABLE t;" = .error (.storage (.injected .deleteTable)) ∧
        (s.respond "DROP TABLE t;").2 = s := by
  let s : Session (Faulty Memory) := acts ⟨{}, { base := {} }⟩
    [.run "CREATE DATABASE d;", .run "USE d;", .run "CREATE TABLE t (a);",
      .run "INSERT INTO t VALUES ('x');", .inject [⟨.deleteTable, some "t"⟩]]
  have hst : Statement.ofText "DROP TABLE t;" = .ok (.dropTable "t") := by decide +kernel
  have hanswer : s.answer "DROP TABLE t;" = .error (.storage (.injected .deleteTable)) := by
    decide +kernel
  exact ⟨s, hanswer, ((turns_whole_table s hst ⟨rfl, rfl⟩).2 _ hanswer).1 nofun⟩

/-- Marks that cannot be stored make a statement fail that has removed a table, and one that has
made a table. -/
theorem not_turns_whole_table :
    let dropped : Session (Faulty Memory) := acts ⟨{}, { base := {} }⟩
      [.run "CREATE DATABASE d;", .run "USE d;", .run "CREATE TABLE t (a);",
        .run "INSERT INTO t VALUES (1);", .inject [⟨.saveIdMarks, none⟩]]
    let created : Session (Faulty Memory) := acts ⟨{}, { base := {} }⟩
      [.run "CREATE DATABASE d;", .run "USE d;", .run "CREATE TABLE t (a);",
        .run "CREATE TABLE u (a);", .run "INSERT INTO t VALUES (1);",
        .inject [⟨.deleteTable, some "u"⟩], .run "DROP DATABASE d;",
        .inject [⟨.saveIdMarks, none⟩]]
    (dropped.answer "DROP TABLE t;" = .error (.storage (.injected .saveIdMarks)) ∧
      (dropped.storage.base.lines? "d" "t").isSome = true ∧
      ((dropped.respond "DROP TABLE t;").2.storage.base.lines? "d" "t").isSome = false) ∧
    created.answer "CREATE TABLE t (a);" = .error (.storage (.injected .saveIdMarks)) ∧
      (created.storage.base.lines? "d" "t").isSome = false ∧
      ((created.respond "CREATE TABLE t (a);").2.storage.base.lines? "d" "t").isSome = true := by
  decide +kernel

end Session

end Tabular
