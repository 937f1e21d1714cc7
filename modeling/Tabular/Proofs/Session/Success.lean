import Tabular.Proofs.Session.StoredTables

/-! Statements that succeed over a memory without faults. -/
namespace Tabular

namespace SessionM
variable {σ α β : Type}

theorem bind_ok {x : SessionM σ α} (f : α → SessionM σ β) {s s' : Session σ} {a : α}
    (h : x s = .ok a s') : (x >>= f) s = f a s' := by
  rw [bind_apply, h]

theorem ofExcept_ok {x : Except Error α} (s : Session σ) {a : α} (h : x = .ok a) :
    (ofExcept x : SessionM σ α) s = .ok a s :=
  ofExcept_eq_ok.2 ⟨h, rfl⟩

theorem ask_ok {q : Query α} {s : Session Memory} {a : α} (h : s.storage.ask q = .ok a) :
    Session.ask q s = .ok a s := by
  have hmemory : Storage.ask q s.storage = .ok a := h
  rw [ask_apply, hmemory]

theorem change_ok {c : Change} {s : Session Memory} {m : Memory} (h : s.storage.changed c = .ok m) :
    Session.change c s = .ok () { s with storage := m } := by
  rw [Session.change, Memory.change_apply, h]

theorem requireDatabase_ok {s : Session σ} {d : String} (h : s.context.database = some d) :
    Session.requireDatabase s = .ok d s :=
  requireDatabase_eq_ok.2 ⟨h, rfl⟩

end SessionM

namespace Session
open SessionM
variable {s : Session Memory} {d table : String} {t : Table}

theorem loadTable_ok (h : s.Holds d table t) : loadTable table s = .ok (d, t) s := by
  obtain ⟨hd, lines, hl, rfl⟩ := h
  rw [loadTable, bind_ok _ (requireDatabase_ok hd),
    bind_ok _ (ask_ok (s.storage.ask_tableExists d table)), hl]
  change (ask (.readTable d table) >>= _) s = _
  rw [bind_ok _ (ask_ok (s.storage.ask_readTable d table)), hl]
  rfl

theorem loadTitled_ok (h : s.Holds d table t) (hh : t.header ≠ []) :
    loadTitled table s = .ok (d, t) s := by
  rw [loadTitled, bind_ok _ (loadTable_ok h)]
  dsimp only
  rw [List.isEmpty_eq_false_iff.2 hh]
  rfl

theorem nextId_ok {id : UInt64} (h : s.context.nextId table t = .ok id) :
    nextId table t s = .ok id s :=
  nextId_eq_ok.2 ⟨h, rfl⟩

theorem saveMarks_apply {σ : Type} [Storage σ] {s : Session σ} (hd : s.context.database = some d) :
    saveMarks s = change (.saveIdMarks d s.context.marks) s := by
  rw [saveMarks, bind_ok _ (requireDatabase_ok hd)]
  rfl

theorem recordId_apply {σ : Type} [Storage σ] {s : Session σ} (hd : s.context.database = some d)
    (table : String) (id : UInt64) :
    recordId table id s = change (.saveIdMarks d (s.context.marks.insert table id))
      ⟨⟨s.context.database, s.context.marks.insert table id⟩, s.storage⟩ := by
  let marked : Session σ := ⟨⟨s.context.database, s.context.marks.insert table id⟩, s.storage⟩
  rw [recordId, bind_ok _ (requireDatabase_ok hd)]
  exact saveMarks_apply (s := marked) hd

theorem forgetTable_apply {σ : Type} [Storage σ] {s : Session σ} (hd : s.context.database = some d)
    (table : String) :
    forgetTable table s =
      if s.context.marks.contains table then
        change (.saveIdMarks d (s.context.marks.erase table))
          ⟨⟨s.context.database, s.context.marks.erase table⟩, s.storage⟩
      else .ok () s := by
  let marked : Session σ := ⟨⟨s.context.database, s.context.marks.erase table⟩, s.storage⟩
  rw [forgetTable]
  change (if s.context.marks.contains table then _ else _ : SessionM σ Unit) s = _
  split
  · exact saveMarks_apply (s := marked) hd
  · rfl

theorem recordId_ok (hd : s.context.database = some d) (id : UInt64) {m : Memory}
    (hm : s.storage.changed (.saveIdMarks d (s.context.marks.insert table id)) = .ok m) :
    recordId table id s = .ok () ⟨⟨s.context.database, s.context.marks.insert table id⟩, m⟩ := by
  rw [recordId_apply hd]
  exact change_ok hm

end Session

namespace Statement
open Session SessionM
variable {s : Session Memory} {d table : String} {t : Table}

theorem deleteTable_ok {m : Memory} (hm : s.storage.changed (.deleteTable d table) = .ok m) :
    (tryCatch (do change (.deleteTable d table); pure true) fun _ => pure false :
      SessionM Memory Bool) s =
      .ok true { s with storage := m } := by
  rw [tryCatch_apply, bind_ok _ (change_ok hm)]
  rfl

/-- All tables that are there are deleted. -/
theorem deleteTables_ok {tables : List String} (hnodup : tables.Nodup)
    (ht : ∀ t ∈ tables, (s.storage.lines? d t).isSome = true) :
    ∃ m, s.storage.Deleted d m ∧ (∀ t ∈ tables, m.lines? d t = none) ∧
      deleteTables d tables s = .ok true { s with storage := m } := by
  induction tables generalizing s with
  | nil => exact ⟨s.storage, .none, by simp, rfl⟩
  | cons t rest ih =>
    obtain ⟨hnew, hrest⟩ := List.nodup_cons.1 hnodup
    obtain ⟨m, hm⟩ := Memory.exists_changed (c := .deleteTable d t) (ht t (by simp))
    have hlines := (Memory.of_deleteTable hm).2.2
    have hleft : ∀ u ∈ rest, (m.lines? d u).isSome = true := by
      intro u hu
      rw [hlines, if_neg (by rintro ⟨-, rfl⟩; exact hnew hu)]
      exact ht u (by simp [hu])
    obtain ⟨m', hdeleted, hnone, hrun⟩ := ih (s := { s with storage := m }) hrest hleft
    refine ⟨m', hdeleted.after hm, ?_, ?_⟩
    · intro u hu
      rcases List.mem_cons.1 hu with rfl | hu
      · cases hu : m'.lines? d u with
        | none => rfl
        | some lines =>
          have hold := hdeleted.lines?_of_some hu
          rw [hlines, if_pos ⟨rfl, rfl⟩] at hold
          cases hold
      · exact hnone u hu
    · rw [deleteTables, bind_ok _ (deleteTable_ok hm), bind_ok _ hrun]
      rfl

theorem executeInsert_ok {literals values : List String} {old : Table} {id : UInt64}
    {marks : IdMarks} (h : s.Inserts table literals d old t values id)
    (hm : s.storage.marks? d = some marks) :
    ∃ m, (∀ e, m.marks? e =
        if e = d then some (s.context.marks.insert table id) else s.storage.marks? e) ∧
      (∀ e u, m.lines? e u =
        if e = d ∧ u = table then some (t.insertRow id values).toLines
        else s.storage.lines? e u) ∧
      executeInsert table literals s =
        .ok (.insert table id) ⟨⟨s.context.database, s.context.marks.insert table id⟩, m⟩ := by
  obtain ⟨m₁, h₁⟩ := Memory.exists_changed (c := .saveIdMarks d (s.context.marks.insert table id))
    (Option.isSome_of_eq_some hm)
  obtain ⟨-, hmarks, hlines⟩ := Memory.of_saveIdMarks h₁
  obtain ⟨hd, lines, hl, -⟩ := h.holds
  obtain ⟨m₂, h₂⟩ := Memory.exists_changed
    (c := .writeTable d table (t.insertRow id values).toLines)
    (Option.isSome_of_eq_some ((hlines d table).trans hl))
  obtain ⟨-, hmarks', hlines'⟩ := Memory.of_writeTable h₂
  refine ⟨m₂, fun e => (hmarks' e).trans (hmarks e), fun e u => ?_, ?_⟩
  · rw [hlines', hlines]
  · rw [executeInsert, bind_ok _ (loadTable_ok h.holds)]
    dsimp only
    rw [bind_ok _ (ofExcept_ok s h.values_eq), bind_ok _ (ofExcept_ok s h.titled_eq),
      if_neg (by simp [h.length_eq]), bind_ok _ (nextId_ok h.nextId_eq),
      bind_ok _ (recordId_ok hd id h₁), bind_ok _ (change_ok h₂)]
    rfl

theorem executeSelect_ok {shown : Projection} {indexes : List Nat} (condition : Option Condition)
    (h : s.Holds d table t) (hh : t.header ≠ []) (hi : t.projected table shown = .ok indexes) :
    executeSelect table shown condition s = .ok (t.scan indexes condition) s := by
  rw [executeSelect, bind_ok _ (loadTitled_ok h hh)]
  dsimp only
  rw [bind_ok _ (ofExcept_ok s hi)]
  rfl

theorem executeDelete_ok (condition : Option Condition) (h : s.Holds d table t)
    (hh : t.header ≠ []) :
    ∃ m, s.storage.changed (.writeTable d table (t.remove condition).toLines) = .ok m ∧
      executeDelete table condition s =
        .ok (.delete (t.rows.length - (t.remove condition).rows.length))
          { s with storage := m } := by
  have hold : (s.storage.lines? d table).isSome = true := by
    obtain ⟨-, lines, hl, -⟩ := h
    exact Option.isSome_of_eq_some hl
  obtain ⟨m, hm⟩ := Memory.exists_changed
    (c := .writeTable d table (t.remove condition).toLines) hold
  refine ⟨m, hm, ?_⟩
  rw [executeDelete, bind_ok _ (loadTitled_ok h hh)]
  dsimp only
  rw [bind_ok _ (change_ok hm)]
  rfl

theorem executeUse_ok {marks : IdMarks} (hm : s.storage.marks? d = some marks) :
    ∃ marks, executeUse d s = .ok (.use d) ⟨⟨some d, marks⟩, s.storage⟩ := by
  obtain ⟨tables, ht⟩ := Memory.exists_listTables hm
  have hstored :
      (tables.mapM fun t => do pure (t, (Table.ofLines (← ask (.readTable d t))).maxId)) s =
        .ok (storedIds s.storage d tables) s := by
    clear ht
    induction tables with
    | nil => rfl
    | cons t rest ih =>
      rw [List.mapM_cons, bind_assoc, bind_ok _ (ask_ok (s.storage.ask_readTable d t)), pure_bind,
        bind_ok _ ih]
      rfl
  refine ⟨raiseMarks marks (storedIds s.storage d tables), ?_⟩
  rw [executeUse, bind_ok _ (ask_ok (s.storage.ask_databaseExists d)), hm]
  change (switchTo d >>= fun _ => pure (Answer.use d)) s = _
  rw [switchTo, bind_assoc, bind_ok _ (ask_ok ht), bind_assoc,
    bind_ok _ (ask_ok (Memory.ask_loadIdMarks.2 hm)), bind_assoc, bind_ok _ hstored]
  rfl

end Statement

namespace Session

/-- A text is executed as the statement that it writes. -/
theorem execute_of_ofText {σ : Type} [Storage σ] {text : String} {st : Statement}
    (h : Statement.ofText text = .ok st) (s : Session σ) : execute text s = st.execute s := by
  rw [execute, SessionM.bind_ok _ (SessionM.ofExcept_ok s h)]

theorem answer_of_execute {σ : Type} [Storage σ] {s s' : Session σ} {text : String}
    {st : Statement} {a : Answer} (hst : Statement.ofText text = .ok st)
    (h : st.execute s = .ok a s') :
    s.answer text = .ok a ∧ s.respond text = (a.render, s') := by
  have hrun : execute text s = .ok a s' := (execute_of_ofText hst s).trans h
  refine ⟨by rw [answer, hrun], ?_⟩
  have hne : ¬(Text.trim text).isEmpty = true := by
    intro hb
    rw [Statement.ofText_of_blank hb] at hst
    cases hst
  rw [respond, if_neg hne, hrun]

end Session

end Tabular
