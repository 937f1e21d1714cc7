import Tabular.Proofs.Session.Frames
import Tabular.Proofs.Session.Success

/-! What sessions over a memory with faults succeed with: all that a statement needs is there, and
none of the operations that it calls is made to fail. -/
namespace Tabular

def Faulty.Spares {σ : Type} (s : Faulty σ) (method : Method) (subject : String) : Prop :=
  s.faults.any (·.hits method subject) = false

instance {σ : Type} (s : Faulty σ) (method : Method) (subject : String) :
    Decidable (s.Spares method subject) :=
  inferInstanceAs (Decidable (_ = false))

namespace SessionM

section Calls
variable {s s' : Session (Faulty Memory)}

theorem ask_eq_ok {α : Type} {q : Query α} {a : α} : Session.ask q s = .ok a s' ↔
    s.storage.Spares q.method q.subject ∧ s.storage.base.ask q = .ok a ∧ s = s' := by
  rw [ask_apply, Faulty.ask_apply, Faulty.Spares]
  cases s.storage.faults.any (·.hits q.method q.subject) with
  | true => simp
  | false =>
    have hask : Storage.ask q s.storage.base = s.storage.base.ask q := rfl
    rw [if_neg Bool.false_ne_true, hask]
    cases s.storage.base.ask q with
    | error e => simp
    | ok b => simp

theorem change_eq_ok {c : Change} {u : Unit} : Session.change c s = .ok u s' ↔
    s.storage.Spares c.method c.subject ∧ ∃ m, s.storage.base.changed c = .ok m ∧
      s' = { s with storage.base := m } := by
  rw [Session.change, Faulty.change_apply, Faulty.Spares, Memory.change_apply]
  cases s.storage.faults.any (·.hits c.method c.subject) with
  | true => simp
  | false =>
    rw [if_neg Bool.false_ne_true]
    cases s.storage.base.changed c with
    | error e => simp
    | ok m => simp [eq_comm]

end Calls

end SessionM

namespace Session
open SessionM
variable {s s' : Session (Faulty Memory)} {d table : String} {t : Table}

/-- The calls that read a table are not made to fail. -/
def Reads (s : Session (Faulty Memory)) (table : String) : Prop :=
  s.storage.Spares .tableExists table ∧ s.storage.Spares .readTable table

/-- A table is loaded if the active database has it. -/
theorem loadTable_eq_ok {loaded : String × Table} : loadTable table s = .ok loaded s' ↔
    s.Reads table ∧ s.shown.Holds loaded.1 table loaded.2 ∧ s = s' := by
  rw [loadTable]
  simp only [bind_eq_ok, requireDatabase_eq_ok, ask_eq_ok, refuse_eq_ok, pure_eq_ok,
    Memory.ask_tableExists, Memory.ask_readTable]
  constructor
  · intro h
    obtain ⟨d, _, ⟨hd, rfl⟩, there, _, ⟨hexists, hthere, rfl⟩, hne, lines, _, ⟨hread, hlines, rfl⟩,
      rfl, rfl⟩ := h
    cases hthere
    cases hlines
    obtain ⟨lines, hl⟩ := Option.ne_none_iff_exists'.1 (by simpa using hne)
    rw [hl]
    exact ⟨⟨hexists, hread⟩, ⟨hd, lines, hl, rfl⟩, rfl⟩
  · obtain ⟨d, t⟩ := loaded
    intro h
    obtain ⟨⟨hexists, hread⟩, ⟨hd, lines, hl, rfl⟩, rfl⟩ := h
    have hl : s.storage.base.lines? d table = some lines := hl
    exact ⟨d, s, ⟨hd, rfl⟩, true, s, ⟨hexists, by rw [hl]; rfl, rfl⟩, by simp, lines, s,
      ⟨hread, by rw [hl]; rfl, rfl⟩, rfl, rfl⟩

theorem loadTitled_eq_ok {loaded : String × Table} : loadTitled table s = .ok loaded s' ↔
    s.Reads table ∧ s.shown.Holds loaded.1 table loaded.2 ∧ loaded.2.header ≠ [] ∧ s = s' := by
  rw [loadTitled]
  simp only [bind_eq_ok, loadTable_eq_ok, refuse_eq_ok, pure_eq_ok, List.isEmpty_iff]
  constructor
  · intro h
    obtain ⟨found, _, ⟨hreads, ht, rfl⟩, hh, rfl, rfl⟩ := h
    exact ⟨hreads, ht, hh, rfl⟩
  · intro h
    obtain ⟨hreads, ht, hh, rfl⟩ := h
    exact ⟨loaded, s, ⟨hreads, ht, rfl⟩, hh, rfl, rfl⟩

theorem loadTitled_bind (hreads : s.Reads table) (ht : s.shown.Holds d table t)
    (hh : t.header ≠ []) {α : Type} (f : String × Table → SessionM (Faulty Memory) α) :
    (loadTitled table >>= f) s = f (d, t) s :=
  bind_ok f (loadTitled_eq_ok.2 ⟨hreads, ht, hh, rfl⟩)

/-- A table is written in the place of one with columns that is read. -/
structure Replaces (s : Session (Faulty Memory)) (d table : String) (t new : Table)
    (s' : Session (Faulty Memory)) : Prop where
  reads : s.Reads table
  writes : s.storage.Spares .writeTable table
  old : s.shown.Holds d table t
  titled : t.header ≠ []
  stored : ∃ m, s.storage.base.changed (.writeTable d table new.toLines) = .ok m ∧
    s' = { s with storage.base := m }

namespace Replaces
variable {new : Table}

theorem lines?_eq (h : s.Replaces d table t new s') (e u : String) :
    s'.storage.base.lines? e u =
      if e = d ∧ u = table then some new.toLines else s.storage.base.lines? e u := by
  obtain ⟨m, hm, rfl⟩ := h.stored
  exact (Memory.of_writeTable hm).2.2 e u

theorem holds (h : s.Replaces d table t new s') (hn : new.Readable) :
    s'.shown.Holds d table new := by
  obtain ⟨m, hm, rfl⟩ := h.stored
  exact holds_of_written (v := s.shown) h.old.1 hn hm

/-- A table can be replaced where it stands and is written. -/
theorem exists_of_holds (hreads : s.Reads table) (hw : s.storage.Spares .writeTable table)
    (ht : s.shown.Holds d table t) (hh : t.header ≠ []) (new : Table) :
    ∃ s', s.Replaces d table t new s' := by
  obtain ⟨hd, lines, hl, rfl⟩ := ht
  obtain ⟨m, hm⟩ := Memory.exists_changed (c := .writeTable d table new.toLines)
    (Option.isSome_of_eq_some hl)
  exact ⟨_, hreads, hw, ⟨hd, lines, hl, rfl⟩, hh, m, hm, rfl⟩

/-- Nothing changes where the lines that are written stood before. -/
theorem eq_of_lines?_eq (h : s.Replaces d table t new s')
    (hl : s.storage.base.lines? d table = some new.toLines) : s' = s := by
  obtain ⟨m, hm, rfl⟩ := h.stored
  obtain ⟨-, hmarks, hlines⟩ := Memory.of_writeTable hm
  have hsame : m = s.storage.base := by
    refine Memory.eq_of_views (fun e u => ?_) hmarks
    rw [hlines]
    split
    · next heq => rw [heq.1, heq.2, hl]
    · rfl
  rw [hsame]

/-- A table that has been written can be read and written again. -/
theorem spared (h : s.Replaces d table t new s') :
    s'.Reads table ∧ s'.storage.Spares .writeTable table := by
  obtain ⟨m, -, rfl⟩ := h.stored
  exact ⟨h.reads, h.writes⟩

/-- A table that has been written may be written again, which changes nothing. -/
theorem again (h : s.Replaces d table t new s') (hn : new.Readable) :
    s'.Replaces d table new new s' := by
  have hlines := (h.lines?_eq d table).trans (if_pos ⟨rfl, rfl⟩)
  obtain ⟨first, cells, hheader, -⟩ := hn.heads new.header List.mem_cons_self
  obtain ⟨hreads, hwrites⟩ := h.spared
  obtain ⟨s'', h'⟩ := exists_of_holds hreads hwrites (h.holds hn) (by simp [hheader]) new
  have hsame := h'.eq_of_lines?_eq hlines
  rwa [hsame] at h'

/-- Nothing has changed once a table is put back in the place of the one that took its own. -/
theorem undo {s'' : Session (Faulty Memory)} (h : s.Replaces d table t new s')
    (h' : s'.Replaces d table new t s'') (hl : s.storage.base.lines? d table = some t.toLines) :
    s'' = s := by
  obtain ⟨m, hm, rfl⟩ := h.stored
  obtain ⟨m', hm', rfl⟩ := h'.stored
  obtain ⟨-, hmarks, hlines⟩ := Memory.of_writeTable hm
  obtain ⟨-, hmarks', hlines'⟩ := Memory.of_writeTable hm'
  have hsame : m' = s.storage.base := by
    refine Memory.eq_of_views (fun e u => ?_) fun e => (hmarks' e).trans (hmarks e)
    rw [hlines', hlines]
    split
    · next heq => rw [heq.1, heq.2, hl]
    · rfl
  rw [hsame]

end Replaces

theorem recordId_eq_ok {id : UInt64} {u : Unit} (hd : s.context.database = some d) :
    recordId table id s = .ok u s' ↔ s.storage.Spares .saveIdMarks d ∧
      ∃ m, s.storage.base.changed (.saveIdMarks d (s.context.marks.insert table id)) = .ok m ∧
        s' = ⟨⟨s.context.database, s.context.marks.insert table id⟩,
          { s.storage with base := m }⟩ := by
  rw [recordId_apply hd, change_eq_ok]
  rfl

end Session

namespace Statement
open Session SessionM
variable {s s' : Session (Faulty Memory)} {table : String} {condition : Option Condition}
  {a : Answer}

theorem executeSelect_eq_ok {shown : Projection} :
    executeSelect table shown condition s = .ok a s' ↔ s.Reads table ∧ ∃ d t indexes,
      s.shown.Holds d table t ∧ t.header ≠ [] ∧ t.projected table shown = .ok indexes ∧
        a = t.scan indexes condition ∧ s' = s := by
  rw [executeSelect]
  simp only [bind_eq_ok, loadTitled_eq_ok, ofExcept_eq_ok, pure_eq_ok]
  constructor
  · intro h
    obtain ⟨⟨d, t⟩, _, ⟨hreads, ht, hh, rfl⟩, indexes, _, ⟨hi, rfl⟩, rfl, rfl⟩ := h
    exact ⟨hreads, d, t, indexes, ht, hh, hi, rfl, rfl⟩
  · intro h
    obtain ⟨hreads, d, t, indexes, ht, hh, hi, rfl, rfl⟩ := h
    exact ⟨(d, t), s', ⟨hreads, ht, hh, rfl⟩, indexes, s', ⟨hi, rfl⟩, rfl, rfl⟩

theorem executeUpdate_eq_ok {pairs : List (String × String)} :
    executeUpdate table pairs condition s = .ok a s' ↔ ∃ d t cells,
      t.assignments table pairs = .ok cells ∧
        s.Replaces d table t (t.assign condition cells) s' ∧
          a = .update (t.rows.countP (t.rowHolds condition)) := by
  rw [executeUpdate]
  simp only [bind_eq_ok, loadTitled_eq_ok, ofExcept_eq_ok, change_eq_ok, pure_eq_ok]
  constructor
  · intro h
    obtain ⟨⟨d, t⟩, _, ⟨hreads, ht, hh, rfl⟩, cells, _, ⟨hc, rfl⟩, h⟩ := h
    obtain ⟨_, _, ⟨hw, m, hm, rfl⟩, rfl, rfl⟩ := h
    exact ⟨d, t, cells, hc, ⟨hreads, hw, ht, hh, m, hm, rfl⟩, rfl⟩
  · intro h
    obtain ⟨d, t, cells, hc, ⟨hreads, hw, ht, hh, m, hm, rfl⟩, rfl⟩ := h
    exact ⟨(d, t), s, ⟨hreads, ht, hh, rfl⟩, cells, s, ⟨hc, rfl⟩, (), _, ⟨hw, m, hm, rfl⟩, rfl, rfl⟩

theorem executeDelete_eq_ok :
    executeDelete table condition s = .ok a s' ↔ ∃ d t,
      s.Replaces d table t (t.remove condition) s' ∧
        a = .delete (t.rows.length - (t.remove condition).rows.length) := by
  rw [executeDelete]
  simp only [bind_eq_ok, loadTitled_eq_ok, change_eq_ok, pure_eq_ok]
  constructor
  · intro h
    obtain ⟨⟨d, t⟩, _, ⟨hreads, ht, hh, rfl⟩, _, _, ⟨hw, m, hm, rfl⟩, rfl, rfl⟩ := h
    exact ⟨d, t, ⟨hreads, hw, ht, hh, m, hm, rfl⟩, rfl⟩
  · intro h
    obtain ⟨d, t, ⟨hreads, hw, ht, hh, m, hm, rfl⟩, rfl⟩ := h
    exact ⟨(d, t), s, ⟨hreads, ht, hh, rfl⟩, (), _, ⟨hw, m, hm, rfl⟩, rfl, rfl⟩

/-- A row is added if its values fit the table, which then has a new id left, and both the id and
the table are stored. -/
theorem executeInsert_eq_ok {literals : List String} :
    executeInsert table literals s = .ok a s' ↔ s.Reads table ∧ ∃ d old t values id,
      s.shown.Inserts table literals d old t values id ∧ a = .insert table id ∧
        s.storage.Spares .saveIdMarks d ∧ s.storage.Spares .writeTable table ∧ ∃ m m',
          s.storage.base.changed (.saveIdMarks d (s.context.marks.insert table id)) = .ok m ∧
            m.changed (.writeTable d table (t.insertRow id values).toLines) = .ok m' ∧
              s' = ⟨⟨s.context.database, s.context.marks.insert table id⟩,
                { s.storage with base := m' }⟩ := by
  rw [executeInsert]
  simp only [bind_eq_ok, loadTable_eq_ok, ofExcept_eq_ok, refuse_eq_ok, nextId_eq_ok, change_eq_ok,
    pure_eq_ok, not_not]
  constructor
  · intro h
    obtain ⟨⟨d, old⟩, _, ⟨hreads, ht, rfl⟩, values, _, ⟨hv, rfl⟩, t, _, ⟨ht', rfl⟩, h⟩ := h
    obtain ⟨hlength, id, _, ⟨hid, rfl⟩, _, _, hrecord, _, _, ⟨hw, m', hm', rfl⟩, rfl, rfl⟩ := h
    obtain ⟨hs, m, hm, rfl⟩ := (recordId_eq_ok ht.1).1 hrecord
    exact ⟨hreads, d, old, t, values, id, ⟨ht, hv, ht', hlength, hid⟩, rfl, hs, hw, m, m', hm, hm',
      rfl⟩
  · intro h
    obtain ⟨hreads, d, old, t, values, id, ⟨ht, hv, ht', hlength, hid⟩, rfl, hs, hw, m, m', hm, hm',
      rfl⟩ := h
    have hrecord := (recordId_eq_ok (u := ()) ht.1).2 ⟨hs, m, hm, rfl⟩
    exact ⟨(d, old), s, ⟨hreads, ht, rfl⟩, values, s, ⟨hv, rfl⟩, t, s, ⟨ht', rfl⟩, hlength, id, s,
      ⟨hid, rfl⟩, (), _, hrecord, (), _, ⟨hw, m', hm', rfl⟩, rfl, rfl⟩

end Statement

end Tabular
