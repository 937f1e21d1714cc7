import Tabular.Proofs.Session.Run
import Tabular.Proofs.Table.Changes

/-! Every table that statements store is sound, whatever fails and whatever the sessions remember of
its ids. -/
namespace Tabular

/-- The lines of every table are those of a sound table. -/
def Memory.WellStored (m : Memory) : Prop := ∀ d t lines, m.lines? d t = some lines →
    Tabular.WellStored lines

namespace Memory
variable {m m' : Memory} {d t : String}

theorem WellStored.of_lines?_eq (h : m.WellStored) (he : ∀ e u, m'.lines? e u = m.lines? e u) :
    m'.WellStored :=
  fun e u lines hl => h e u lines (he e u ▸ hl)

theorem WellStored.put (h : m.WellStored) {new : Table} (hn : new.Sound)
    (he : ∀ e u, m'.lines? e u = if e = d ∧ u = t then some new.toLines else m.lines? e u) :
    m'.WellStored := by
  intro e u lines hl
  rw [he] at hl
  split at hl
  · cases hl
    exact hn.wellStored
  · exact h e u lines hl

theorem WellStored.write (h : m.WellStored) {new : Table} (hn : new.Sound)
    (hm : m.changed (.writeTable d t new.toLines) = .ok m') : m'.WellStored :=
  h.put hn (of_writeTable hm).2.2

theorem Deleted.lines?_of_some (h : m.Deleted d m') {e u : String} {lines : List String}
    (hl : m'.lines? e u = some lines) : m.lines? e u = some lines := by
  induction h with
  | none => exact hl
  | table _ hm ih =>
    rw [(of_deleteTable hm).2.2] at hl
    split at hl
    · cases hl
    · exact ih hl

theorem Deleted.lines?_of_ne (h : m.Deleted d m') {e : String} (he : e ≠ d) (u : String) :
    m'.lines? e u = m.lines? e u := by
  induction h with
  | none => rfl
  | table _ hm ih => rw [(of_deleteTable hm).2.2, if_neg fun hd => he hd.1, ih]

theorem Deleted.marks?_eq (h : m.Deleted d m') (e : String) : m'.marks? e = m.marks? e := by
  induction h with
  | none => rfl
  | table _ hm ih => rw [(of_deleteTable hm).2.1, ih]

theorem WellStored.deleted (h : m.WellStored) (hm : m.Deleted d m') : m'.WellStored :=
  fun e u lines hl => h e u lines (hm.lines?_of_some hl)

end Memory

/-- A new id follows all those that are marked or stored. -/
theorem Context.toNat_nextId {c : Context} {table : String} {t : Table} {id : UInt64}
    (h : c.nextId table t = .ok id) :
    id.toNat = max ((c.marks.get? table).getD 0).toNat t.maxId.toNat + 1 := by
  unfold nextId at h
  dsimp only at h
  split at h
  · next hlt =>
    cases h
    rw [UInt64.toNat_add, show UInt64.toNat 1 = 1 from rfl, ← toNat_max]
    exact Nat.mod_eq_of_lt hlt
  · cases h

namespace Session
variable {v w : Session Memory}

theorem Forgot.lines?_eq {table : String} {r : Except Error Unit} (h : v.Forgot table r w)
    (d t : String) : w.storage.lines? d t = v.storage.lines? d t := by
  cases h with
  | unknown => rfl
  | marked _ hm => exact hm.lines?_eq d t

/-- A session has one active database, and one table of a name in it. -/
theorem Holds.eq {d d' table : String} {t t' : Table} (h : v.Holds d table t)
    (h' : v.Holds d' table t') : d = d' ∧ t = t' := by
  obtain ⟨hd, lines, hl, rfl⟩ := h
  obtain ⟨hd', lines', hl', rfl⟩ := h'
  obtain rfl : d = d' := Option.some.inj (hd.symm.trans hd')
  exact ⟨rfl, congrArg _ (Option.some.inj (hl.symm.trans hl'))⟩

theorem Holds.tabs {d table : String} {t : Table} (h : v.Holds d table t) :
    ∀ line ∈ t.header :: t.rows, ∀ c ∈ line, '\t' ∉ c.toList := by
  obtain ⟨-, lines, -, rfl⟩ := h
  exact Table.tabs_ofLines lines

theorem Holds.sound {d table : String} {t : Table} (h : v.Holds d table t)
    (hv : v.storage.WellStored) : t.Sound := by
  obtain ⟨-, lines, hl, rfl⟩ := h
  exact Table.sound_ofLines (hv d table lines hl)

theorem Holds.wellFormed {d table : String} {t : Table} (h : v.Holds d table t)
    (hv : v.storage.WellStored) (hh : t.header ≠ []) : t.WellFormed :=
  (h.sound hv).wellFormed (List.isEmpty_eq_false_iff.2 hh)

theorem Holds.lines?_eq {d table : String} {t : Table} (h : v.Holds d table t)
    (hv : v.storage.WellStored) : v.storage.lines? d table = some t.toLines := by
  obtain ⟨-, lines, hl, rfl⟩ := h
  rw [Table.toLines_ofLines (hv d table lines hl), hl]

/-- A table that is written is read back from its lines. -/
theorem holds_of_written {d table : String} {t : Table} {m : Memory}
    (hd : v.context.database = some d) (ht : t.Readable)
    (hm : v.storage.changed (.writeTable d table t.toLines) = .ok m) :
    Holds { v with storage := m } d table t := by
  have hlines := (Memory.of_writeTable hm).2.2 d table
  rw [if_pos ⟨rfl, rfl⟩] at hlines
  exact ⟨hd, _, hlines, ht.ofLines_toLines.symm⟩

/-- The table with the row that a statement adds is well formed. -/
theorem Inserts.wellFormed {d table : String} {literals values : List String} {old t : Table}
    {id : UInt64} (h : v.Inserts table literals d old t values id) (hv : v.storage.WellStored) :
    (t.insertRow id values).WellFormed := by
  have hcells : ∀ value ∈ values, IsCell value := by
    intro value hm
    obtain ⟨literal, -, hl⟩ := exists_of_mem_mapM h.values_eq hm
    exact isCell_of_cellOf hl
  have hid : t.maxId.toNat < id.toNat := by
    rw [Context.toNat_nextId h.nextId_eq]
    omega
  exact ((h.holds.sound hv).titled hcells h.titled_eq).insertRow hid hcells h.length_eq

end Session

theorem Statement.Effect.wellStored {v w : Session Memory} {st : Statement}
    {r : Except Error Answer} (h : st.Effect v r w) (proper : st.Proper)
    (hv : v.storage.WellStored) : w.storage.WellStored := by
  cases h with
  | refused | use | select | join => exact hv
  | createDatabase hm => exact hv.of_lines?_eq (Memory.of_createDatabase hm).2.2
  | dropTables hm => exact hv.deleted hm
  | dropDatabase hm hm' => exact (hv.deleted hm).of_lines?_eq (Memory.of_deleteDatabase hm').2.2.2
  | createTable hd hm hw =>
    refine (hv.put ?_ (Memory.of_createTable hm).2.2.2).of_lines?_eq hw.lines?_eq
    exact Table.sound_created proper.2.1 proper.2.2
  | dropTable hd hm hw => exact (hv.deleted (.table .none hm)).of_lines?_eq hw.lines?_eq
  | addColumn ht hid hnew hm =>
    exact hv.write (.inr (Table.addColumn_sound (ht.sound hv) hid hnew proper.2)) hm
  | dropColumn ht hid hi hm =>
    have hf := Table.findColumn?_of_columnIndex hi
    have hwf := ht.wellFormed hv (by rintro hh; rw [hh] at hf; cases hf)
    refine hv.write (.inr (hwf.dropColumn fun hzero => ?_)) hm
    rw [hzero] at hf
    exact findColumn?_ne_zero hwf.header.first hid hf
  | burned hi hw => exact hv.of_lines?_eq hw.lines?_eq
  | insert hi hw hm => exact (hv.of_lines?_eq hw.lines?_eq).write (.inr (hi.wellFormed hv)) hm
  | update ht hh hc hm =>
    have hwf := ht.wellFormed hv hh
    exact hv.write (.inr (hwf.assign (Table.of_mem_assignments hwf.header.first hc) _)) hm
  | delete ht hh hm => exact hv.write (.inr ((ht.wellFormed hv hh).remove _)) hm

theorem Session.Step.wellStored {v w : Session Memory} (h : v.Step w) (hv : v.storage.WellStored) :
    w.storage.WellStored := by
  cases h with
  | none | restart => exact hv
  | statement proper h => exact h.wellStored proper hv

theorem Memory.wellStored_empty : ({} : Memory).WellStored := by
  intro d t lines h
  cases h

theorem WellStored.eq_nil_or_wellFormed {lines : List String} (h : WellStored lines) :
    lines = [] ∨ (Table.ofLines lines).WellFormed := by
  obtain ⟨t, rfl | ht, rfl⟩ := h
  · exact .inl rfl
  · exact .inr (ht.ofLines_toLines.symm ▸ ht)

namespace Sharing
variable {σ : Type} [Storage σ] [MemoryBacked σ]

theorem wellStored_acts (s : Sharing σ) (hs : (MemoryBacked.memory s.storage).WellStored)
    (actions : List (Nat × Action)) :
    (MemoryBacked.memory (s.acts actions).storage).WellStored := by
  induction actions generalizing s with
  | nil => exact hs
  | cons a rest ih => exact ih (s.act a) ((Session.step_act (s.session a.1) a.2).wellStored hs)

/-- Sessions that start from empty storage store tables without columns, and well-formed ones. -/
theorem stored_wellFormed (contexts : Nat → Context) (faults : List InjectedFault)
    (actions : List (Nat × Action)) {d t : String} {lines : List String}
    (h : (acts ⟨contexts, { faults, base := ({} : Memory) }⟩ actions).storage.base.lines? d t =
      some lines) :
    lines = [] ∨ (Table.ofLines lines).WellFormed := by
  let start : Sharing Memory := ⟨contexts, { faults, base := {} }⟩
  have hend : (acts start actions).storage.base.WellStored :=
    wellStored_acts start Memory.wellStored_empty actions
  exact (hend d t lines h).eq_nil_or_wellFormed

/-- Two sessions change one table in turn, with a row that is not written and one that does not
fit. -/
theorem stored_wellFormed_two_sessions :
    (["id\ta\tx", "1\ta\tNULL", "3\tb\tNULL"] : List String) = [] ∨
      (Table.ofLines ["id\ta\tx", "1\ta\tNULL", "3\tb\tNULL"]).WellFormed :=
  stored_wellFormed (fun _ => {}) []
    [(0, .run "CREATE DATABASE d;"), (0, .run "USE d;"), (1, .run "USE d;"),
      (0, .run "CREATE TABLE t;"), (0, .run "INSERT INTO t VALUES ('a');"),
      (0, .inject [⟨.writeTable, none⟩]), (0, .run "INSERT INTO t VALUES ('lost');"),
      (0, .inject []), (1, .run "INSERT INTO t VALUES ('b', 'c');"),
      (0, .run "INSERT INTO t VALUES ('b');"), (1, .run "ALTER TABLE t ADD x;")]
    (d := "d") (t := "t") (by decide +kernel)

end Sharing

/-- One of the sessions that statements, restarts and changes of the faults lead to, over storage
that is empty at first. -/
def Session.Reachable (s : Session (Faulty Memory)) : Prop :=
  ∃ (contexts : Nat → Context) (faults : List InjectedFault) (actions : List (Nat × Action))
    (k : Nat), s = (Sharing.acts ⟨contexts, { faults, base := {} }⟩ actions).session k

theorem Session.Reachable.wellStored {s : Session (Faulty Memory)} (h : s.Reachable) :
    s.shown.storage.WellStored := by
  obtain ⟨contexts, faults, actions, k, rfl⟩ := h
  let start : Sharing Memory := ⟨contexts, { faults, base := {} }⟩
  exact Sharing.wellStored_acts start Memory.wellStored_empty actions

end Tabular
