import Tabular.Proofs.Session.Spared

/-! When a row is added, and the lines and the id marks that are stored then. -/
namespace Tabular

namespace Table

/-- Names are put after others if they are new, and no two of them are alike. -/
theorem foldlM_extendHeader_eq_ok {values names names' : List String} :
    values.foldlM extendHeader names = .ok names' ↔ names' = names ++ values ∧
      (∀ v ∈ values, isIdColumn v = false ∧ findColumn? names v = none) ∧
        values.Pairwise fun a b => Text.eqCaseless a b = false := by
  induction values generalizing names with
  | nil =>
    rw [List.foldlM_nil, Except.pure_eq_ok, List.append_nil]
    exact ⟨fun h => ⟨h.symm, by simp, .nil⟩, fun h => h.1.symm⟩
  | cons v rest ih =>
    have hfind (w : String) : findColumn? (names ++ [v]) w = none ↔
        findColumn? names w = none ∧ Text.eqCaseless v w = false := by
      rw [findColumn?_eq_none, findColumn?_eq_none, List.forall_mem_append,
        List.forall_mem_singleton]
    rw [foldlM_cons_eq_ok, List.forall_mem_cons, List.pairwise_cons]
    simp only [extendHeader_eq_ok, ih]
    constructor
    · intro h
      obtain ⟨_, ⟨rfl, hid, hnew⟩, rfl, hrest, hdistinct⟩ := h
      simp only [hfind] at hrest
      exact ⟨by simp, ⟨⟨hid, hnew⟩, fun w hw => ⟨(hrest w hw).1, (hrest w hw).2.1⟩⟩,
        fun w hw => (hrest w hw).2.2, hdistinct⟩
    · intro h
      obtain ⟨rfl, ⟨⟨hid, hnew⟩, hrest⟩, hv, hdistinct⟩ := h
      refine ⟨_, ⟨rfl, hid, hnew⟩, by simp, fun w hw => ?_, hdistinct⟩
      exact ⟨(hrest w hw).1, (hfind w).2 ⟨(hrest w hw).2, hv w hw⟩⟩

/-- There is a value for each column after the id, or they name the columns of a table that has
none yet. -/
def Takes (t : Table) (values : List String) : Prop :=
  if t.header = [] then
    (∀ v ∈ values, isIdColumn v = false) ∧ values.Pairwise fun a b => Text.eqCaseless a b = false
  else values.length = t.header.length - 1

/-- The table with the columns that its first row gives it, if it has none yet. -/
def named (t : Table) (values : List String) : Table :=
  if t.header = [] then { t with header := idColumn :: values } else t

variable {t t' : Table} {values : List String}

/-- Values that fit a table are those of a row of the table that they may have named. -/
theorem titled_eq_ok_and_length_iff : t.titled values = .ok t' ∧
    values.length = t'.header.length - 1 ↔ t.Takes values ∧ t' = t.named values := by
  have hid (v : String) : isIdColumn v = false ↔ findColumn? [idColumn] v = none := by
    rw [findColumn?_eq_none, List.forall_mem_singleton, isIdColumn, Bool.eq_false_iff,
      Bool.eq_false_iff]
    exact not_congr ⟨Text.eqCaseless_symm, Text.eqCaseless_symm⟩
  rw [titled_eq, Takes, named]
  by_cases hh : t.header = []
  · rw [if_pos (List.isEmpty_iff.2 hh), if_pos hh, if_pos hh, Except.map_eq_ok]
    simp only [foldlM_extendHeader_eq_ok, ← hid, and_self]
    constructor
    · intro h
      obtain ⟨⟨_, ⟨rfl, hnew, hdistinct⟩, rfl⟩, -⟩ := h
      exact ⟨⟨hnew, hdistinct⟩, rfl⟩
    · intro h
      obtain ⟨⟨hnew, hdistinct⟩, rfl⟩ := h
      exact ⟨⟨_, ⟨rfl, hnew, hdistinct⟩, rfl⟩, rfl⟩
  · rw [if_neg (by simpa using hh), if_neg hh, if_neg hh]
    constructor
    · intro h
      obtain ⟨ht, hlength⟩ := h
      cases ht
      exact ⟨hlength, rfl⟩
    · intro h
      obtain ⟨hlength, rfl⟩ := h
      exact ⟨rfl, hlength⟩

theorem maxId_named (t : Table) (values : List String) : (t.named values).maxId = t.maxId := by
  unfold named
  split <;> rfl

/-- A row is one more line, after one with the names of columns if there was none. -/
theorem toLines_insertRow_named {lines : List String} (h : WellStored lines) (id : UInt64)
    (values : List String) :
    (((ofLines lines).named values).insertRow id values).toLines =
      (if (ofLines lines).header = [] then [joinCells (idColumn :: values)] else lines) ++
        [joinCells (toString id.toNat :: values)] := by
  have hpush (t : Table) (hh : t.header ≠ []) :
      (t.insertRow id values).toLines = t.toLines ++ [joinCells (toString id.toNat :: values)] := by
    have hheader : (t.insertRow id values).header = t.header := rfl
    rw [toLines, toLines, hheader, List.isEmpty_eq_false_iff.2 hh]
    simp [insertRow, push]
  unfold named
  split
  · next hh =>
    rw [hpush _ (List.cons_ne_nil _ _)]
    -- Only a table without lines has no columns.
    rcases sound_ofLines h with hempty | hwf
    · rw [hempty]
      rfl
    · exact absurd hh hwf.header_ne_nil
  · next hh => rw [hpush _ hh, toLines_ofLines h]

end Table

/-- The next id is one more than the highest that is marked or stored, if that is a word. -/
theorem Context.exists_nextId {c : Context} {table : String} {t : Table} :
    (∃ id, c.nextId table t = .ok id) ↔
      max ((c.marks.get? table).getD 0).toNat t.maxId.toNat + 1 < UInt64.size := by
  unfold nextId
  dsimp only
  rw [← toNat_max]
  constructor
  · intro hrun
    obtain ⟨id, h⟩ := hrun
    split at h
    · next hlt => exact hlt
    · cases h
  · intro hlt
    exact ⟨_, if_pos hlt⟩

namespace Session
variable {v : Session Memory} {d table : String} {literals : List String}

/-- A row can be added to a table that takes its values and has an id left. -/
theorem inserts_iff {old t : Table} {values : List String} {id : UInt64} :
    v.Inserts table literals d old t values id ↔ v.Holds d table old ∧
      values = literals.map unquote ∧ (∀ value ∈ values, IsCell value) ∧ old.Takes values ∧
        t = old.named values ∧ v.context.nextId table t = .ok id := by
  constructor
  · intro h
    obtain ⟨rfl, hcells⟩ := mapM_cellOf_eq_ok.1 h.values_eq
    obtain ⟨htakes, ht⟩ := Table.titled_eq_ok_and_length_iff.1 ⟨h.titled_eq, h.length_eq⟩
    exact ⟨h.holds, rfl, hcells, htakes, ht, h.nextId_eq⟩
  · intro h
    obtain ⟨hold, rfl, hcells, htakes, ht, hid⟩ := h
    obtain ⟨htitled, hlength⟩ := Table.titled_eq_ok_and_length_iff.2 ⟨htakes, ht⟩
    exact ⟨hold, mapM_cellOf_eq_ok.2 ⟨rfl, hcells⟩, htitled, hlength, hid⟩

variable {s : Session (Faulty Memory)}

/-- The highest id of a table that is marked or stored in some lines. -/
def lastId (c : Context) (table : String) (lines : List String) : Nat :=
  max ((c.marks.get? table).getD 0).toNat (Table.ofLines lines).maxId.toNat

theorem insert_succeeds_iff (hd : s.context.database = some d) :
    (∃ a s', (Statement.insert table literals).execute s = .ok a s') ↔
      ∃ lines, s.storage.base.lines? d table = some lines ∧
        (∀ value ∈ literals.map unquote, IsCell value) ∧
        (Table.ofLines lines).Takes (literals.map unquote) ∧
        lastId s.context table lines + 1 < UInt64.size ∧ s.Reads table ∧
        s.storage.Spares .saveIdMarks d ∧ s.storage.Spares .writeTable table := by
  constructor
  · intro h
    obtain ⟨a, s', hrun⟩ := h
    obtain ⟨hreads, e, old, t, values, id, hinserts, -, hsave, hwrite, -⟩ :=
      Statement.executeInsert_eq_ok.1 hrun
    obtain ⟨⟨he, lines, hl, rfl⟩, rfl, hcells, htakes, rfl, hid⟩ := inserts_iff.1 hinserts
    obtain rfl : d = e := Option.some.inj (hd.symm.trans he)
    have hlt := Context.exists_nextId.1 ⟨id, hid⟩
    rw [Table.maxId_named] at hlt
    exact ⟨lines, hl, hcells, htakes, hlt, hreads, hsave, hwrite⟩
  · intro h
    obtain ⟨lines, hl, hcells, htakes, hlt, hreads, hsave, hwrite⟩ := h
    let t := (Table.ofLines lines).named (literals.map unquote)
    have ht : t.maxId = (Table.ofLines lines).maxId := Table.maxId_named _ _
    obtain ⟨id, hid⟩ : ∃ id, s.context.nextId table t = .ok id :=
      Context.exists_nextId.2 (ht.symm ▸ hlt)
    have hold : s.shown.Holds d table (Table.ofLines lines) := ⟨hd, lines, hl, rfl⟩
    have hinserts : s.shown.Inserts table literals d (Table.ofLines lines) t
        (literals.map unquote) id :=
      inserts_iff.2 ⟨hold, rfl, hcells, htakes, rfl, hid⟩
    have hthere := Option.isSome_of_eq_some hl
    obtain ⟨m, hm⟩ := Memory.exists_changed
      (c := .saveIdMarks d (s.context.marks.insert table id)) (Memory.marks?_of_lines? hthere)
    obtain ⟨-, -, hlines⟩ := Memory.of_saveIdMarks hm
    obtain ⟨m', hm'⟩ := Memory.exists_changed
      (c := .writeTable d table (t.insertRow id (literals.map unquote)).toLines)
      (Option.isSome_of_eq_some ((hlines d table).trans hl))
    exact ⟨_, _, Statement.executeInsert_eq_ok.2 ⟨hreads, d, _, t, _, id, hinserts, rfl, hsave,
      hwrite, m, m', hm, hm', rfl⟩⟩

/-- A row is added under the next id, which is marked, and nothing else changes. -/
theorem insert_adds_line (hs : s.Reachable) (hd : s.context.database = some d) {a : Answer}
    {s' : Session (Faulty Memory)} (hrun : (Statement.insert table literals).execute s = .ok a s') :
    ∃ lines id marks, s.storage.base.lines? d table = some lines ∧ a = .insert table id ∧
      id.toNat = lastId s.context table lines + 1 ∧
      (∀ e u, s'.storage.base.lines? e u =
        if e = d ∧ u = table then
          some ((if (Table.ofLines lines).header = [] then
              [joinCells (idColumn :: literals.map unquote)] else lines) ++
            [joinCells (toString id.toNat :: literals.map unquote)])
        else s.storage.base.lines? e u) ∧
      s'.storage.base.marks? d = some marks ∧ marks.get? table = some id := by
  obtain ⟨-, e, old, t, values, id, hinserts, rfl, -, -, m, m', hm, hm', rfl⟩ :=
    Statement.executeInsert_eq_ok.1 hrun
  obtain ⟨⟨he, lines, hl, rfl⟩, rfl, -, -, rfl, hid⟩ := inserts_iff.1 hinserts
  obtain rfl : d = e := Option.some.inj (hd.symm.trans he)
  obtain ⟨-, hmarks, hlines⟩ := Memory.of_saveIdMarks hm
  obtain ⟨-, hmarks', hlines'⟩ := Memory.of_writeTable hm'
  have hnext := Context.toNat_nextId hid
  rw [Table.maxId_named] at hnext
  refine ⟨lines, id, s.context.marks.insert table id, hl, rfl, hnext, fun e u => ?_, ?_, ?_⟩
  · rw [hlines', hlines, Table.toLines_insertRow_named (hs.wellStored d table lines hl)]
  · rw [hmarks', hmarks, if_pos rfl]
  · rw [SortedMap.get?_insert, if_pos rfl]

/-- A row is added exactly if there is a table that takes its values, an id is left, and none of the
operations fails. Its line is put after those of the table, or after one with the names of the
columns, and its id is one more than the highest that is marked or stored, and is marked. -/
theorem insert_adds_row (hs : s.Reachable) (hd : s.context.database = some d) (table : String)
    (literals : List String) :
    ((∃ a s', (Statement.insert table literals).execute s = .ok a s') ↔
      ∃ lines, s.storage.base.lines? d table = some lines ∧
        (∀ value ∈ literals.map unquote, IsCell value) ∧
        (Table.ofLines lines).Takes (literals.map unquote) ∧
        lastId s.context table lines + 1 < UInt64.size ∧ s.Reads table ∧
        s.storage.Spares .saveIdMarks d ∧ s.storage.Spares .writeTable table) ∧
    ∀ a s', (Statement.insert table literals).execute s = .ok a s' →
      ∃ lines id marks, s.storage.base.lines? d table = some lines ∧ a = .insert table id ∧
        id.toNat = lastId s.context table lines + 1 ∧
        (∀ e u, s'.storage.base.lines? e u =
          if e = d ∧ u = table then
            some ((if (Table.ofLines lines).header = [] then
                [joinCells (idColumn :: literals.map unquote)] else lines) ++
              [joinCells (toString id.toNat :: literals.map unquote)])
          else s.storage.base.lines? e u) ∧
        s'.storage.base.marks? d = some marks ∧ marks.get? table = some id :=
  ⟨insert_succeeds_iff hd, fun _ _ hrun => insert_adds_line hs hd hrun⟩

/-- A table without columns gets them from its first row, whose id follows that of a row that is
lost. -/
theorem insert_adds_row_untitled :
    let s : Session (Faulty Memory) := (Sharing.acts ⟨fun _ => {}, { base := {} }⟩
      [(0, .run "CREATE DATABASE d;"), (0, .run "USE d;"), (0, .run "CREATE TABLE t;"),
        (0, .inject [⟨.writeTable, none⟩]), (0, .run "INSERT INTO t VALUES ('lost');"),
        (0, .inject [⟨.writeTable, some "u"⟩])]).session 0
    s.Reachable ∧ s.context.database = some "d" ∧
      ∃ s', (Statement.insert "t" ["'A b'", "1"]).execute s = .ok (.insert "t" 2) s' ∧
        s'.storage.base.lines? "d" "t" = some ["id\tA b\t1", "2\tA b\t1"] := by
  intro s
  have hs : s.Reachable := ⟨_, _, _, _, rfl⟩
  have hd : s.context.database = some "d" := by decide +kernel
  have hlines : s.storage.base.lines? "d" "t" = some [] := by decide +kernel
  have hlast : lastId s.context "t" [] = 1 := by decide +kernel
  have hvalues : ["'A b'", "1"].mapM cellOf = .ok ["A b", "1"] := by decide +kernel
  have hspared : s.Reads "t" ∧ s.storage.Spares .saveIdMarks "d" ∧
      s.storage.Spares .writeTable "t" := by
    unfold Reads
    decide +kernel
  clear_value s
  obtain ⟨hsucceeds, hadds⟩ := insert_adds_row hs hd "t" ["'A b'", "1"]
  obtain ⟨a, s', hrun⟩ := hsucceeds.2
    ⟨[], hlines, (mapM_cellOf_eq_ok.1 hvalues).2, ⟨by decide, by decide⟩, by rw [hlast]; decide,
      hspared⟩
  obtain ⟨lines, id, marks, hl, rfl, hid, hnew, -⟩ := hadds a s' hrun
  obtain rfl : lines = [] := Option.some.inj (hl.symm.trans hlines)
  rw [hlast] at hid
  obtain rfl : id = 2 := UInt64.toNat_inj.1 hid
  refine ⟨hs, hd, s', hrun, (hnew "d" "t").trans ?_⟩
  rw [if_pos ⟨rfl, rfl⟩]
  decide

end Session

end Tabular
