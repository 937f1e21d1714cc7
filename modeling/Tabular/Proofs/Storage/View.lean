import Mathlib.Data.List.Basic
import Tabular.Storage.Memory

/-! What a memory shows: the lines of its tables and the id marks of its databases, and how each
change of the memory changes them. -/
namespace Tabular

namespace SortedMap
variable {κ α : Type} [LT κ]

theorem pairwise_keys (m : SortedMap κ α) : m.keys.Pairwise (· < ·) := List.pairwise_map.2 m.sorted

theorem nodup_keys [LE κ] [Std.IsLinearOrder κ] [Std.LawfulOrderLT κ] (m : SortedMap κ α) :
    m.keys.Nodup := by
  have hne : ∀ a b : κ, a < b → a ≠ b := by
    rintro a b hlt rfl
    exact Std.lt_irrefl hlt
  exact m.pairwise_keys.imp (hne _ _)

theorem length_put_le [DecidableLT κ] (k : κ) (v : α) (l : List (κ × α)) :
    (put k v l).length ≤ l.length + 1 := by
  induction l with
  | nil => exact Nat.le_refl 1
  | cons a rest ih =>
    rw [put]
    split
    · exact Nat.le_refl _
    · split
      · exact Nat.succ_le_succ ih
      · exact Nat.le_succ _

theorem length_insert_le [LE κ] [Std.IsLinearOrder κ] [Std.LawfulOrderLT κ] [DecidableLT κ]
    (m : SortedMap κ α) (k : κ) (v : α) : (m.insert k v).entries.length ≤ m.entries.length + 1 :=
  length_put_le k v m.entries

theorem length_erase_le [DecidableEq κ] (m : SortedMap κ α) (k : κ) :
    (m.erase k).entries.length ≤ m.entries.length :=
  List.length_filter_le _ _

end SortedMap

namespace Memory

def lines? (m : Memory) (d t : String) : Option (List String) :=
  (m.databases.get? d).bind (·.tables.get? t)

def marks? (m : Memory) (d : String) : Option IdMarks := (m.databases.get? d).map (·.marks)

section Answers
variable {m : Memory}

theorem ask_databaseExists (d : String) : m.ask (.databaseExists d) = .ok (m.marks? d).isSome := by
  simp [ask, marks?, SortedMap.contains]

theorem ask_tableExists (d t : String) : m.ask (.tableExists d t) = .ok (m.lines? d t).isSome := by
  rw [ask, lines?]
  cases m.databases.get? d <;> rfl

theorem ask_readTable (d t : String) : m.ask (.readTable d t) = .ok ((m.lines? d t).getD []) := rfl

theorem ask_loadIdMarks {d : String} {marks : IdMarks} :
    m.ask (.loadIdMarks d) = .ok marks ↔ m.marks? d = some marks := by
  rw [ask, marks?, database]
  cases m.databases.get? d with
  | none => exact ⟨fun h => (by cases h), fun h => (by cases h)⟩
  | some db => exact ⟨fun h => (by cases h; rfl), fun h => (by cases h; rfl)⟩

/-- The tables that are listed are those that have lines. -/
theorem mem_of_ask_listTables {d : String} {tables : List String}
    (h : m.ask (.listTables d) = .ok tables) (t : String) :
    t ∈ tables ↔ (m.lines? d t).isSome = true := by
  rw [ask, database] at h
  rw [lines?]
  cases hd : m.databases.get? d with
  | none => rw [hd] at h; cases h
  | some db =>
    rw [hd] at h
    cases h
    rw [SortedMap.mem_keys_iff]
    rfl

theorem exists_listTables {d : String} {marks : IdMarks} (h : m.marks? d = some marks) :
    ∃ tables, m.ask (.listTables d) = .ok tables := by
  obtain ⟨db, hd, -⟩ := Option.map_eq_some_iff.1 h
  exact ⟨db.tables.keys, by rw [ask, database, hd]; rfl⟩

theorem pairwise_of_ask_listTables {d : String} {tables : List String}
    (h : m.ask (.listTables d) = .ok tables) : tables.Pairwise (· < ·) := by
  rw [ask, database] at h
  cases hd : m.databases.get? d with
  | none => rw [hd] at h; cases h
  | some db => rw [hd] at h; cases h; exact db.tables.pairwise_keys

theorem nodup_of_ask_listTables {d : String} {tables : List String}
    (h : m.ask (.listTables d) = .ok tables) : tables.Nodup := by
  have hne : ∀ t u : String, t < u → t ≠ u := by
    rintro t u hlt rfl
    exact Std.lt_irrefl hlt
  exact (pairwise_of_ask_listTables h).imp (hne _ _)

end Answers

section Changes
variable {m m' : Memory} {d t : String}

theorem get?_setDatabase (m : Memory) (d e : String) (db : StoredDatabase) :
    (m.setDatabase d db).databases.get? e = if e = d then some db else m.databases.get? e :=
  SortedMap.get?_insert _ _ _ _

theorem lines?_setTables (m : Memory) (d : String) (db : StoredDatabase)
    (tables : SortedMap String (List String)) (e u : String) :
    (m.setTables d db tables).lines? e u = if e = d then tables.get? u else m.lines? e u := by
  unfold lines? setTables
  rw [get?_setDatabase]
  split <;> rfl

theorem marks?_setTables {db : StoredDatabase} (h : m.databases.get? d = some db)
    (tables : SortedMap String (List String)) (e : String) :
    (m.setTables d db tables).marks? e = m.marks? e := by
  unfold marks? setTables
  rw [get?_setDatabase]
  split
  · next he => rw [he, h]; rfl
  · rfl

theorem lines?_of_get? {db : StoredDatabase} (h : m.databases.get? d = some db) (t : String) :
    m.lines? d t = db.tables.get? t := by
  rw [lines?, h]
  rfl

theorem exists_of_changed_table {f : StoredDatabase → Except Error Memory}
    (h : (m.database d >>= f) = .ok m') : ∃ db, m.databases.get? d = some db ∧ f db = .ok m' := by
  unfold database at h
  cases hd : m.databases.get? d with
  | none => rw [hd] at h; cases h
  | some db => rw [hd] at h; exact ⟨db, rfl, h⟩

theorem of_createDatabase (h : m.changed (.createDatabase d) = .ok m') :
    m.marks? d = none ∧ (∀ e, m'.marks? e = if e = d then some ∅ else m.marks? e) ∧
      ∀ e u, m'.lines? e u = m.lines? e u := by
  rw [changed] at h
  split at h
  · cases h
  · next hnew =>
    cases h
    have hnone : m.databases.get? d = none := by simpa [SortedMap.contains] using hnew
    refine ⟨by rw [marks?, hnone]; rfl, fun e => ?_, fun e u => ?_⟩
    · unfold marks?
      rw [get?_setDatabase]
      split <;> rfl
    · unfold lines?
      rw [get?_setDatabase]
      split
      · next he => rw [he, hnone]; rfl
      · rfl

theorem of_deleteDatabase (h : m.changed (.deleteDatabase d) = .ok m') :
    (m.marks? d).isSome = true ∧ (∀ u, m.lines? d u = none) ∧
      (∀ e, m'.marks? e = if e = d then none else m.marks? e) ∧
        ∀ e u, m'.lines? e u = m.lines? e u := by
  obtain ⟨db, hd, h⟩ := exists_of_changed_table h
  split at h
  · cases h
  · next hempty =>
    cases h
    have hnil : db.tables.entries = [] := by simpa [SortedMap.isEmpty] using hempty
    have hnone : ∀ u, m.lines? d u = none := by
      intro u
      rw [lines?_of_get? hd, SortedMap.get?, hnil]
      rfl
    refine ⟨by rw [marks?, hd]; rfl, hnone, fun e => ?_, fun e u => ?_⟩
    · unfold marks?
      rw [SortedMap.get?_erase]
      split <;> rfl
    · by_cases he : e = d
      · rw [he, hnone, lines?, SortedMap.get?_erase, if_pos rfl]
        rfl
      · rw [lines?, SortedMap.get?_erase, if_neg he]
        rfl

private theorem lines?_insert {db : StoredDatabase} (h : m.databases.get? d = some db)
    (lines : List String) (e u : String) :
    (m.setTables d db (db.tables.insert t lines)).lines? e u =
      if e = d ∧ u = t then some lines else m.lines? e u := by
  rw [lines?_setTables, SortedMap.get?_insert]
  by_cases he : e = d
  · subst he
    by_cases hu : u = t <;> simp [hu, lines?_of_get? h]
  · simp [he]

theorem of_createTable {lines : List String} (h : m.changed (.createTable d t lines) = .ok m') :
    (m.marks? d).isSome = true ∧ m.lines? d t = none ∧ (∀ e, m'.marks? e = m.marks? e) ∧
      ∀ e u, m'.lines? e u = if e = d ∧ u = t then some lines else m.lines? e u := by
  obtain ⟨db, hd, h⟩ := exists_of_changed_table h
  split at h
  · cases h
  · next hnew =>
    cases h
    have hfree : m.lines? d t = none := by
      rw [lines?_of_get? hd]
      simpa [SortedMap.contains] using hnew
    exact ⟨by rw [marks?, hd]; rfl, hfree, marks?_setTables hd _, lines?_insert hd lines⟩

theorem of_writeTable {lines : List String} (h : m.changed (.writeTable d t lines) = .ok m') :
    (m.lines? d t).isSome = true ∧ (∀ e, m'.marks? e = m.marks? e) ∧
      ∀ e u, m'.lines? e u = if e = d ∧ u = t then some lines else m.lines? e u := by
  obtain ⟨db, hd, h⟩ := exists_of_changed_table h
  split at h
  · next hold =>
    cases h
    exact ⟨by rw [lines?_of_get? hd]; exact hold, marks?_setTables hd _, lines?_insert hd lines⟩
  · cases h

theorem of_deleteTable (h : m.changed (.deleteTable d t) = .ok m') :
    (m.lines? d t).isSome = true ∧ (∀ e, m'.marks? e = m.marks? e) ∧
      ∀ e u, m'.lines? e u = if e = d ∧ u = t then none else m.lines? e u := by
  obtain ⟨db, hd, h⟩ := exists_of_changed_table h
  split at h
  · next hold =>
    cases h
    refine ⟨by rw [lines?_of_get? hd]; exact hold, marks?_setTables hd _, fun e u => ?_⟩
    rw [lines?_setTables, SortedMap.get?_erase]
    by_cases he : e = d
    · subst he
      by_cases hu : u = t <;> simp [hu, lines?_of_get? hd]
    · simp [he]
  · cases h

theorem of_saveIdMarks {marks : IdMarks} (h : m.changed (.saveIdMarks d marks) = .ok m') :
    (m.marks? d).isSome = true ∧ (∀ e, m'.marks? e = if e = d then some marks else m.marks? e) ∧
      ∀ e u, m'.lines? e u = m.lines? e u := by
  obtain ⟨db, hd, h⟩ := exists_of_changed_table h
  cases h
  refine ⟨by rw [marks?, hd]; rfl, fun e => ?_, fun e u => ?_⟩
  · unfold marks?
    rw [get?_setDatabase]
    split <;> rfl
  · unfold lines?
    rw [get?_setDatabase]
    split
    · next he => rw [he, hd]; rfl
    · rfl

theorem error_of_saveIdMarks {marks : IdMarks} {e : Error}
    (h : m.changed (.saveIdMarks d marks) = .error e) : e = .storage (.noDatabase d) := by
  rw [changed, database] at h
  cases hd : m.databases.get? d with
  | none => rw [hd] at h; cases h; rfl
  | some db => rw [hd] at h; cases h

end Changes

end Memory

/-- A change finds what it works on, and nothing in its way. -/
def Change.Possible (m : Memory) : Change → Prop
  | createDatabase d => m.marks? d = none
  | deleteDatabase d => (m.marks? d).isSome = true ∧ ∀ t, m.lines? d t = none
  | createTable d t _ => (m.marks? d).isSome = true ∧ m.lines? d t = none
  | writeTable d t _ | deleteTable d t => (m.lines? d t).isSome = true
  | saveIdMarks d _ => (m.marks? d).isSome = true

namespace Memory
variable {m : Memory} {d t : String}

theorem get?_of_marks? (h : (m.marks? d).isSome = true) : ∃ db, m.databases.get? d = some db := by
  rw [marks?, Option.isSome_map] at h
  exact Option.isSome_iff_exists.1 h

theorem marks?_of_lines? (h : (m.lines? d t).isSome = true) : (m.marks? d).isSome = true := by
  obtain ⟨lines, hl⟩ := Option.isSome_iff_exists.1 h
  obtain ⟨db, hd, -⟩ := Option.bind_eq_some_iff.1 hl
  rw [marks?, hd]
  rfl

theorem exists_changed {c : Change} (h : c.Possible m) : ∃ m', m.changed c = .ok m' := by
  cases c with
  | createDatabase d =>
    have hnone : ¬m.databases.contains d = true := by
      have h : (m.databases.get? d).map (·.marks) = none := h
      simpa [SortedMap.contains] using h
    exact ⟨_, if_neg hnone⟩
  | deleteDatabase d =>
    obtain ⟨db, hd⟩ := get?_of_marks? h.1
    have hempty : db.tables.isEmpty = true := by
      cases he : db.tables.entries with
      | nil => rw [SortedMap.isEmpty, he]; rfl
      | cons e rest =>
        have hnone := h.2 e.1
        rw [lines?_of_get? hd, SortedMap.get?, he, SortedMap.find, if_pos rfl] at hnone
        cases hnone
    refine ⟨⟨m.databases.erase d⟩, ?_⟩
    rw [changed, database, hd]
    change (if _ then _ else _) = _
    rw [hempty]
    rfl
  | createTable d t lines =>
    obtain ⟨db, hd⟩ := get?_of_marks? h.1
    have hnew : ¬db.tables.contains t = true := by
      have hnone := h.2
      rw [lines?_of_get? hd] at hnone
      simp [SortedMap.contains, hnone]
    refine ⟨m.setTables d db (db.tables.insert t lines), ?_⟩
    rw [changed, database, hd]
    exact if_neg hnew
  | writeTable d t lines =>
    obtain ⟨db, hd⟩ := get?_of_marks? (marks?_of_lines? h)
    refine ⟨m.setTables d db (db.tables.insert t lines), ?_⟩
    rw [Change.Possible, lines?_of_get? hd] at h
    rw [changed, database, hd]
    exact if_pos h
  | deleteTable d t =>
    obtain ⟨db, hd⟩ := get?_of_marks? (marks?_of_lines? h)
    refine ⟨m.setTables d db (db.tables.erase t), ?_⟩
    rw [Change.Possible, lines?_of_get? hd] at h
    rw [changed, database, hd]
    exact if_pos h
  | saveIdMarks d marks =>
    obtain ⟨db, hd⟩ := get?_of_marks? h
    refine ⟨m.setDatabase d { db with marks }, ?_⟩
    rw [changed, database, hd]
    rfl

end Memory

end Tabular
