import Mathlib.Data.List.Basic
import Tabular.Proofs.Outcomes
import Tabular.Proofs.Table.RowIds
import Tabular.Session.Execution

/-! Well-formed tables: what a header and rows must be so that their lines are read back as the same
table, and that every change of a table keeps to it. -/
namespace Tabular

/-- A text that keeps to its place in a line, and its line to its place in a file. -/
def IsCell (s : String) : Prop := ∀ c ∈ s.toList, c ∉ ['\t', '\n', '\r']

/-- The names of columns: the id column first, and no name twice. -/
structure IsHeader (names : List String) : Prop where
  first : names.head? = some idColumn
  distinct : names.Pairwise fun a b => Text.eqCaseless a b = false
  cells : ∀ c ∈ names, IsCell c

/-- The rows begin with the digits of positive words, which increase from row to row. -/
def Numbered (rows : List (List String)) : Prop :=
  ∃ ids : List UInt64, rows.map List.head? = ids.map (fun n => some (toString n.toNat)) ∧
    (∀ n ∈ ids, 0 < n) ∧ ids.Pairwise (· < ·)

namespace Table

/-- A table with a header, numbered rows of the same width, and nothing but cells. -/
structure WellFormed (t : Table) : Prop where
  header : IsHeader t.header
  width : ∀ row ∈ t.rows, row.length = t.header.length
  cells : ∀ row ∈ t.rows, ∀ c ∈ row, IsCell c
  numbered : Numbered t.rows

def untitled : Table := ⟨[], []⟩

/-- A table that has no columns yet, or is well formed. -/
def Sound (t : Table) : Prop := t = untitled ∨ t.WellFormed

end Table

theorem Table.WellFormed.header_ne_nil {t : Table} (h : t.WellFormed) : t.header ≠ [] := by
  intro hn
  have hfirst := h.header.first
  rw [hn] at hfirst
  cases hfirst

theorem Table.Sound.wellFormed {t : Table} (h : t.Sound) (hne : t.header.isEmpty = false) :
    t.WellFormed := by
  rcases h with rfl | h
  · cases hne
  · exact h

def WellStored (lines : List String) : Prop := ∃ t : Table, t.Sound ∧ t.toLines = lines

section Cells

theorem isCell_ofList {cs : List Char} :
    IsCell (String.ofList cs) ↔ ∀ c ∈ cs, c ∉ ['\t', '\n', '\r'] := by
  rw [IsCell, String.toList_ofList]

theorem isCell_toString (n : Nat) : IsCell (toString n) := by
  intro c hc
  have hd := isDigit_of_mem_toString hc
  rintro hm
  simp only [List.mem_cons, List.not_mem_nil, or_false] at hm
  rcases hm with rfl | rfl | rfl <;> simp at hd

theorem isCell_nullCell : IsCell nullCell := by
  rw [nullCell, show "NULL" = String.ofList ['N', 'U', 'L', 'L'] from rfl, isCell_ofList]
  simp

theorem isCell_idColumn : IsCell idColumn := by
  rw [idColumn, show "id" = String.ofList ['i', 'd'] from rfl, isCell_ofList]
  simp

theorem IsCell.tab {s : String} (h : IsCell s) : '\t' ∉ s.toList := fun hm => h _ hm (by simp)

/-- A literal is that of a cell if its content is one. -/
theorem cellOf_eq_ok {literal value : String} :
    cellOf literal = .ok value ↔ value = unquote literal ∧ IsCell (unquote literal) := by
  unfold cellOf
  dsimp only
  constructor
  · intro h
    split at h
    · cases h
    · next hv =>
      cases h
      refine ⟨rfl, fun c hc hm => hv (List.any_eq_true.2 ⟨c, hc, ?_⟩)⟩
      simpa using hm
  · rintro ⟨rfl, hcell⟩
    have hany : (unquote literal).toList.any (· ∈ ['\t', '\n', '\r']) = false := by
      rw [List.any_eq_false]
      intro c hc
      simpa using hcell c hc
    rw [hany]
    rfl

theorem eq_of_cellOf_error {literal : String} {e : Error} (h : cellOf literal = .error e) :
    e = .schema (.badLiteral literal) := by
  unfold cellOf at h
  dsimp only at h
  split at h <;> cases h
  rfl

theorem isCell_of_cellOf {literal value : String} (h : cellOf literal = .ok value) :
    IsCell value := by
  obtain ⟨rfl, hcell⟩ := cellOf_eq_ok.1 h
  exact hcell

theorem mapM_cellOf_eq_ok {literals values : List String} : literals.mapM cellOf = .ok values ↔
    values = literals.map unquote ∧ ∀ value ∈ literals.map unquote, IsCell value := by
  induction literals generalizing values with
  | nil => simp [pure, Except.pure, eq_comm]
  | cons literal rest ih =>
    rw [mapM_cons_eq_ok, List.map_cons, List.forall_mem_cons]
    simp only [cellOf_eq_ok, ih]
    constructor
    · rintro ⟨value, values, ⟨rfl, hcell⟩, ⟨rfl, hcells⟩, rfl⟩
      exact ⟨rfl, hcell, hcells⟩
    · rintro ⟨rfl, hcell, hcells⟩
      exact ⟨_, _, ⟨rfl, hcell⟩, ⟨rfl, hcells⟩, rfl⟩

theorem length_cellsAt (row : List String) (indexes : List Nat) :
    (Table.cellsAt row indexes).length = indexes.length :=
  List.length_map _

end Cells

section Header

theorem findColumn?_eq_none {names : List String} {column : String} :
    findColumn? names column = none ↔ ∀ a ∈ names, Text.eqCaseless a column = false := by
  simp [findColumn?]

/-- Names that differ in the case of ASCII letters alone find the same column. -/
theorem findColumn?_congr {column column' : String} (h : Text.eqCaseless column column' = true)
    (names : List String) : findColumn? names column = findColumn? names column' := by
  have hsame (a : String) : Text.eqCaseless a column = Text.eqCaseless a column' :=
    Bool.eq_iff_iff.2 ⟨fun ha => Text.eqCaseless_trans ha h,
      fun ha => Text.eqCaseless_trans ha (Text.eqCaseless_symm h)⟩
  rw [findColumn?, findColumn?, funext hsame]

theorem lt_length_of_findColumn? {names : List String} {column : String} {i : Nat}
    (h : findColumn? names column = some i) : i < names.length :=
  (List.findIdx?_eq_some_iff_getElem.1 h).1

theorem eqCaseless_of_findColumn? {names : List String} {column name : String} {i : Nat}
    (h : findColumn? names column = some i) (hn : names[i]? = some name) :
    Text.eqCaseless name column = true := by
  obtain ⟨hlt, hfound, -⟩ := List.findIdx?_eq_some_iff_getElem.1 h
  rw [List.getElem?_eq_getElem hlt] at hn
  exact Option.some.inj hn ▸ hfound

theorem isHeader_cons {columns : List String} (hid : ∀ c ∈ columns, isIdColumn c = false)
    (hd : columns.Pairwise fun a b => Text.eqCaseless a b = false) (hc : ∀ c ∈ columns, IsCell c) :
    IsHeader (idColumn :: columns) where
  first := rfl
  distinct := by
    refine List.pairwise_cons.2 ⟨fun c hm => ?_, hd⟩
    have hne := hid c hm
    by_contra he
    rw [isIdColumn, Text.eqCaseless_symm (by simpa using he)] at hne
    cases hne
  cells := by
    intro c hm
    rcases List.mem_cons.1 hm with rfl | hm
    · exact isCell_idColumn
    · exact hc c hm

theorem IsHeader.append {names : List String} (h : IsHeader names) {column : String}
    (hn : findColumn? names column = none) (hc : IsCell column) : IsHeader (names ++ [column]) where
  first := by rw [List.head?_append, h.first]; rfl
  distinct := by
    rw [List.pairwise_append]
    exact ⟨h.distinct, List.pairwise_singleton _ _, fun a ha b hb =>
      List.mem_singleton.1 hb ▸ findColumn?_eq_none.1 hn a ha⟩
  cells := by
    intro c hm
    rcases List.mem_append.1 hm with hm | hm
    · exact h.cells c hm
    · exact List.mem_singleton.1 hm ▸ hc

theorem IsHeader.eq_cons {names : List String} (h : IsHeader names) :
    ∃ columns, names = idColumn :: columns := by
  have hfirst := h.first
  cases names with
  | nil => cases hfirst
  | cons a rest => exact ⟨rest, by rw [Option.some.inj hfirst]⟩

theorem findColumn?_id {names : List String} (h : names.head? = some idColumn) {column : String}
    (hc : isIdColumn column = true) : findColumn? names column = some 0 := by
  obtain ⟨columns, rfl⟩ := List.head?_eq_some_iff.1 h
  have hid : Text.eqCaseless idColumn column = true := Text.eqCaseless_symm hc
  rw [findColumn?, List.findIdx?_cons, if_pos hid]

/-- Only the name of the id column finds the first column. -/
theorem findColumn?_ne_zero {names : List String} (h : names.head? = some idColumn)
    {column : String} (hid : isIdColumn column = false) : findColumn? names column ≠ some 0 := by
  intro hf
  obtain ⟨rest, rfl⟩ := List.head?_eq_some_iff.1 h
  have hm : Text.eqCaseless idColumn column = true := by
    by_contra hne
    rw [findColumn?, List.findIdx?_cons, if_neg hne] at hf
    simp at hf
  rw [isIdColumn, Text.eqCaseless_symm hm] at hid
  cases hid

theorem head?_eraseIdx {α : Type} {l : List α} {i : Nat} (hi : i ≠ 0) :
    (l.eraseIdx i).head? = l.head? := by
  cases l with
  | nil => rfl
  | cons a rest =>
    cases i with
    | zero => exact absurd rfl hi
    | succ i => rfl

theorem IsHeader.eraseIdx {names : List String} (h : IsHeader names) {i : Nat} (hi : i ≠ 0) :
    IsHeader (names.eraseIdx i) where
  first := by rw [head?_eraseIdx hi, h.first]
  distinct := h.distinct.sublist (List.eraseIdx_sublist names i)
  cells := fun c hc => h.cells c (List.mem_of_mem_eraseIdx hc)

end Header

section Numbered

theorem numbered_nil : Numbered [] := ⟨[], rfl, by simp, .nil⟩

theorem Numbered.sublist {rows kept : List (List String)} (h : Numbered rows)
    (hs : kept.Sublist rows) : Numbered kept := by
  obtain ⟨ids, hids, hpos, hlt⟩ := h
  obtain ⟨ids', hsub, hmap⟩ := List.sublist_map_iff.1 (hids ▸ hs.map List.head?)
  exact ⟨ids', hmap, fun n hn => hpos n (hsub.subset hn), hlt.sublist hsub⟩

/-- Changes of rows that leave their first cells alone leave them numbered. -/
theorem Numbered.map {rows : List (List String)} (h : Numbered rows) {f : List String → List String}
    (hf : ∀ row ∈ rows, (f row).head? = row.head?) : Numbered (rows.map f) := by
  obtain ⟨ids, hids, hpos, hlt⟩ := h
  refine ⟨ids, ?_, hpos, hlt⟩
  rw [List.map_map, ← hids]
  exact List.map_congr_left hf

theorem Numbered.exists_rowId {rows : List (List String)} (h : Numbered rows) {row : List String}
    (hr : row ∈ rows) : ∃ n : UInt64, row.head? = some (toString n.toNat) ∧ 0 < n := by
  obtain ⟨ids, hids, hpos, -⟩ := h
  have hm : row.head? ∈ ids.map fun n => some (toString n.toNat) := hids ▸ List.mem_map_of_mem hr
  obtain ⟨n, hn, he⟩ := List.mem_map.1 hm
  exact ⟨n, he.symm, hpos n hn⟩

theorem Table.WellFormed.row_ne_nil {t : Table} (h : t.WellFormed) {row : List String}
    (hr : row ∈ t.rows) : row ≠ [] := by
  obtain ⟨n, hn, -⟩ := h.numbered.exists_rowId hr
  rintro rfl
  cases hn

/-- The ids of numbered rows are those that are read from them. -/
theorem Numbered.push {rows : List (List String)} (h : Numbered rows) {id : UInt64}
    (hid : (Table.maxId ⟨[], rows⟩).toNat < id.toNat) (values : List String) :
    Numbered (rows ++ [toString id.toNat :: values]) := by
  obtain ⟨ids, hids, hpos, hlt⟩ := h
  refine ⟨ids ++ [id], by simp [hids], ?_, ?_⟩
  · intro n hn
    rcases List.mem_append.1 hn with hn | hn
    · exact hpos n hn
    · rw [List.mem_singleton.1 hn, UInt64.lt_iff_toNat_lt]
      exact Nat.zero_lt_of_lt hid
  · rw [List.pairwise_append]
    refine ⟨hlt, List.pairwise_singleton _ _, fun n hn n' hn' => ?_⟩
    obtain ⟨row, hr, he⟩ := List.mem_map.1 (hids ▸ List.mem_map_of_mem hn :
      some (toString n.toNat) ∈ rows.map List.head?)
    obtain ⟨cells, rfl⟩ : ∃ cells, row = toString n.toNat :: cells := by
      cases row with
      | nil => cases he
      | cons c cells => exact ⟨cells, by rw [Option.some.inj he]⟩
    have := Table.rowId?_le_maxId (t := ⟨[], rows⟩) hr (Table.rowId?_cons_toString n cells)
    rw [List.mem_singleton.1 hn', UInt64.lt_iff_toNat_lt]
    omega

end Numbered

end Tabular
