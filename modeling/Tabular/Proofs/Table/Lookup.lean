import Mathlib.Data.List.Nodup
import Mathlib.Data.Option.Basic
import Tabular.Proofs.Number.Words
import Tabular.Proofs.Table.Changes

/-! Rows that are found by their id: those whose id has the nearest number of the wanted one. -/
namespace Tabular

theorem Value.ofText_toString (n : UInt64) : ofText (toString n.toNat) = .number (.ofWord n) := by
  have htrim : Text.trim (toString n.toNat) = toString n.toNat :=
    Text.trim_eq_self fun c hc => isBlank_of_isDigit (isDigit_of_mem_toString hc)
  rw [ofText, htrim, Decimal.ofText?_toString]
  rfl

theorem Comparison.equal_holds_toString (m n : UInt64) :
    equal.holds (toString m.toNat) (toString n.toNat) =
      decide (Binary64.ofWord m = Binary64.ofWord n) := by
  rw [holds, Value.ofText_toString, Value.ofText_toString]
  change ((Binary64.ofWord m).key == (Binary64.ofWord n).key) = _
  rw [Bool.eq_iff_iff, beq_iff_eq, decide_eq_true_eq, Binary64.key_ofWord_inj]

namespace Table
variable {t : Table} {n : UInt64} {row : List String}

theorem rowHolds_comparison {column : String} {i : Nat} (hi : findColumn? t.header column = some i)
    {cell : String} (hcell : row[i]? = some cell) (op : Comparison) (value : String) :
    t.rowHolds (some (.comparison column op value)) row = op.holds cell value := by
  change Condition.holds t.header row (.comparison column op value) = _
  rw [Condition.holds, hi]
  dsimp only
  rw [hcell]

theorem cellsAt_range {n : Nat} (h : row.length = n) : cellsAt row (List.range n) = row := by
  subst h
  refine List.ext_getElem (by simp [cellsAt]) fun i hi hi' => ?_
  simp [cellsAt, hi']

theorem scan_range (h : ∀ row ∈ t.rows, row.length = t.header.length)
    (condition : Option Condition) :
    t.scan (List.range t.header.length) condition =
      .scan t.header (t.rows.filter (t.rowHolds condition)) := by
  have hcells : ∀ row ∈ t.rows.filter (t.rowHolds condition),
      cellsAt row (List.range t.header.length) = row :=
    fun row hr => cellsAt_range (h row (List.mem_of_mem_filter hr))
  rw [Table.scan, cellsAt_range rfl]
  congr 1
  exact (List.map_congr_left hcells).trans (List.map_id _)

/-- A table with an id column, rows of its width, and a word in digits as the id of each row, no two
of them alike. -/
structure Keyed (t : Table) : Prop where
  first : t.header.head? = some idColumn
  width : ∀ row ∈ t.rows, row.length = t.header.length
  keys : ∃ ids : List UInt64,
    t.rows.map List.head? = ids.map (fun n => some (toString n.toNat)) ∧ ids.Nodup

/-- The id of a row has the nearest number that a word has. -/
def near (n : UInt64) (row : List String) : Bool :=
  (rowId? row).any fun m => Binary64.ofWord m = Binary64.ofWord n

def rowsNear (t : Table) (n : UInt64) : List (List String) := t.rows.filter (near n)

theorem length_rowsNear (t : Table) (n : UInt64) :
    (t.rowsNear n).length = t.rows.length - (t.rows.filter fun row => !near n row).length := by
  rw [rowsNear, List.length_eq_length_filter_add (l := t.rows) (near n), Nat.add_sub_cancel]

theorem near_iff {m : UInt64} (h : row.head? = some (toString m.toNat)) :
    near n row = true ↔ Binary64.ofWord m = Binary64.ofWord n := by
  obtain ⟨cells, rfl⟩ := List.head?_eq_some_iff.1 h
  rw [near, rowId?_cons_toString]
  simp

theorem mem_rowsNear (hr : row ∈ t.rows) (hn : row.head? = some (toString n.toNat)) :
    row ∈ t.rowsNear n :=
  List.mem_filter.2 ⟨hr, (near_iff hn).2 rfl⟩

theorem toString_toNat_injective : Function.Injective fun n : UInt64 => toString n.toNat := by
  intro m n h
  have hread := unsigned64?_toString m
  rw [show toString m.toNat = toString n.toNat from h, unsigned64?_toString] at hread
  exact (Option.some.inj hread).symm

namespace Keyed

theorem header_ne_nil (h : t.Keyed) : t.header ≠ [] := by
  intro hnil
  have hfirst := h.first
  rw [hnil] at hfirst
  cases hfirst

theorem findColumn?_id (h : t.Keyed) {column : String} (hc : isIdColumn column = true) :
    findColumn? t.header column = some 0 :=
  Tabular.findColumn?_id h.first hc

theorem exists_id (h : t.Keyed) (hr : row ∈ t.rows) :
    ∃ m : UInt64, row.head? = some (toString m.toNat) := by
  obtain ⟨ids, hids, -⟩ := h.keys
  have hm : row.head? ∈ ids.map fun n => some (toString n.toNat) := hids ▸ List.mem_map_of_mem hr
  obtain ⟨m, -, he⟩ := List.mem_map.1 hm
  exact ⟨m, he.symm⟩

theorem nodup_heads (h : t.Keyed) : (t.rows.map List.head?).Nodup := by
  obtain ⟨ids, hids, hnodup⟩ := h.keys
  rw [hids]
  exact hnodup.map ((Option.some_injective _).comp toString_toNat_injective)

/-- The condition that the id is a word holds of the rows whose ids are near it. -/
theorem rowHolds_id (h : t.Keyed) {column : String} (hc : isIdColumn column = true)
    (hr : row ∈ t.rows) (n : UInt64) :
    t.rowHolds (some (.comparison column .equal (toString n.toNat))) row = near n row := by
  obtain ⟨m, hm⟩ := h.exists_id hr
  have hcell : row[0]? = some (toString m.toNat) := by rwa [← List.head?_eq_getElem?]
  rw [rowHolds_comparison (h.findColumn?_id hc) hcell, Comparison.equal_holds_toString,
    Bool.eq_iff_iff, decide_eq_true_eq, near_iff hm]

theorem filter_rowHolds_id (h : t.Keyed) {column : String} (hc : isIdColumn column = true)
    (n : UInt64) :
    t.rows.filter (t.rowHolds (some (.comparison column .equal (toString n.toNat)))) =
      t.rowsNear n :=
  List.filter_congr fun _ hr => h.rowHolds_id hc hr n

theorem assign_id (h : t.Keyed) {column : String} (hc : isIdColumn column = true) (n : UInt64)
    (cells : List (Nat × String)) :
    t.assign (some (.comparison column .equal (toString n.toNat))) cells =
      ⟨t.header, t.rows.map fun row =>
        if near n row then cells.foldl (fun row cell => row.set cell.1 cell.2) row else row⟩ := by
  rw [assign]
  congr 1
  refine List.map_congr_left fun row hr => ?_
  rw [h.rowHolds_id hc hr]

theorem remove_id (h : t.Keyed) {column : String} (hc : isIdColumn column = true) (n : UInt64) :
    t.remove (some (.comparison column .equal (toString n.toNat))) =
      ⟨t.header, t.rows.filter fun row => !near n row⟩ := by
  rw [remove]
  congr 1
  exact List.filter_congr fun row hr => congrArg not (h.rowHolds_id hc hr n)

theorem countP_id (h : t.Keyed) {column : String} (hc : isIdColumn column = true) (n : UInt64) :
    t.rows.countP (t.rowHolds (some (.comparison column .equal (toString n.toNat)))) =
      (t.rowsNear n).length := by
  rw [List.countP_eq_length_filter, h.filter_rowHolds_id hc]

theorem readable (h : t.Keyed) (ht : ∀ line ∈ t.header :: t.rows, ∀ c ∈ line, '\t' ∉ c.toList) :
    t.Readable where
  heads := by
    refine List.forall_mem_cons.2 ⟨?_, fun row hr => ?_⟩
    · obtain ⟨columns, hcolumns⟩ := List.head?_eq_some_iff.1 h.first
      exact ⟨idColumn, columns, hcolumns, by simp [idColumn]⟩
    · obtain ⟨m, hm⟩ := h.exists_id hr
      obtain ⟨cells, hcells⟩ := List.head?_eq_some_iff.1 hm
      exact ⟨_, cells, hcells, toString_ne_empty _⟩
  tabs := ht
  width := fun row hr => Nat.le_of_eq (h.width row hr).symm

section Found
variable (h : t.Keyed) (hr : row ∈ t.rows) (hn : row.head? = some (toString n.toNat))
include h hr hn

/-- A row is the only one that is found exactly if no other id has the nearest number of its id. -/
theorem rowsNear_eq_singleton_iff :
    t.rowsNear n = [row] ↔ ∀ other ∈ t.rows, ∀ m : UInt64,
      other.head? = some (toString m.toNat) → Binary64.ofWord m = Binary64.ofWord n → m = n := by
  constructor
  · intro honly other ho m hm hnear
    have hmem : other ∈ t.rowsNear n := List.mem_filter.2 ⟨ho, (near_iff hm).2 hnear⟩
    rw [honly, List.mem_singleton] at hmem
    rw [hmem, hn] at hm
    exact (toString_toNat_injective (Option.some.inj hm)).symm
  · intro halone
    have hsame : ∀ other ∈ t.rows, near n other = (other == row) := by
      intro other ho
      obtain ⟨m, hm⟩ := h.exists_id ho
      rw [Bool.eq_iff_iff, near_iff hm, beq_iff_eq]
      constructor
      · intro hnear
        rw [halone other ho m hm hnear, ← hn] at hm
        exact List.inj_on_of_nodup_map h.nodup_heads ho hr hm
      · rintro rfl
        rw [hm] at hn
        rw [toString_toNat_injective (Option.some.inj hn)]
    have hnodup : t.rows.Nodup := h.nodup_heads.of_map
    rw [rowsNear, List.filter_congr hsame, List.filter_beq, List.count_eq_one_of_mem hnodup hr]
    rfl

/-- A row with an id below `2 ^ 53` is the only one that is found. -/
theorem rowsNear_of_lt (hlt : n.toNat < 2 ^ 53) : t.rowsNear n = [row] :=
  (h.rowsNear_eq_singleton_iff hr hn).2 fun _ _ _ _ hnear => Binary64.eq_of_ofWord_eq hlt hnear

end Found

end Keyed

end Table

end Tabular
