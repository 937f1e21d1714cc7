import Tabular.Proofs.Table.Changes

/-! No change of a table raises its highest id, but for a row that is added. -/
namespace Tabular.Table

private theorem foldl_max_le_iff (ids : List UInt64) (start n : UInt64) :
    ids.foldl max start ≤ n ↔ start ≤ n ∧ ∀ id ∈ ids, id ≤ n := by
  induction ids generalizing start with
  | nil => simp
  | cons a rest ih =>
    have hmax : max start a ≤ n ↔ start ≤ n ∧ a ≤ n := by
      rw [UInt64.le_iff_toNat_le, UInt64.le_iff_toNat_le, UInt64.le_iff_toNat_le, toNat_max]
      exact Nat.max_le
    rw [List.foldl_cons, ih, hmax, List.forall_mem_cons, and_assoc]

theorem maxId_le_iff {t : Table} {n : UInt64} :
    t.maxId ≤ n ↔ ∀ row ∈ t.rows, ∀ id, rowId? row = some id → id ≤ n := by
  rw [maxId, foldl_max_le_iff]
  constructor
  · rintro ⟨-, h⟩ row hr id hid
    exact h id (List.mem_filterMap.2 ⟨row, hr, hid⟩)
  · intro h
    refine ⟨UInt64.le_iff_toNat_le.2 (Nat.zero_le _), fun id hid => ?_⟩
    obtain ⟨row, hr, hid⟩ := List.mem_filterMap.1 hid
    exact h row hr id hid

theorem rowId?_congr {row row' : List String} (h : row.head? = row'.head?) :
    rowId? row = rowId? row' := by
  rw [rowId?, rowId?, h]

/-- Rows that begin like those of another table have no higher ids. -/
theorem maxId_le_maxId {t t' : Table} (h : ∀ row ∈ t'.rows, ∃ old ∈ t.rows, row.head? = old.head?) :
    t'.maxId ≤ t.maxId := by
  rw [maxId_le_iff]
  intro row hr id hid
  obtain ⟨old, ho, hhead⟩ := h row hr
  rw [rowId?_congr hhead] at hid
  exact maxId_le_iff.1 (UInt64.le_refl _) old ho id hid

theorem maxId_insertRow_le {t : Table} {id : UInt64} (h : t.maxId ≤ id) (values : List String) :
    (t.insertRow id values).maxId ≤ id := by
  rw [maxId_le_iff]
  intro row hr n hn
  rcases List.mem_append.1 hr with hr | hr
  · exact UInt64.le_trans (maxId_le_iff.1 (UInt64.le_refl _) row hr n hn) h
  · rw [List.mem_singleton.1 hr, rowId?_cons_toString] at hn
    exact Option.some.inj hn ▸ UInt64.le_refl _

theorem maxId_assign_le (t : Table) {cells : List (Nat × String)}
    (hc : ∀ cell ∈ cells, cell.1 ≠ 0 ∧ IsCell cell.2) (condition : Option Condition) :
    (t.assign condition cells).maxId ≤ t.maxId := by
  apply maxId_le_maxId
  intro row hr
  obtain ⟨old, ho, rfl⟩ := List.mem_map.1 hr
  refine ⟨old, ho, ?_⟩
  split
  · exact (foldl_set hc old).1
  · rfl

theorem maxId_remove_le (t : Table) (condition : Option Condition) :
    (t.remove condition).maxId ≤ t.maxId := by
  apply maxId_le_maxId
  intro row hr
  cases condition with
  | none => exact ⟨row, hr, rfl⟩
  | some c => exact ⟨row, List.mem_of_mem_filter hr, rfl⟩

theorem head?_fitRow {width : Nat} (hw : width ≠ 0) {row : List String} (hr : row ≠ []) :
    (fitRow width row).head? = row.head? := by
  cases row with
  | nil => exact absurd rfl hr
  | cons c cells =>
    cases width with
    | zero => exact absurd rfl hw
    | succ width => rfl

theorem maxId_fit_le {t : Table} (hh : t.header ≠ []) (hr : ∀ row ∈ t.rows, row ≠ []) :
    t.fit.maxId ≤ t.maxId := by
  apply maxId_le_maxId
  intro row hrow
  obtain ⟨old, ho, rfl⟩ := List.mem_map.1 hrow
  exact ⟨old, ho, head?_fitRow (by simpa using hh) (hr old ho)⟩

theorem Sound.maxId_addColumn_le {t : Table} (h : t.Sound) (column : String) :
    (t.addColumn column).maxId ≤ t.maxId := by
  have hrows : ∀ row ∈ t.rows, row ≠ [] := by
    rcases h with rfl | h
    · intro row hr
      cases hr
    · exact fun row hr => h.row_ne_nil hr
  exact maxId_fit_le (t := { t with header := _ }) (by simp) hrows

theorem WellFormed.maxId_dropColumn_le {t : Table} (h : t.WellFormed) {i : Nat} (hi : i ≠ 0) :
    (t.dropColumn i).maxId ≤ t.maxId := by
  let erased : Table := ⟨t.header.eraseIdx i, t.rows.map (·.eraseIdx i)⟩
  have hheads : ∀ row ∈ erased.rows, ∃ old ∈ t.rows, row.head? = old.head? := by
    intro row hr
    obtain ⟨old, ho, rfl⟩ := List.mem_map.1 hr
    exact ⟨old, ho, head?_eraseIdx hi⟩
  have hheader : erased.header ≠ [] := by
    obtain ⟨columns, hcolumns⟩ := (h.header.eraseIdx hi).eq_cons
    rw [show erased.header = idColumn :: columns from hcolumns]
    exact List.cons_ne_nil _ _
  have hrows : ∀ row ∈ erased.rows, row ≠ [] := by
    rintro row hr rfl
    obtain ⟨old, ho, hhead⟩ := hheads [] hr
    exact h.row_ne_nil ho (List.head?_eq_none_iff.1 hhead.symm)
  exact UInt64.le_trans (maxId_fit_le hheader hrows) (maxId_le_maxId hheads)

end Tabular.Table
