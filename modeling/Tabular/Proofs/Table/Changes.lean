import Tabular.Proofs.Table.Codec

/-! Every change of a sound table leaves it sound. -/
namespace Tabular.Table

/-- A header with one more column, whose name must be new. -/
def extendHeader (names : List String) (v : String) : Except Error (List String) :=
  if isIdColumn v || (findColumn? names v).isSome then .error (.schema (.invalidColumn v))
  else .ok (names ++ [v])

theorem titled_eq (t : Table) (values : List String) :
    t.titled values =
      if t.header.isEmpty then
        (values.foldlM extendHeader [idColumn]).map fun header => { t with header }
      else .ok t := by
  unfold titled
  split
  · change (values.foldlM extendHeader [idColumn] >>= fun header => pure { t with header }) = _
    cases values.foldlM extendHeader [idColumn] <;> rfl
  · rfl

/-- A table without columns gets them from the values; another stays as it is. -/
theorem cases_of_titled {t t' : Table} {values : List String} (h : t.titled values = .ok t') :
    (t.header = [] ∧ ∃ names, values.foldlM extendHeader [idColumn] = .ok names ∧
      t' = { t with header := names }) ∨ t.header ≠ [] ∧ t' = t := by
  rw [titled_eq] at h
  split at h
  · next hempty =>
    obtain ⟨names, hnames, rfl⟩ := Except.map_eq_ok.1 h
    exact .inl ⟨List.isEmpty_iff.1 hempty, names, hnames, rfl⟩
  · next hne =>
    cases h
    exact .inr ⟨by simpa using hne, rfl⟩

theorem rows_of_titled {t t' : Table} {values : List String} (h : t.titled values = .ok t') :
    t'.rows = t.rows := by
  obtain ⟨-, names, -, rfl⟩ | ⟨-, rfl⟩ := cases_of_titled h
  · rfl
  · rfl

theorem extendHeader_eq_ok {names names' : List String} {v : String} :
    extendHeader names v = .ok names' ↔
      names' = names ++ [v] ∧ isIdColumn v = false ∧ findColumn? names v = none := by
  unfold extendHeader
  constructor
  · intro h
    split at h
    · cases h
    · next hnew =>
      cases h
      rw [Bool.or_eq_true, not_or] at hnew
      exact ⟨rfl, by simpa using hnew.1, by simpa using hnew.2⟩
  · rintro ⟨rfl, hid, hnew⟩
    rw [hid, hnew]
    rfl

/-- The names that the first values of a table give it are a header. -/
theorem Sound.titled {t t' : Table} (h : t.Sound) {values : List String}
    (hv : ∀ v ∈ values, IsCell v) (ht : t.titled values = .ok t') : t'.WellFormed := by
  obtain ⟨hempty, names, hnames, rfl⟩ | ⟨hne, rfl⟩ := cases_of_titled ht
  · rcases h with rfl | h
    · have hid : IsHeader [idColumn] := isHeader_cons (by simp) .nil (by simp)
      have hheader : IsHeader names := by
        refine of_foldlM_ok (P := IsHeader) (fun v hmem names names' hn he => ?_) hid hnames
        obtain ⟨rfl, -, hnew⟩ := extendHeader_eq_ok.1 he
        exact hn.append hnew (hv v hmem)
      exact ⟨hheader, nofun, nofun, numbered_nil⟩
    · exact absurd hempty h.header_ne_nil
  · exact h.wellFormed (List.isEmpty_eq_false_iff.2 hne)

theorem WellFormed.insertRow {t : Table} (h : t.WellFormed) {id : UInt64}
    (hid : t.maxId.toNat < id.toNat) {values : List String} (hv : ∀ v ∈ values, IsCell v)
    (hl : values.length = t.header.length - 1) :
    (t.insertRow id values).WellFormed where
  header := h.header
  width := by
    intro row hr
    have hpos : 0 < t.header.length := List.length_pos_iff.2 h.header_ne_nil
    rcases List.mem_append.1 hr with hr | hr
    · exact h.width row hr
    · rw [List.mem_singleton.1 hr, List.length_cons, hl]
      exact Nat.succ_pred_eq_of_pos hpos
  cells := by
    intro row hr c hc
    rcases List.mem_append.1 hr with hr | hr
    · exact h.cells row hr c hc
    · rw [List.mem_singleton.1 hr] at hc
      rcases List.mem_cons.1 hc with rfl | hc
      · exact isCell_toString _
      · exact hv c hc
  numbered := h.numbered.push hid values

theorem findColumn?_of_columnIndex {t : Table} {name column : String} {i : Nat}
    (h : t.columnIndex name column = .ok i) : findColumn? t.header column = some i := by
  rw [columnIndex] at h
  cases hf : findColumn? t.header column with
  | none => rw [hf] at h; cases h
  | some j => rw [hf] at h; cases h; rfl

theorem columnIndex_of_findColumn? {t : Table} {column : String} {i : Nat}
    (h : findColumn? t.header column = some i) (name : String) :
    t.columnIndex name column = .ok i := by
  rw [columnIndex, h]

theorem eq_of_columnIndex_error {t : Table} {name column : String} {e : Error}
    (h : t.columnIndex name column = .error e) : e = .schema (.noColumn column name) := by
  rw [columnIndex] at h
  split at h <;> cases h
  rfl

/-- The first assignment sets a cell of a column after the id. -/
theorem of_assignments_cons {t : Table} {name : String} {pair : String × String}
    {pairs : List (String × String)} {cells : List (Nat × String)}
    (h : t.assignments name (pair :: pairs) = .ok cells) :
    ∃ i value others, isIdColumn pair.1 = false ∧ t.columnIndex name pair.1 = .ok i ∧
      cellOf pair.2 = .ok value ∧ t.assignments name pairs = .ok others ∧
        cells = (i, value) :: others := by
  obtain ⟨cell, others, hfirst, hrest, rfl⟩ := mapM_cons_eq_ok.1 h
  dsimp only at hfirst
  split at hfirst
  · cases hfirst
  · next hid =>
    obtain ⟨i, hi, hfirst⟩ := Except.bind_eq_ok.1 hfirst
    obtain ⟨value, hv, hfirst⟩ := Except.bind_eq_ok.1 hfirst
    cases hfirst
    exact ⟨i, value, others, by simpa using hid, hi, hv, hrest, rfl⟩

/-- Assignments are refused for the id column, a column that there is not, or a literal that is not
that of a cell. -/
theorem exists_of_assignments_error {t : Table} {name : String} {pairs : List (String × String)}
    {e : Error} (h : t.assignments name pairs = .error e) :
    ∃ pair ∈ pairs, e = .schema .updateOfId ∨ e = .schema (.noColumn pair.1 name) ∨
      e = .schema (.badLiteral pair.2) := by
  obtain ⟨pair, hm, hpair⟩ := exists_of_mapM_error h
  refine ⟨pair, hm, ?_⟩
  dsimp only at hpair
  split at hpair
  · cases hpair
    exact .inl rfl
  · rcases Except.bind_eq_error.1 hpair with hi | ⟨i, -, hpair⟩
    · exact .inr (.inl (eq_of_columnIndex_error hi))
    · rcases Except.bind_eq_error.1 hpair with hv | ⟨v, -, hpair⟩
      · exact .inr (.inr (eq_of_cellOf_error hv))
      · cases hpair

/-- What is assigned is a cell of a column, and of no id column. -/
theorem exists_of_mem_assignments {t : Table} {name : String} {pairs : List (String × String)}
    {cells : List (Nat × String)} (h : t.assignments name pairs = .ok cells) {cell : Nat × String}
    (hm : cell ∈ cells) : ∃ column literal, isIdColumn column = false ∧
      t.columnIndex name column = .ok cell.1 ∧ cellOf literal = .ok cell.2 := by
  induction pairs generalizing cells with
  | nil =>
    cases h
    cases hm
  | cons pair rest ih =>
    obtain ⟨i, value, others, hid, hi, hv, hrest, rfl⟩ := of_assignments_cons h
    rcases List.mem_cons.1 hm with rfl | hm
    · exact ⟨pair.1, pair.2, hid, hi, hv⟩
    · exact ih hrest hm

/-- Assignments that are accepted leave the id column alone, and assign cells. -/
theorem of_mem_assignments {t : Table} (h : t.header.head? = some idColumn) {name : String}
    {pairs : List (String × String)} {cells : List (Nat × String)}
    (hc : t.assignments name pairs = .ok cells) : ∀ cell ∈ cells, cell.1 ≠ 0 ∧ IsCell cell.2 := by
  intro cell hm
  obtain ⟨column, literal, hid, hi, hv⟩ := exists_of_mem_assignments hc hm
  refine ⟨fun hzero => ?_, isCell_of_cellOf hv⟩
  rw [hzero] at hi
  exact findColumn?_ne_zero h hid (findColumn?_of_columnIndex hi)

theorem foldl_set {P : String → Prop} {cells : List (Nat × String)}
    (hc : ∀ cell ∈ cells, cell.1 ≠ 0 ∧ P cell.2) (row : List String) :
    (cells.foldl (fun row cell => row.set cell.1 cell.2) row).head? = row.head? ∧
      (cells.foldl (fun row cell => row.set cell.1 cell.2) row).length = row.length ∧
      ((∀ c ∈ row, P c) →
        ∀ c ∈ cells.foldl (fun row cell => row.set cell.1 cell.2) row, P c) := by
  induction cells generalizing row with
  | nil => exact ⟨rfl, rfl, fun h => h⟩
  | cons cell rest ih =>
    obtain ⟨hhead, hlen, hcells⟩ := ih (fun c hm => hc c (by simp [hm])) (row.set cell.1 cell.2)
    obtain ⟨hne, hcell⟩ := hc cell (by simp)
    refine ⟨hhead.trans ?_, hlen.trans List.length_set, fun hrow => hcells fun c hm => ?_⟩
    · cases row with
      | nil => rfl
      | cons a row =>
        cases hi : cell.1 with
        | zero => exact absurd hi hne
        | succ i => rfl
    · rcases List.mem_or_eq_of_mem_set hm with hm | rfl
      · exact hrow c hm
      · exact hcell

theorem WellFormed.assign {t : Table} (h : t.WellFormed) {cells : List (Nat × String)}
    (hc : ∀ cell ∈ cells, cell.1 ≠ 0 ∧ IsCell cell.2) (condition : Option Condition) :
    (t.assign condition cells).WellFormed where
  header := h.header
  width := by
    intro row hr
    obtain ⟨old, ho, rfl⟩ := List.mem_map.1 hr
    split
    · rw [(foldl_set hc old).2.1]; exact h.width old ho
    · exact h.width old ho
  cells := by
    intro row hr
    obtain ⟨old, ho, rfl⟩ := List.mem_map.1 hr
    split
    · exact (foldl_set hc old).2.2 (h.cells old ho)
    · exact h.cells old ho
  numbered := by
    refine h.numbered.map fun row _ => ?_
    split
    · exact (foldl_set hc row).1
    · rfl

theorem WellFormed.remove {t : Table} (h : t.WellFormed) (condition : Option Condition) :
    (t.remove condition).WellFormed := by
  cases condition with
  | none => exact h
  | some c =>
    have hsub : (t.rows.filter fun row => !c.holds t.header row).Sublist t.rows :=
      List.filter_sublist
    exact ⟨h.header, fun row hr => h.width row (hsub.subset hr),
      fun row hr => h.cells row (hsub.subset hr), h.numbered.sublist hsub⟩

/-- Rows of cells that are not empty are cut or padded to a header without a change of their ids. -/
theorem wellFormed_fit {t : Table} (hh : IsHeader t.header)
    (hc : ∀ row ∈ t.rows, ∀ c ∈ row, IsCell c) (hn : Numbered t.rows) : t.fit.WellFormed where
  header := hh
  width := by
    intro row hr
    obtain ⟨row, -, rfl⟩ := List.mem_map.1 hr
    exact length_fitRow _ _
  cells := by
    intro row hr c hm
    obtain ⟨old, ho, rfl⟩ := List.mem_map.1 hr
    rw [fitRow, padRow, List.rightpad, List.mem_append] at hm
    rcases hm with hm | hm
    · exact hc old ho c (List.mem_of_mem_take hm)
    · rw [List.eq_of_mem_replicate hm]; exact isCell_nullCell
  numbered := by
    refine hn.map fun row hr => ?_
    obtain ⟨n, hne, -⟩ := hn.exists_rowId hr
    cases row with
    | nil => cases hne
    | cons c cells =>
      obtain ⟨columns, hw⟩ := hh.eq_cons
      rw [hw]
      rfl

/-- A new table has the columns given, or none yet. -/
theorem sound_created {columns : List String} (hc : ∀ c ∈ columns, isIdColumn c = false ∧ IsCell c)
    (hd : columns.Pairwise fun a b => Text.eqCaseless a b = false) :
    Sound ⟨if columns.isEmpty then [] else idColumn :: columns, []⟩ := by
  split
  · exact .inl rfl
  · have hheader := isHeader_cons (fun c hm => (hc c hm).1) hd fun c hm => (hc c hm).2
    exact .inr ⟨hheader, by simp, by simp, numbered_nil⟩

theorem addColumn_sound {t : Table} (h : t.Sound) {column : String}
    (hid : isIdColumn column = false) (hf : findColumn? t.header column = none)
    (hc : IsCell column) : (t.addColumn column).WellFormed := by
  rcases h with rfl | h
  · exact wellFormed_fit (@isHeader_cons [column] (by simpa using hid) (List.pairwise_singleton _ _)
      (by simpa using hc)) (by simp [untitled]) numbered_nil
  · rw [addColumn, List.isEmpty_eq_false_iff.2 h.header_ne_nil]
    exact wellFormed_fit (h.header.append hf hc) h.cells h.numbered

theorem WellFormed.dropColumn {t : Table} (h : t.WellFormed) {i : Nat} (hi : i ≠ 0) :
    (t.dropColumn i).WellFormed := by
  refine wellFormed_fit (h.header.eraseIdx hi) (fun row hr c hm => ?_)
    (h.numbered.map fun row _ => head?_eraseIdx hi)
  obtain ⟨old, ho, rfl⟩ := List.mem_map.1 hr
  exact h.cells old ho c (List.mem_of_mem_eraseIdx hm)

end Tabular.Table
