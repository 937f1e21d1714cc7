import Mathlib.Data.Set.Function
import Tabular.Proofs.Table.WellFormed

/-! Tables and lines: which of them are got back from each other, and that the lines of sound tables
are read back as the tables. -/
namespace Tabular.Table

theorem not_mem_of_mem_splitOn {a : Char} {cs part : List Char} (h : part ∈ cs.splitOn a) :
    a ∉ part := by
  induction cs generalizing part with
  | nil =>
    rw [List.splitOn_nil, List.mem_singleton] at h
    simp [h]
  | cons c cs ih =>
    rw [List.splitOn_eq_splitOnP, List.splitOnP_cons_eq_if_modifyHead] at h
    split at h
    · rcases List.mem_cons.1 h with rfl | hrest
      · exact List.not_mem_nil
      · exact ih hrest
    · next hc =>
      cases hparts : cs.splitOnP (· == a) with
      | nil => exact absurd hparts (List.splitOnP_ne_nil _ _)
      | cons first parts =>
        have hfirst : ∀ part ∈ first :: parts, a ∉ part := by
          intro part hm
          refine ih ?_
          rwa [List.splitOn_eq_splitOnP, hparts]
        rw [hparts, List.modifyHead_cons] at h
        rcases List.mem_cons.1 h with rfl | hrest
        · rw [List.mem_cons, not_or]
          exact ⟨fun he => hc (beq_iff_eq.2 he.symm), hfirst first List.mem_cons_self⟩
        · exact hfirst part (List.mem_cons_of_mem _ hrest)

theorem tab_not_mem_splitCells {line cell : String} (h : cell ∈ splitCells line) :
    '\t' ∉ cell.toList := by
  obtain ⟨part, hpart, rfl⟩ := List.mem_map.1 h
  rw [String.toList_ofList]
  exact not_mem_of_mem_splitOn hpart

/-- A table whose lines are read back: no cell holds a tab, every line begins with a cell that is
not empty, and no row is shorter than the header. -/
structure Readable (t : Table) : Prop where
  heads : ∀ line ∈ t.header :: t.rows, ∃ first cells, line = first :: cells ∧ first ≠ ""
  tabs : ∀ line ∈ t.header :: t.rows, ∀ c ∈ line, '\t' ∉ c.toList
  width : ∀ row ∈ t.rows, t.header.length ≤ row.length

theorem tabs_ofLines (lines : List String) :
    ∀ line ∈ (ofLines lines).header :: (ofLines lines).rows, ∀ c ∈ line, '\t' ∉ c.toList := by
  cases lines with
  | nil => simp [ofLines]
  | cons first rest =>
    refine List.forall_mem_cons.2 ⟨fun c hc => ?_, fun row hr c hc => ?_⟩
    · dsimp only [ofLines] at hc
      split at hc
      · cases hc
      · exact tab_not_mem_splitCells hc
    · obtain ⟨line, -, rfl⟩ := List.mem_map.1 hr
      rw [padRow, List.rightpad, List.mem_append] at hc
      rcases hc with hc | hc
      · exact tab_not_mem_splitCells hc
      · rw [List.eq_of_mem_replicate hc]
        exact isCell_nullCell.tab

/-- Rows of a readable table may be changed if they keep their heads and lengths and get no tabs. -/
theorem Readable.map_rows {t : Table} (h : t.Readable) {f : List String → List String}
    (hf : ∀ row, (f row).head? = row.head? ∧ (f row).length = row.length ∧
      ((∀ c ∈ row, '\t' ∉ c.toList) → ∀ c ∈ f row, '\t' ∉ c.toList)) :
    Readable ⟨t.header, t.rows.map f⟩ := by
  obtain ⟨hhead, hheads⟩ := List.forall_mem_cons.1 h.heads
  obtain ⟨htab, htabs⟩ := List.forall_mem_cons.1 h.tabs
  refine ⟨List.forall_mem_cons.2 ⟨hhead, List.forall_mem_map.2 fun row hr => ?_⟩,
    List.forall_mem_cons.2 ⟨htab, List.forall_mem_map.2 fun row hr => ?_⟩,
    List.forall_mem_map.2 fun row hr => ?_⟩
  · obtain ⟨first, cells, rfl, hne⟩ := hheads row hr
    obtain ⟨cells', hcells⟩ := List.head?_eq_some_iff.1 (hf (first :: cells)).1
    exact ⟨first, cells', hcells, hne⟩
  · exact (hf row).2.2 (htabs row hr)
  · rw [(hf row).2.1]
    exact h.width row hr

theorem Readable.filter_rows {t : Table} (h : t.Readable) (p : List String → Bool) :
    Readable ⟨t.header, t.rows.filter p⟩ :=
  have hsub : t.header :: t.rows.filter p ⊆ t.header :: t.rows :=
    List.cons_subset_cons _ List.filter_sublist.subset
  ⟨fun line hl => h.heads line (hsub hl), fun line hl => h.tabs line (hsub hl),
    fun row hr => h.width row (List.mem_of_mem_filter hr)⟩

theorem padRow_of_le {width : Nat} {row : List String} (h : width ≤ row.length) :
    padRow width row = row := by
  simp [padRow, List.rightpad, h]

theorem splitCells_ne_nil (line : String) : splitCells line ≠ [] := by
  rw [splitCells, Ne, List.map_eq_nil_iff]
  exact List.splitOnP_ne_nil _ _

/-- A line of cells is a text without tabs only if that is the one cell. -/
theorem joinCells_eq_iff {cells : List String} {s : String} (hne : cells ≠ [] ∨ s ≠ "")
    (h : ∀ c ∈ cells, '\t' ∉ c.toList) (hs : '\t' ∉ s.toList) :
    joinCells cells = s ↔ cells = [s] := by
  constructor
  · intro he
    have hcells : cells ≠ [] := by
      rintro rfl
      exact hne.elim (fun hnil => hnil rfl) fun hempty => hempty he.symm
    rw [← splitCells_joinCells hcells h, he]
    exact splitCells_joinCells (List.cons_ne_nil s []) (by simpa using hs)
  · rintro rfl
    rfl

section Exact

/-- A table that its lines hold: it has a header, neither the header nor a row is one empty cell, no
cell holds a tab, and no row is shorter than the header. -/
structure Exact (t : Table) : Prop where
  titled : t.header ≠ []
  lines_ne : ∀ line ∈ t.header :: t.rows, line ≠ [""]
  tabs : ∀ line ∈ t.header :: t.rows, ∀ c ∈ line, '\t' ∉ c.toList
  width : ∀ row ∈ t.rows, t.header.length ≤ row.length

/-- Lines that the table in them is written as: there is a line, none is empty, and none has fewer
cells than the first. -/
structure ExactLines (lines : List String) : Prop where
  ne_nil : lines ≠ []
  lines_ne : ∀ line ∈ lines, line ≠ ""
  width : ∀ first ∈ lines.head?, ∀ line ∈ lines, (splitCells first).length ≤ (splitCells line).length

variable {t : Table} {first : String} {rest : List String}

theorem toLines_of_titled (h : t.header ≠ []) : t.toLines = (t.header :: t.rows).map joinCells := by
  rw [toLines, if_neg (by simpa using h)]

theorem ofLines_cons (h : first ≠ "") :
    ofLines (first :: rest) = ⟨splitCells first, (rest.filter (!·.isEmpty)).map fun line =>
      padRow (splitCells first).length (splitCells line)⟩ := by
  have hfirst : first.isEmpty = false := by simpa using h
  rw [ofLines, hfirst]
  rfl

theorem Exact.line_ne_nil (h : t.Exact) {line : List String} (hl : line ∈ t.header :: t.rows) :
    line ≠ [] := by
  rcases List.mem_cons.1 hl with rfl | hrow
  · exact h.titled
  · have hwidth := h.width line hrow
    have hpos := List.length_pos_iff.2 h.titled
    exact List.length_pos_iff.1 (Nat.lt_of_lt_of_le hpos hwidth)

theorem Exact.of_mem (h : t.Exact) {line : List String} (hl : line ∈ t.header :: t.rows) :
    joinCells line ≠ "" ∧ splitCells (joinCells line) = line := by
  have hne := h.line_ne_nil hl
  refine ⟨fun he => h.lines_ne line hl ?_, splitCells_joinCells hne (h.tabs line hl)⟩
  exact (joinCells_eq_iff (.inl hne) (h.tabs line hl) (by simp)).1 he

theorem Exact.ofLines_toLines (h : t.Exact) : ofLines t.toLines = t := by
  obtain ⟨hheader, hrows⟩ := List.forall_mem_cons.1 fun line (hl : line ∈ t.header :: t.rows) =>
    h.of_mem hl
  have hkept : (t.rows.map joinCells).filter (!·.isEmpty) = t.rows.map joinCells := by
    rw [List.filter_eq_self, List.forall_mem_map]
    intro row hr
    simpa using (hrows row hr).1
  have hpad : (t.rows.map fun row =>
      padRow t.header.length (splitCells (joinCells row))) = t.rows := by
    refine (List.map_congr_left fun row hr => ?_).trans (List.map_id t.rows)
    rw [(hrows row hr).2, padRow_of_le (h.width row hr), id]
  rw [toLines_of_titled h.titled, List.map_cons, ofLines_cons hheader.1, hheader.2, hkept,
    List.map_map]
  exact congrArg (Table.mk t.header) hpad

theorem Exact.exactLines (h : t.Exact) : ExactLines t.toLines := by
  have hwidth : ∀ line ∈ t.header :: t.rows, t.header.length ≤ line.length :=
    List.forall_mem_cons.2 ⟨Nat.le_refl _, h.width⟩
  rw [toLines_of_titled h.titled]
  refine ⟨List.cons_ne_nil _ _, List.forall_mem_map.2 fun line hl => (h.of_mem hl).1, ?_⟩
  rintro first hfirst
  cases hfirst
  refine List.forall_mem_map.2 fun line hl => ?_
  rw [(h.of_mem List.mem_cons_self).2, (h.of_mem hl).2]
  exact hwidth line hl

theorem ExactLines.toLines_ofLines {lines : List String} (h : ExactLines lines) :
    (ofLines lines).toLines = lines := by
  obtain ⟨first, rest, rfl⟩ := List.exists_cons_of_ne_nil h.ne_nil
  obtain ⟨hfirst, hrest⟩ := List.forall_mem_cons.1 h.lines_ne
  have hkept : rest.filter (!·.isEmpty) = rest := by
    rw [List.filter_eq_self]
    intro line hl
    simpa using hrest line hl
  have hwritten : rest.map (fun line =>
      joinCells (padRow (splitCells first).length (splitCells line))) = rest := by
    refine (List.map_congr_left fun line hl => ?_).trans (List.map_id rest)
    rw [padRow_of_le (h.width first rfl line (List.mem_cons_of_mem _ hl)), joinCells_splitCells, id]
  rw [ofLines_cons hfirst, hkept, toLines_of_titled (splitCells_ne_nil first), List.map_cons,
    joinCells_splitCells, List.map_map]
  exact congrArg (first :: ·) hwritten

/-- Lines of which the first is not empty hold a table that its own lines hold. -/
theorem exact_ofLines (h : first ≠ "") (rest : List String) : (ofLines (first :: rest)).Exact := by
  have hone {line : String} (hl : splitCells line = [""]) : line = "" := by
    rw [← joinCells_splitCells line, hl]
    rfl
  refine ⟨?_, ?_, tabs_ofLines _, fun row hr => le_length_of_mem_ofLines hr⟩
  · rw [ofLines_cons h]
    exact splitCells_ne_nil first
  · rw [ofLines_cons h]
    refine List.forall_mem_cons.2 ⟨fun he => h (hone he), List.forall_mem_map.2 fun line hl he => ?_⟩
    -- Cells that are added stand after those of the line, of which there is one at least.
    rcases List.append_eq_singleton_iff.1 he with ⟨hnil, -⟩ | ⟨hcells, -⟩
    · exact splitCells_ne_nil line hnil
    · have hkept := (List.mem_filter.1 hl).2
      rw [hone hcells] at hkept
      cases hkept

theorem ExactLines.exact {lines : List String} (h : ExactLines lines) : (ofLines lines).Exact := by
  obtain ⟨first, rest, rfl⟩ := List.exists_cons_of_ne_nil h.ne_nil
  exact exact_ofLines (h.lines_ne first List.mem_cons_self) rest

/-- Tables and lines that hold each other correspond one to one: each is got back from the other.
Whatever lines follow one that is not empty, the table in them has no row that is shorter than its
header, and is read back from its own lines. -/
theorem toLines_bijOn :
    Set.BijOn toLines {t | t.Exact} {lines | ExactLines lines} ∧
      (∀ t : Table, t.Exact → ofLines t.toLines = t) ∧
      (∀ lines, ExactLines lines → (ofLines lines).toLines = lines) ∧
      ∀ first rest, first ≠ "" →
        ofLines (ofLines (first :: rest)).toLines = ofLines (first :: rest) ∧
          ∀ row ∈ (ofLines (first :: rest)).rows,
            (ofLines (first :: rest)).header.length ≤ row.length := by
  have hleft : Set.LeftInvOn ofLines toLines {t | t.Exact} := fun t ht => ht.ofLines_toLines
  have hright : Set.RightInvOn ofLines toLines {lines | ExactLines lines} :=
    fun lines hl => hl.toLines_ofLines
  refine ⟨Set.InvOn.bijOn ⟨hleft, hright⟩ (fun t ht => ht.exactLines) fun lines hl => hl.exact,
    fun t ht => hleft ht, fun lines hl => hright hl, fun first rest hfirst => ?_⟩
  have hexact := exact_ofLines hfirst rest
  exact ⟨hexact.ofLines_toLines, hexact.width⟩

/-- A short row and an empty line: the table in them is read back from its lines, which are others. -/
theorem toLines_bijOn_short_row :
    ofLines (ofLines ["id\ta", "1", "", "\t"]).toLines = ofLines ["id\ta", "1", "", "\t"] ∧
      (ofLines ["id\ta", "1\tNULL", "\t"]).toLines = ["id\ta", "1\tNULL", "\t"] ∧
      ofLines (toLines ⟨["id", "a"], [["1", "NULL"], ["", ""]]⟩) =
        ⟨["id", "a"], [["1", "NULL"], ["", ""]]⟩ := by
  obtain ⟨-, hleft, hright, hagain⟩ := toLines_bijOn
  refine ⟨(hagain "id\ta" ["1", "", "\t"] (by decide)).1, hright _ ?_, hleft _ ?_⟩
  · exact ⟨by decide, by decide, by decide⟩
  · exact ⟨by decide, by decide, by decide, by decide⟩

end Exact

theorem Readable.exact {t : Table} (h : t.Readable) : t.Exact where
  titled := by
    obtain ⟨first, cells, hheader, -⟩ := h.heads t.header List.mem_cons_self
    simp [hheader]
  lines_ne := by
    intro line hl
    obtain ⟨first, cells, rfl, hne⟩ := h.heads line hl
    simp [hne]
  tabs := h.tabs
  width := h.width

theorem Readable.ofLines_toLines {t : Table} (h : t.Readable) : ofLines t.toLines = t :=
  h.exact.ofLines_toLines

theorem WellFormed.readable {t : Table} (h : t.WellFormed) : t.Readable where
  heads := by
    refine List.forall_mem_cons.2 ⟨?_, fun row hr => ?_⟩
    · obtain ⟨columns, hcolumns⟩ := h.header.eq_cons
      exact ⟨idColumn, columns, hcolumns, by simp [idColumn]⟩
    · obtain ⟨n, hn, -⟩ := h.numbered.exists_rowId hr
      obtain ⟨cells, hcells⟩ := List.head?_eq_some_iff.1 hn
      exact ⟨_, cells, hcells, toString_ne_empty _⟩
  tabs := List.forall_mem_cons.2 ⟨fun c hc => (h.header.cells c hc).tab,
    fun row hr c hc => (h.cells row hr c hc).tab⟩
  width := fun row hr => Nat.le_of_eq (h.width row hr).symm

theorem WellFormed.ofLines_toLines {t : Table} (h : t.WellFormed) : ofLines t.toLines = t :=
  h.readable.ofLines_toLines

theorem Sound.ofLines_toLines {t : Table} (h : t.Sound) : ofLines t.toLines = t := by
  rcases h with rfl | h
  · rfl
  · exact h.ofLines_toLines

theorem sound_ofLines {lines : List String} (h : WellStored lines) : (ofLines lines).Sound := by
  obtain ⟨t, ht, rfl⟩ := h
  rwa [ht.ofLines_toLines]

/-- The lines of a sound table are those that it is written as. -/
theorem toLines_ofLines {lines : List String} (h : WellStored lines) :
    (ofLines lines).toLines = lines := by
  obtain ⟨t, ht, rfl⟩ := h
  rw [ht.ofLines_toLines]

theorem Sound.wellStored {t : Table} (h : t.Sound) : WellStored t.toLines := ⟨t, h, rfl⟩

/-- A table without rows is read back without rows. -/
theorem rows_ofLines_toLines {t : Table} (h : t.rows = []) : (ofLines t.toLines).rows = [] := by
  unfold toLines
  split
  · rfl
  · rw [h]
    rfl

end Tabular.Table
