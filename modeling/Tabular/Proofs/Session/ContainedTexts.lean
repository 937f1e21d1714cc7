import Tabular.Proofs.Session.Success
import Tabular.Proofs.Table.CellOrder
import Tabular.Proofs.Table.Lookup
import Tabular.Proofs.Text.LowerCase

/-! Literals that are found in the cells that contain them. Cell and literal are put in lower case as
wholes, so a literal is missed if a sigma ends a word in the one and not in the other. -/
namespace Tabular

/-- A literal stands in a cell, and each of its sigmas has the form there that it has in the literal
alone. -/
def HeldAlike (literal cell : String) : Prop :=
  ∃ before after, (Text.trim cell).toList = before ++ literal.toList ++ after ∧
    Text.SigmasAlike before.reverse literal.toList after

namespace Comparison
variable {cell literal : String}

theorem like_holds_iff (h : ¬((∃ x, SpellsDecimal cell x) ∧ ∃ y, SpellsDecimal literal y)) :
    like.holds cell literal = true ↔
      Text.lowerFrom [] literal.toList <:+: Text.lowerFrom [] (Text.trim cell).toList := by
  rw [holds_of_not_spells h]
  simp only [holdsOfTexts, Text.occursIn_iff, Text.lower, String.toList_ofList]

/-- A literal is found where it reads as it does alone. -/
theorem like_holds_of_heldAlike
    (h : ¬((∃ x, SpellsDecimal cell x) ∧ ∃ y, SpellsDecimal literal y))
    (held : HeldAlike literal cell) : like.holds cell literal = true := by
  obtain ⟨before, after, hcell, halike⟩ := held
  have hread := Text.lowerWithin_eq_iff.2 halike
  rw [like_holds_iff h, hcell, Text.lowerFrom_nil_append, hread]
  exact List.infix_append _ _ _

theorem heldAlike_of_settled (hsettled : Text.Settled literal.toList)
    (h : literal.toList <:+: (Text.trim cell).toList) : HeldAlike literal cell := by
  obtain ⟨before, after, hcell⟩ := h
  exact ⟨before, after, hcell.symm, hsettled.sigmasAlike _ _⟩

/-- The literals that are found wherever they occur are those whose sigmas are settled. -/
theorem like_finds_iff :
    (∀ cell, ¬((∃ x, SpellsDecimal cell x) ∧ ∃ y, SpellsDecimal literal y) →
      literal.toList <:+: (Text.trim cell).toList → like.holds cell literal = true) ↔
    Text.Settled literal.toList := by
  constructor
  · intro hfound
    by_contra hn
    obtain ⟨first, last, hletter, hfirst, hlast, hhidden⟩ := Text.exists_hidden hn
    let cell := String.ofList (first :: (literal.toList ++ [last]))
    have hcell : cell.toList = first :: (literal.toList ++ [last]) := String.toList_ofList
    have htrim : Text.trim cell = cell := Text.trim_eq_self_of_ends hcell hfirst hlast
    have hmem : 'A' ∈ cell.toList := by
      rw [hcell]
      simp only [List.mem_cons, List.not_mem_nil, or_false] at hletter
      rcases hletter with rfl | rfl <;> simp
    have hnumber : ¬((∃ x, SpellsDecimal cell x) ∧ ∃ y, SpellsDecimal literal y) := by
      intro h
      obtain ⟨x, hx⟩ := h.1
      exact absurd (hx.isBlank_or hmem) (by decide)
    have hoccurs : literal.toList <:+: (Text.trim cell).toList := by
      rw [htrim, hcell]
      exact List.infix_append [first] literal.toList [last]
    have hlower := (like_holds_iff hnumber).1 (hfound cell hnumber hoccurs)
    rw [htrim, hcell] at hlower
    exact hhidden hlower
  · intro hsettled cell hnumber hoccurs
    exact like_holds_of_heldAlike hnumber (heldAlike_of_settled hsettled hoccurs)

end Comparison

namespace Session
open Statement Comparison

/-- A literal is found, by itself and by a selection of rows, in every cell in which it reads as it
does alone. This is so wherever it occurs exactly if what stands around each of its sigmas in the
literal tells whether the sigma ends a word. -/
theorem like_finds (literal : String) :
    (∀ cell, ¬((∃ x, SpellsDecimal cell x) ∧ ∃ y, SpellsDecimal literal y) →
      HeldAlike literal cell → like.holds cell literal = true) ∧
    ((∀ cell, ¬((∃ x, SpellsDecimal cell x) ∧ ∃ y, SpellsDecimal literal y) →
      literal.toList <:+: (Text.trim cell).toList → like.holds cell literal = true) ↔
        Text.Settled literal.toList) ∧
    ∀ (s : Session Memory) (d t : String) (table : Table) (text : String) (shown : Projection)
      (column : String) (indexes : List Nat) (i : Nat),
      s.Holds d t table →
      ofText text = .ok (.select t shown (some (.comparison column .like literal))) →
      table.projected t shown = .ok indexes → findColumn? table.header column = some i →
      let found := table.rows.filter (table.rowHolds (some (.comparison column .like literal)))
      s.answer text =
          .ok (.scan (Table.cellsAt table.header indexes) (found.map (Table.cellsAt · indexes))) ∧
        ∀ row ∈ table.rows, ∀ cell, row[i]? = some cell →
          ¬((∃ x, SpellsDecimal cell x) ∧ ∃ y, SpellsDecimal literal y) →
          HeldAlike literal cell ∨
            (Text.Settled literal.toList ∧ literal.toList <:+: (Text.trim cell).toList) →
          row ∈ found := by
  refine ⟨fun _ => like_holds_of_heldAlike, like_finds_iff, ?_⟩
  intro s d t table text shown column indexes i ht hst hindexes hi found
  have hh : table.header ≠ [] := by
    intro hnil
    rw [hnil] at hi
    cases hi
  have hrun : (Statement.select t shown (some (.comparison column .like literal))).execute s = _ :=
    executeSelect_ok _ ht hh hindexes
  refine ⟨(answer_of_execute hst hrun).1, fun row hr cell hcell hnumber hoccurs => ?_⟩
  have held : HeldAlike literal cell := by
    rcases hoccurs with held | ⟨hsettled, hoccurs⟩
    · exact held
    · exact heldAlike_of_settled hsettled hoccurs
  rw [List.mem_filter, Table.rowHolds_comparison hi hcell]
  exact ⟨hr, like_holds_of_heldAlike hnumber held⟩

/-- A literal with a sigma at the end of a word is found there. -/
theorem like_finds_word :
    let lines := ["id\ta", "1\tΟ ΛΟΓΟΣ ΤΟΥ", "2\tΟΔΟΣ"]
    let stored : StoredDatabase := { tables := SortedMap.ofList [("t", lines)] }
    let s : Session Memory := ⟨⟨some "d", ∅⟩, ⟨SortedMap.ofList [("d", stored)]⟩⟩
    ∃ found, s.answer "SELECT a FROM t WHERE A LIKE 'ΛΟΓΟΣ ';" = .ok (.scan ["a"] found) ∧
      ["Ο ΛΟΓΟΣ ΤΟΥ"] ∈ found := by
  intro lines stored s
  let table : Table := ⟨["id", "a"], [["1", "Ο ΛΟΓΟΣ ΤΟΥ"], ["2", "ΟΔΟΣ"]]⟩
  have ht : s.Holds "d" "t" table := ⟨rfl, lines, by decide +kernel, by decide +kernel⟩
  have hst : ofText "SELECT a FROM t WHERE A LIKE 'ΛΟΓΟΣ ';" =
      .ok (.select "t" (.columns ["a"]) (some (.comparison "A" .like "ΛΟΓΟΣ "))) := by
    decide +kernel
  have hletter : ¬∃ x, SpellsDecimal "Ο ΛΟΓΟΣ ΤΟΥ" x := by
    intro h
    obtain ⟨x, hx⟩ := h
    exact absurd (hx.isBlank_or (c := 'Ο') (by simp)) (by decide)
  have hsettled : Text.Settled "ΛΟΓΟΣ ".toList := by decide +kernel
  obtain ⟨hanswer, hfound⟩ := (like_finds "ΛΟΓΟΣ ").2.2 s "d" "t" table _ (.columns ["a"]) "A"
    [1] 1 ht hst (by decide) (by decide)
  have hmem := hfound ["1", "Ο ΛΟΓΟΣ ΤΟΥ"] (by simp [table]) "Ο ΛΟΓΟΣ ΤΟΥ" rfl
    (fun h => hletter h.1) (.inr ⟨hsettled, by decide +kernel⟩)
  exact ⟨_, hanswer, List.mem_map_of_mem (f := (Table.cellsAt · [1])) hmem⟩

/-- A literal that ends in a sigma is not found in the middle of a word. -/
theorem like_misses :
    let lines := ["id\ta", "1\tΑΣΑ"]
    let stored : StoredDatabase := { tables := SortedMap.ofList [("t", lines)] }
    let s : Session Memory := ⟨⟨some "d", ∅⟩, ⟨SortedMap.ofList [("d", stored)]⟩⟩
    "ΑΣ".toList <:+: (Text.trim "ΑΣΑ").toList ∧ (¬∃ x, SpellsDecimal "ΑΣΑ" x) ∧
      like.holds "ΑΣΑ" "ΑΣ" = false ∧
      s.answer "SELECT * FROM t WHERE a LIKE 'ΑΣ';" = .ok (.scan ["id", "a"] []) := by
  intro lines stored s
  have hletter : ¬∃ x, SpellsDecimal "ΑΣΑ" x := by
    intro h
    obtain ⟨x, hx⟩ := h
    exact absurd (hx.isBlank_or (c := 'Α') (by simp)) (by decide)
  exact ⟨by decide +kernel, hletter, by decide +kernel, by decide +kernel⟩

end Session

end Tabular
