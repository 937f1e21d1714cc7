import Tabular.Proofs.Number.Digits
import Tabular.Table

/-! Row ids: a word is read back from a row, and the highest id of a table bounds all the others. -/
namespace Tabular

theorem toNat_max (a b : UInt64) : (max a b).toNat = max a.toNat b.toNat := by
  change (if a ≤ b then b else a).toNat = _
  by_cases h : a ≤ b
  · have := UInt64.le_iff_toNat_le.1 h
    rw [if_pos h]; omega
  · have := mt UInt64.le_iff_toNat_le.2 h
    rw [if_neg h]; omega

namespace Table

theorem rowId?_cons_toString (n : UInt64) (cells : List String) :
    rowId? (toString n.toNat :: cells) = some n := by
  have ht : Text.trim (toString n.toNat) = toString n.toNat :=
    Text.trim_eq_self fun c hc => isBlank_of_isDigit (isDigit_of_mem_toString hc)
  rw [rowId?, List.head?_cons, Option.bind_some, ht, unsigned64?_toString]

private theorem le_foldl_max (ids : List UInt64) (start : UInt64) :
    start.toNat ≤ (ids.foldl max start).toNat ∧
      ∀ n ∈ ids, n.toNat ≤ (ids.foldl max start).toNat := by
  induction ids generalizing start with
  | nil => simp
  | cons a rest ih =>
    obtain ⟨hs, hr⟩ := ih (max start a)
    rw [toNat_max] at hs
    refine ⟨by rw [List.foldl_cons]; omega, fun n hn => ?_⟩
    rcases List.mem_cons.1 hn with rfl | hn
    · rw [List.foldl_cons]; omega
    · exact hr n hn

/-- No row has an id above the highest one. -/
theorem rowId?_le_maxId {t : Table} {row : List String} {n : UInt64} (hr : row ∈ t.rows)
    (hn : rowId? row = some n) : n.toNat ≤ t.maxId.toNat :=
  (le_foldl_max _ _).2 n (List.mem_filterMap.2 ⟨row, hr, hn⟩)

end Table

end Tabular
