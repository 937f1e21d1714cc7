import Mathlib.Tactic.NormNum
import Tabular.Cell
import Tabular.Proofs.Number.Decimals

/-! The order in which comparisons put cells and literals that spell numbers. Rounding may make two
numbers equal, but never turns their order around. -/
namespace Tabular

namespace Value
variable {s : String} {q : ℚ}

/-- A text that spells a number is taken for the one nearest to it. -/
theorem exists_of_spells (h : SpellsDecimal s q) :
    ∃ x : Decimal, x.value = q ∧ ofText s = .number (.ofDecimal x) := by
  obtain ⟨x, hx, hvalue⟩ := Decimal.exists_of_spells h
  refine ⟨x, hvalue, ?_⟩
  rw [ofText, hx]

theorem ofText_of_not_spells (h : ¬∃ q, SpellsDecimal s q) : ofText s = .text (Text.trim s) := by
  have hnone : Decimal.ofText? (Text.trim s) = none := by
    cases hx : Decimal.ofText? (Text.trim s) with
    | none => rfl
    | some x => exact absurd ⟨_, Decimal.spells_of_ofText? hx⟩ h
  rw [ofText, hnone]

end Value

namespace Comparison

section Numbers
variable (u v w : Binary64)

theorem less_holdsOfNumbers_iff : less.holdsOfNumbers u v = true ↔ u.key < v.key :=
  decide_eq_true_iff

theorem lessEqual_holdsOfNumbers_iff : lessEqual.holdsOfNumbers u v = true ↔ u.key ≤ v.key :=
  decide_eq_true_iff

theorem equal_holdsOfNumbers_iff : equal.holdsOfNumbers u v = true ↔ u.key = v.key := beq_iff_eq

/-- Of two numbers, one precedes the other or they are equal. -/
theorem countP_holdsOfNumbers :
    [less, equal, greater].countP (·.holdsOfNumbers u v) = 1 := by
  have hgreater : greater.holdsOfNumbers u v = less.holdsOfNumbers v u := rfl
  simp only [List.countP_cons, List.countP_nil, hgreater, less_holdsOfNumbers_iff,
    equal_holdsOfNumbers_iff]
  split_ifs <;> omega

theorem lessEqual_holdsOfNumbers :
    lessEqual.holdsOfNumbers u v = !greater.holdsOfNumbers u v := by
  have hgreater : greater.holdsOfNumbers u v = less.holdsOfNumbers v u := rfl
  rw [hgreater, Bool.eq_iff_iff, Bool.not_eq_true', ← Bool.not_eq_true, less_holdsOfNumbers_iff,
    lessEqual_holdsOfNumbers_iff, not_lt]

theorem greaterEqual_holdsOfNumbers :
    greaterEqual.holdsOfNumbers u v = !less.holdsOfNumbers u v :=
  lessEqual_holdsOfNumbers v u

end Numbers

section Dispatch
variable {a b : String}

theorem holds_of_numbers {u v : Binary64} (ha : Value.ofText a = .number u)
    (hb : Value.ofText b = .number v) (op : Comparison) :
    op.holds a b = op.holdsOfNumbers u v := by
  rw [holds, ha, hb]

/-- A cell and a literal are compared as texts unless both spell numbers. -/
theorem holds_of_not_spells (h : ¬((∃ x, SpellsDecimal a x) ∧ ∃ y, SpellsDecimal b y))
    (op : Comparison) : op.holds a b = op.holdsOfTexts (Text.trim a) b := by
  by_cases ha : ∃ x, SpellsDecimal a x
  · have hb := Value.ofText_of_not_spells fun hb => h ⟨ha, hb⟩
    rw [holds, hb]
    cases Value.ofText a with
    | number u => rfl
    | text t => rfl
  · rw [holds, Value.ofText_of_not_spells ha]

end Dispatch

/-- Comparisons of texts that spell numbers follow one order, and this order agrees with that of the
numbers as they are written, except that it may take two of them for equal. Other texts have no order. -/
theorem holds_order :
    (∀ a b x y, SpellsDecimal a x → SpellsDecimal b y →
      [less, equal, greater].countP (·.holds a b) = 1 ∧
      notEqual.holds a b = !equal.holds a b ∧
      greaterEqual.holds a b = !less.holds a b ∧
      lessEqual.holds a b = !greater.holds a b ∧
      less.holds a b = greater.holds b a ∧
      (x ≤ y → lessEqual.holds a b = true) ∧
      (less.holds a b = true → x < y) ∧
      (x = y → equal.holds a b = true) ∧
      like.holds a b = false) ∧
    (∀ a b c x y z, SpellsDecimal a x → SpellsDecimal b y → SpellsDecimal c z →
      lessEqual.holds a b = true → lessEqual.holds b c = true → lessEqual.holds a c = true) ∧
    ∀ a b, ¬((∃ x, SpellsDecimal a x) ∧ ∃ y, SpellsDecimal b y) →
      (∀ op ∈ [less, greater, lessEqual, greaterEqual], op.holds a b = false) ∧
      notEqual.holds a b = !equal.holds a b := by
  refine ⟨fun a b x y ha hb => ?_, fun a b c x y z ha hb hc hab hbc => ?_, fun a b h => ?_⟩
  · obtain ⟨u, rfl, hu⟩ := Value.exists_of_spells ha
    obtain ⟨v, rfl, hv⟩ := Value.exists_of_spells hb
    have hmono := @Binary64.key_ofDecimal_mono u v
    have hmono' := @Binary64.key_ofDecimal_mono v u
    simp only [holds_of_numbers hu hv, holds_of_numbers hv hu]
    refine ⟨countP_holdsOfNumbers _ _, rfl, greaterEqual_holdsOfNumbers _ _,
      lessEqual_holdsOfNumbers _ _, rfl, fun h => ?_, fun h => ?_, fun h => ?_, rfl⟩
    · exact (lessEqual_holdsOfNumbers_iff _ _).2 (hmono h)
    · have hkeys := (less_holdsOfNumbers_iff _ _).1 h
      exact lt_of_not_ge fun hle => absurd (hmono' hle) (not_le.2 hkeys)
    · exact (equal_holdsOfNumbers_iff _ _).2 (le_antisymm (hmono h.le) (hmono' h.ge))
  · obtain ⟨u, -, hu⟩ := Value.exists_of_spells ha
    obtain ⟨v, -, hv⟩ := Value.exists_of_spells hb
    obtain ⟨w, -, hw⟩ := Value.exists_of_spells hc
    rw [holds_of_numbers hu hv, lessEqual_holdsOfNumbers_iff] at hab
    rw [holds_of_numbers hv hw, lessEqual_holdsOfNumbers_iff] at hbc
    rw [holds_of_numbers hu hw, lessEqual_holdsOfNumbers_iff]
    exact hab.trans hbc
  · simp only [holds_of_not_spells h]
    refine ⟨fun op hop => ?_, rfl⟩
    simp only [List.mem_cons, List.not_mem_nil, or_false] at hop
    rcases hop with rfl | rfl | rfl | rfl
    · rfl
    · rfl
    · rfl
    · rfl

/-- Neighbours that round to one number are equal, in spite of their order as they are written, and
a text that is no number is neither less than one nor greater. -/
theorem holds_order_neighbours :
    SpellsDecimal " 9007199254740992.0" 9007199254740992 ∧
      SpellsDecimal "+9007199254740993" 9007199254740993 ∧
      lessEqual.holds " 9007199254740992.0" "+9007199254740993" = true ∧
      equal.holds " 9007199254740992.0" "+9007199254740993" = true ∧
      less.holds "9" "9a" = false := by
  have ha : SpellsDecimal " 9007199254740992.0" 9007199254740992 := by
    have hread := Decimal.spells_of_ofText? (s := " 9007199254740992.0")
      (x := ⟨false, 90071992547409920, 1⟩) (by decide)
    norm_num [Decimal.value] at hread
    exact hread
  have hb : SpellsDecimal "+9007199254740993" 9007199254740993 := by
    have hread := Decimal.spells_of_ofText? (s := "+9007199254740993")
      (x := ⟨false, 9007199254740993, 0⟩) (by decide)
    norm_num [Decimal.value] at hread
    exact hread
  obtain ⟨-, -, -, -, -, hle, -⟩ := holds_order.1 _ _ _ _ ha hb
  have htext : ¬∃ y, SpellsDecimal "9a" y := by
    intro h
    obtain ⟨y, hy⟩ := h
    obtain ⟨x, hx, -⟩ := Decimal.exists_of_spells hy
    have hnone : Decimal.ofText? (Text.trim "9a") = none := by decide
    rw [hnone] at hx
    cases hx
  obtain ⟨hnone, -⟩ := holds_order.2.2 "9" "9a" fun h => htext h.2
  exact ⟨ha, hb, hle (by norm_num), by decide +kernel, hnone less (by simp)⟩

end Comparison

end Tabular
