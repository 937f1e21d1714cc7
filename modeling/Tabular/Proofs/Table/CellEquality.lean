import Tabular.Cell
import Tabular.Proofs.Text.LowerCase

/-! Which texts are equal to themselves when one is a cell and the other a literal. -/
namespace Tabular

/-- A text without white space around it, or one that writes a number between white space. -/
def Findable (value : String) : Prop :=
  Text.trim value = value ∨ Decimal.isWritten (Text.trim value) = true

namespace Comparison

theorem holds_self_of_isWritten {value : String}
    (h : Decimal.isWritten (Text.trim value) = true) :
    equal.holds value value = true ∧ notEqual.holds value value = false := by
  obtain ⟨x, hx⟩ := Option.isSome_iff_exists.1 h
  have hvalue : Value.ofText value = .number (.ofDecimal x) := by
    rw [Value.ofText, hx]
  simp [holds, hvalue, holdsOfNumbers]

theorem holds_self_of_not_isWritten (op : Comparison) {value : String}
    (h : ¬Decimal.isWritten (Text.trim value) = true) :
    op.holds value value = op.holdsOfTexts (Text.trim value) value := by
  have hx : Decimal.ofText? (Text.trim value) = none := by
    simpa [Decimal.isWritten] using h
  have hvalue : Value.ofText value = .text (Text.trim value) := by
    rw [Value.ofText, hx]
  rw [holds, hvalue]

theorem equal_holds_self_iff (value : String) :
    equal.holds value value = true ↔ Findable value := by
  by_cases h : Decimal.isWritten (Text.trim value) = true
  · simp [(holds_self_of_isWritten h).1, Findable, h]
  · rw [holds_self_of_not_isWritten equal h, Findable, ← Text.lower_trim_eq_iff]
    simp [holdsOfTexts, h]

theorem notEqual_holds_self (value : String) :
    notEqual.holds value value = !equal.holds value value := by
  by_cases h : Decimal.isWritten (Text.trim value) = true
  · rw [(holds_self_of_isWritten h).1, (holds_self_of_isWritten h).2]
    rfl
  · rw [holds_self_of_not_isWritten equal h, holds_self_of_not_isWritten notEqual h]
    rfl

end Comparison

end Tabular
