import Mathlib.Data.List.TakeWhile
import Tabular.Number.Decimal
import Tabular.Proofs.Text.Trimming

/-! The decimal digits of a number: they are read back as the number. -/
namespace Tabular

theorem digits?_eq_some_iff {cs : List Char} {n : Nat} : digits? cs = some n ↔
    cs ≠ [] ∧ (∀ c ∈ cs, c.isDigit = true) ∧ Nat.ofDigitChars 10 cs 0 = n := by
  have hvalue : cs.foldl (fun n c => n * 10 + (c.toNat - '0'.toNat)) 0 =
      Nat.ofDigitChars 10 cs 0 := by
    simp only [Nat.ofDigitChars_eq_foldl, Nat.mul_comm 10]
  rw [digits?, hvalue, Option.ite_none_right_eq_some, Option.some.injEq, Bool.and_eq_true,
    List.all_eq_true, and_assoc]
  simp

theorem digits?_toDigits (n : Nat) : digits? (Nat.toDigits 10 n) = some n :=
  digits?_eq_some_iff.2 ⟨Nat.toDigits_ne_nil,
    fun _ hc => Nat.isDigit_of_mem_toDigits (by omega) (by omega) hc, Nat.ofDigitChars_ten_toDigits⟩

theorem isBlank_of_isDigit {c : Char} (h : c.isDigit = true) : Text.isBlank c = false := by
  have hb : 48 ≤ c.toNat ∧ c.toNat ≤ 57 := Char.isDigit_iff_toNat.1 h
  unfold Text.isBlank
  grind

theorem toList_toString (n : Nat) : (toString n).toList = Nat.toDigits 10 n := by
  rw [Nat.toString_eq_ofList_toDigits, String.toList_ofList]

theorem isDigit_of_mem_toString {n : Nat} {c : Char} (h : c ∈ (toString n).toList) :
    c.isDigit = true := by
  rw [toList_toString] at h
  exact Nat.isDigit_of_mem_toDigits (by omega) (by omega) h

theorem unsigned64?_toString (n : UInt64) : unsigned64? (toString n.toNat) = some n := by
  have hplus : ∀ cs, Nat.toDigits 10 n.toNat ≠ '+' :: cs := by
    intro cs he
    have := Nat.isDigit_of_mem_toDigits (b := 10) (n := n.toNat) (c := '+')
      (by omega) (by omega) (by simp [he])
    simp at this
  have hlt : n.toNat < 2 ^ 64 := n.toNat_lt
  rw [unsigned64?, toList_toString]
  split
  · next he => exact absurd he (hplus _)
  · rw [digits?_toDigits, Option.filter_some, if_pos (by simpa using hlt), Option.map_some,
      UInt64.ofNat_toNat]

theorem toList_toString_ne_nil (n : Nat) : (toString n).toList ≠ [] := by
  rw [toList_toString]
  exact Nat.toDigits_ne_nil

theorem toString_ne_empty (n : Nat) : toString n ≠ "" := by
  intro h
  exact toList_toString_ne_nil n (String.toList_eq_nil_iff.2 h)

theorem Decimal.ofText?_of_not_mem {s : String} {negative : Bool} {cs : List Char}
    (hsplit : splitSign s.toList = (negative, cs)) (h : '.' ∉ cs) :
    ofText? s = (digits? cs).map fun units => ⟨negative, units, 0⟩ := by
  have hall : ∀ c ∈ cs, decide (c ≠ '.') = true := fun c hc =>
    decide_eq_true fun hpoint => h (hpoint ▸ hc)
  unfold ofText?
  rw [hsplit]
  dsimp only
  rw [List.dropWhile_eq_nil_iff.2 hall, List.takeWhile_eq_self_iff.2 hall]

/-- Without a sign and a point, a text writes a decimal exactly if it is a run of digits. -/
theorem Decimal.ofText?_eq_digits? {s : String} (h : ∀ c ∈ s.toList, c ∉ ['-', '+', '.']) :
    ofText? s = (digits? s.toList).map fun units => ⟨false, units, 0⟩ := by
  have hsign : splitSign s.toList = (false, s.toList) := by
    unfold splitSign
    split
    · next he => exact absurd (h '-' (by simp [he])) (by decide)
    · next he => exact absurd (h '+' (by simp [he])) (by decide)
    · rfl
  exact ofText?_of_not_mem hsign fun hpoint => absurd (h '.' hpoint) (by decide)

theorem Decimal.ofText?_toString (n : Nat) : ofText? (toString n) = some ⟨false, n, 0⟩ := by
  rw [ofText?_eq_digits?, toList_toString, digits?_toDigits]
  · rfl
  · intro c hc hm
    have hdigit := isDigit_of_mem_toString hc
    simp only [List.mem_cons, List.not_mem_nil, or_false] at hm
    rcases hm with rfl | rfl | rfl <;> exact absurd hdigit (by decide)

end Tabular
