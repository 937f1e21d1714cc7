import Mathlib.Algebra.Group.Nat.Defs
import Tabular.Number.Binary64

/-! The numbers nearest to 64-bit words: below `2 ^ 53` they are exact, and no other word has the
same one. -/
namespace Tabular

section Rounding
variable (n d : Nat)

theorem roundEven_mul (hd : 0 < d) : roundEven (n * d) d = n := by
  have hrest : compare (2 * (n * d % d)) d = .lt := by
    rw [Nat.mul_mod_left, Nat.mul_zero, Nat.compare_eq_lt]
    exact hd
  rw [roundEven, hrest]
  exact Nat.mul_div_cancel n hd

theorem le_roundEven : n / d ≤ roundEven n d := by
  unfold roundEven
  dsimp only
  split <;> omega

theorem roundEven_le : roundEven n d ≤ n / d + 1 := by
  unfold roundEven
  dsimp only
  split <;> omega

end Rounding

section Bits
variable {n : Nat}

theorem log2_shiftLeft (hn : n ≠ 0) (k : Nat) : (n <<< k).log2 = n.log2 + k := by
  have hpos : 0 < 2 ^ k := Nat.two_pow_pos k
  rw [Nat.shiftLeft_eq, Nat.log2_eq_iff (Nat.mul_ne_zero hn (Nat.ne_of_gt hpos))]
  refine ⟨?_, ?_⟩
  · rw [Nat.pow_add]
    exact Nat.mul_le_mul_right _ (Nat.log2_self_le hn)
  · rw [Nat.add_right_comm, Nat.pow_add]
    exact Nat.mul_lt_mul_of_pos_right Nat.lt_log2_self hpos

/-- A number without all but `j` of the digits after its first has `j` of them. -/
theorem shiftLeft_div_bounds (hn : n ≠ 0) (k j : Nat) :
    2 ^ j ≤ n <<< (k + j) / 2 ^ (k + n.log2) ∧ n <<< (k + j) / 2 ^ (k + n.log2) < 2 ^ (j + 1) := by
  have hpos : 0 < 2 ^ (k + n.log2) := Nat.two_pow_pos _
  have hlow : 2 ^ j * 2 ^ (k + n.log2) = 2 ^ n.log2 * 2 ^ (k + j) := by
    rw [← Nat.pow_add, ← Nat.pow_add]
    congr 1
    omega
  have hhigh : 2 ^ (j + 1) * 2 ^ (k + n.log2) = 2 ^ (n.log2 + 1) * 2 ^ (k + j) := by
    rw [← Nat.pow_add, ← Nat.pow_add]
    congr 1
    omega
  rw [Nat.shiftLeft_eq, Nat.le_div_iff_mul_le hpos, Nat.div_lt_iff_lt_mul hpos, hlow, hhigh]
  exact ⟨Nat.mul_le_mul_right _ (Nat.log2_self_le hn),
    Nat.mul_lt_mul_of_pos_right Nat.lt_log2_self (Nat.two_pow_pos _)⟩

theorem shiftLeft_eq_mul (k : Nat) {j : Nat} (h : n.log2 ≤ j) :
    n <<< (k + j) = n * 2 ^ (j - n.log2) * 2 ^ (k + n.log2) := by
  rw [Nat.shiftLeft_eq, Nat.mul_assoc, ← Nat.pow_add]
  congr 2
  omega

end Bits

namespace Binary64
variable {m n : Nat}

/-- The exponent of an integer comes from its first digit. -/
theorem nearest_one (hn : n ≠ 0) :
    nearest n 1 = min infinity
      ((1022 + n.log2) * 2 ^ 52 + roundEven (n <<< (1022 + 52)) (2 ^ (1022 + n.log2))) := by
  have hlog : (n <<< (1022 + 52) / 1).log2 - 52 = 1022 + n.log2 := by
    rw [Nat.div_one, log2_shiftLeft hn]
    omega
  have hnearest : nearest n 1 = min infinity
      (((n <<< (1022 + 52) / 1).log2 - 52) <<< 52 +
        roundEven (n <<< (1022 + 52)) (1 <<< ((n <<< (1022 + 52) / 1).log2 - 52))) := rfl
  rw [hnearest, hlog, Nat.shiftLeft_eq (1022 + n.log2), Nat.shiftLeft_eq 1, Nat.one_mul]

theorem nearest_one_bounds (hn : n ≠ 0) (hlt : n < 2 ^ 64) :
    (1023 + n.log2) * 2 ^ 52 ≤ nearest n 1 ∧ nearest n 1 ≤ (1024 + n.log2) * 2 ^ 52 := by
  have hlog : n.log2 < 64 := (Nat.log2_lt hn).2 hlt
  obtain ⟨hlow, hhigh⟩ := shiftLeft_div_bounds hn 1022 52
  have hle := le_roundEven (n <<< (1022 + 52)) (2 ^ (1022 + n.log2))
  have hge := roundEven_le (n <<< (1022 + 52)) (2 ^ (1022 + n.log2))
  have hinfinity : infinity = 2047 * 2 ^ 52 := by decide
  rw [nearest_one hn, hinfinity]
  omega

theorem mul_two_pow_lt (hlog : n.log2 ≤ 52) : n * 2 ^ (52 - n.log2) < 2 ^ 53 := by
  have hsplit : 2 ^ 53 = 2 ^ (n.log2 + 1) * 2 ^ (52 - n.log2) := by
    rw [← Nat.pow_add]
    congr 1
    omega
  rw [hsplit]
  exact Nat.mul_lt_mul_of_pos_right Nat.lt_log2_self (Nat.two_pow_pos _)

/-- An integer with few digits is exact. -/
theorem nearest_one_of_log2_le (hn : n ≠ 0) (hlog : n.log2 ≤ 52) :
    nearest n 1 = (1022 + n.log2) * 2 ^ 52 + n * 2 ^ (52 - n.log2) := by
  have hlt := mul_two_pow_lt hlog
  have hinfinity : infinity = 2047 * 2 ^ 52 := by decide
  rw [nearest_one hn, shiftLeft_eq_mul 1022 hlog, roundEven_mul _ _ (Nat.two_pow_pos _), hinfinity]
  omega

theorem nearest_zero : nearest 0 1 = 0 := by decide +kernel

/-- No other integer has the number of one below `2 ^ 53`. -/
theorem nearest_one_injective (hn : n < 2 ^ 53) (hm : m < 2 ^ 64) (h : nearest m 1 = nearest n 1) :
    m = n := by
  have hpos {k : Nat} (hk : k ≠ 0) (hlt : k < 2 ^ 64) : nearest k 1 ≠ 0 := by
    have := (nearest_one_bounds hk hlt).1
    omega
  by_cases hn0 : n = 0
  · subst hn0
    rw [nearest_zero] at h
    exact Decidable.by_contra fun hm0 => hpos hm0 hm h
  have hn64 : n < 2 ^ 64 := by omega
  by_cases hm0 : m = 0
  · subst hm0
    rw [nearest_zero] at h
    exact absurd h.symm (hpos hn0 hn64)
  have hlog : n.log2 < 53 := (Nat.log2_lt hn0).2 hn
  have hexact := nearest_one_of_log2_le hn0 (by omega)
  have hbelow := mul_two_pow_lt (n := n) (by omega)
  have hnbounds := nearest_one_bounds hn0 hn64
  have hmbounds := nearest_one_bounds hm0 hm
  rcases Nat.lt_trichotomy m.log2 n.log2 with hlt | heq | hgt
  · -- `m` has fewer digits, so it is exact as well.
    have hmexact := nearest_one_of_log2_le hm0 (by omega)
    have hmbelow := mul_two_pow_lt (n := m) (by omega)
    omega
  · have hmexact := nearest_one_of_log2_le hm0 (by omega)
    rw [hexact, hmexact, heq] at h
    exact Nat.eq_of_mul_eq_mul_right (Nat.two_pow_pos _) (Nat.add_left_cancel h)
  · omega

def ofWord (n : UInt64) : Binary64 := ofDecimal ⟨false, n.toNat, 0⟩

theorem ofWord_eq_iff {m n : UInt64} :
    ofWord m = ofWord n ↔ nearest m.toNat 1 = nearest n.toNat 1 := by
  rw [ofWord, ofWord, ofDecimal, ofDecimal, mk.injEq]
  exact and_iff_right rfl

/-- No other word has the number of one below `2 ^ 53`. -/
theorem eq_of_ofWord_eq {m n : UInt64} (hn : n.toNat < 2 ^ 53) (h : ofWord m = ofWord n) :
    m = n :=
  UInt64.toNat_inj.1 (nearest_one_injective hn m.toNat_lt (ofWord_eq_iff.1 h))

/-- The numbers of words are equal exactly if their places in the order are. -/
theorem key_ofWord_inj {m n : UInt64} : (ofWord m).key = (ofWord n).key ↔ ofWord m = ofWord n := by
  rw [ofWord_eq_iff]
  exact Int.ofNat_inj

end Binary64

end Tabular
