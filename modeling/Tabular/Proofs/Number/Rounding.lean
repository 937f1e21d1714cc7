import Tabular.Proofs.Number.Words

/-! Rounding keeps the order of quotients: a larger one never has smaller bits. -/
namespace Tabular

section Quotients
variable {n d n' d' : Nat}

theorem div_le_div_of_mul_le (hd : 0 < d) (hd' : 0 < d') (h : n * d' ≤ n' * d) :
    n / d ≤ n' / d' := by
  have hscaled : n / d * d' * d ≤ n' * d := by
    calc n / d * d' * d = n / d * d * d' := Nat.mul_right_comm _ _ _
      _ ≤ n * d' := Nat.mul_le_mul_right d' (Nat.div_mul_le_self n d)
      _ ≤ n' * d := h
  rw [Nat.le_div_iff_mul_le hd']
  exact Nat.le_of_mul_le_mul_right hscaled hd

/-- Of two quotients with the same whole part, the smaller has the smaller remainder. -/
theorem mod_mul_le_of_div_eq (hq : n / d = n' / d') (h : n * d' ≤ n' * d) :
    n % d * d' ≤ n' % d' * d := by
  have hn := Nat.div_add_mod n d
  have hn' := Nat.div_add_mod n' d'
  rw [← hn, ← hn', ← hq, Nat.add_mul, Nat.add_mul] at h
  have hwhole : d * (n / d) * d' = d' * (n / d) * d := by
    rw [Nat.mul_comm d, Nat.mul_comm d', Nat.mul_right_comm]
  omega

theorem roundEven_mono (hd : 0 < d) (hd' : 0 < d') (h : n * d' ≤ n' * d) :
    roundEven n d ≤ roundEven n' d' := by
  have hdiv := div_le_div_of_mul_le hd hd' h
  have hupper := roundEven_le n d
  have hlower := le_roundEven n' d'
  rcases Nat.lt_or_eq_of_le hdiv with hlt | heq
  · omega
  -- Between the same two integers the remainders decide, in units of `1 / (d * d')`.
  have hrest := mod_mul_le_of_div_eq heq h
  have hdouble : 2 * (n % d) * d' ≤ 2 * (n' % d') * d := by
    rw [Nat.mul_assoc, Nat.mul_assoc]
    exact Nat.mul_le_mul_left 2 hrest
  unfold roundEven at hupper ⊢
  dsimp only at hupper ⊢
  rw [← heq]
  rcases Nat.lt_trichotomy (2 * (n' % d')) d' with hlt' | heq' | hgt'
  · have hless : 2 * (n % d) * d' < d * d' := by
      calc 2 * (n % d) * d' ≤ 2 * (n' % d') * d := hdouble
        _ < d' * d := Nat.mul_lt_mul_of_pos_right hlt' hd
        _ = d * d' := Nat.mul_comm d' d
    have hbelow := Nat.lt_of_mul_lt_mul_right hless
    apply Nat.le_of_eq
    rw [Nat.compare_eq_lt.2 hbelow, Nat.compare_eq_lt.2 hlt']
  · have hnoMore : 2 * (n % d) * d' ≤ d * d' := by
      calc 2 * (n % d) * d' ≤ 2 * (n' % d') * d := hdouble
        _ = d * d' := by rw [heq', Nat.mul_comm]
    have hhalf := Nat.le_of_mul_le_mul_right hnoMore hd'
    rw [Nat.compare_eq_eq.2 heq']
    rcases Nat.lt_or_eq_of_le hhalf with hbelow | hsame
    · rw [Nat.compare_eq_lt.2 hbelow]
      exact Nat.le_add_right _ _
    · apply Nat.le_of_eq
      rw [Nat.compare_eq_eq.2 hsame]
  · rw [Nat.compare_eq_gt.2 hgt']
    exact hupper

end Quotients

namespace Binary64
variable {n d n' d' : Nat}

/-- How often the unit of the smallest numbers is doubled for a quotient of that unit. -/
def doublings (n d : Nat) : Nat := (n / d).log2 - 52

theorem doublings_mono (hd : 0 < d) (hd' : 0 < d') (h : n * d' ≤ n' * d) :
    doublings n d ≤ doublings n' d' := by
  have hdiv := div_le_div_of_mul_le hd hd' h
  have hlog : (n / d).log2 ≤ (n' / d').log2 := by
    by_cases hzero : n / d = 0
    · rw [hzero]
      simp
    · have hzero' : n' / d' ≠ 0 := by
        intro hzero'
        exact hzero (Nat.le_zero.1 (hzero' ▸ hdiv))
      have hself := Nat.log2_self_le hzero
      exact (Nat.le_log2 hzero').2 (Nat.le_trans hself hdiv)
  unfold doublings
  omega

/-- A count of units has 53 digits at most. -/
theorem lt_doubled (n : Nat) (hd : 0 < d) : n < 2 ^ 53 * (d <<< doublings n d) := by
  have hlog : n / d < 2 ^ (53 + doublings n d) := by
    have hself : n / d < 2 ^ ((n / d).log2 + 1) := Nat.lt_log2_self
    have hle : (n / d).log2 + 1 ≤ 53 + doublings n d := by
      unfold doublings
      omega
    exact Nat.lt_of_lt_of_le hself (Nat.pow_le_pow_right (by decide) hle)
  rw [Nat.div_lt_iff_lt_mul hd, Nat.pow_add] at hlog
  rwa [Nat.shiftLeft_eq, Nat.mul_comm d, ← Nat.mul_assoc]

/-- A count of larger units than the smallest has 53 digits at least. -/
theorem doubled_le (hd : 0 < d) (hk : 0 < doublings n d) :
    2 ^ 52 * (d <<< doublings n d) ≤ n := by
  have hlog : (n / d).log2 = 52 + doublings n d := by
    unfold doublings at hk ⊢
    omega
  have hzero : n / d ≠ 0 := by
    intro hzero
    rw [hzero, Nat.log2_zero] at hlog
    omega
  have hself := Nat.log2_self_le hzero
  rw [hlog, Nat.le_div_iff_mul_le hd, Nat.pow_add] at hself
  rwa [Nat.shiftLeft_eq, Nat.mul_comm d, ← Nat.mul_assoc]

theorem nearest_eq (n d : Nat) : nearest n d = min infinity
    (doublings (n <<< 1074) d * 2 ^ 52 +
      roundEven (n <<< 1074) (d <<< doublings (n <<< 1074) d)) := by
  rw [← Nat.shiftLeft_eq]
  rfl

/-- The bits keep the order of the quotients: with the same unit the counts of units do, and a
larger unit comes with a count that makes up for it. -/
theorem bits_mono (hd : 0 < d) (hd' : 0 < d') (h : n * d' ≤ n' * d) :
    doublings n d * 2 ^ 52 + roundEven n (d <<< doublings n d) ≤
      doublings n' d' * 2 ^ 52 + roundEven n' (d' <<< doublings n' d') := by
  have hpos {d : Nat} (hd : 0 < d) (k : Nat) : 0 < d <<< k := by
    rw [Nat.shiftLeft_eq]
    exact Nat.mul_pos hd (Nat.two_pow_pos k)
  rcases Nat.lt_or_eq_of_le (doublings_mono hd hd' h) with hlt | heq
  · have hupper : roundEven n (d <<< doublings n d) ≤ 2 ^ 53 := by
      have hle := roundEven_mono (hpos hd _) (hpos hd (doublings n d))
        (Nat.mul_le_mul_right _ (Nat.le_of_lt (lt_doubled n hd)))
      rwa [roundEven_mul _ _ (hpos hd _)] at hle
    have hlower : 2 ^ 52 ≤ roundEven n' (d' <<< doublings n' d') := by
      have hle := roundEven_mono (hpos hd' (doublings n' d')) (hpos hd' _)
        (Nat.mul_le_mul_right _ (doubled_le (n := n') hd' (by omega)))
      rwa [roundEven_mul _ _ (hpos hd' _)] at hle
    omega
  · rw [heq]
    refine Nat.add_le_add_left (roundEven_mono (heq ▸ hpos hd _) (hpos hd' _) ?_) _
    rw [Nat.shiftLeft_eq, Nat.shiftLeft_eq, ← Nat.mul_assoc, ← Nat.mul_assoc]
    exact Nat.mul_le_mul_right _ h

/-- A larger quotient never has smaller bits. -/
theorem nearest_mono (hd : 0 < d) (hd' : 0 < d') (h : n * d' ≤ n' * d) :
    nearest n d ≤ nearest n' d' := by
  have hscaled : n <<< 1074 * d' ≤ n' <<< 1074 * d := by
    rw [Nat.shiftLeft_eq, Nat.shiftLeft_eq, Nat.mul_right_comm, Nat.mul_right_comm n']
    exact Nat.mul_le_mul_right _ h
  have hbits := bits_mono hd hd' hscaled
  rw [nearest_eq, nearest_eq]
  exact Nat.le_min.2 ⟨Nat.min_le_left _ _, Nat.le_trans (Nat.min_le_right _ _) hbits⟩

end Binary64

end Tabular
