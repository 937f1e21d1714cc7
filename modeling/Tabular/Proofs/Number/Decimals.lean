import Mathlib.Algebra.Order.Field.Rat
import Mathlib.Tactic.FieldSimp
import Mathlib.Tactic.Positivity
import Tabular.Proofs.Number.Digits
import Tabular.Proofs.Number.Rounding

/-! Spellings of decimals and the rational numbers that they write. The numbers nearest to two
decimals are never in the opposite order. -/
namespace Tabular

def IsDigits (cs : List Char) : Prop := cs ≠ [] ∧ ∀ c ∈ cs, c.isDigit = true

/-- Characters write a number without a sign: digits, or digits before and after a point. -/
inductive WritesUnsigned : List Char → ℚ → Prop
  | whole {cs : List Char} (h : IsDigits cs) : WritesUnsigned cs (Nat.ofDigitChars 10 cs 0)
  | point {cs ds : List Char} (h : IsDigits cs) (h' : IsDigits ds) :
    WritesUnsigned (cs ++ '.' :: ds)
      (Nat.ofDigitChars 10 cs 0 + Nat.ofDigitChars 10 ds 0 / 10 ^ ds.length)

inductive WritesDecimal : List Char → ℚ → Prop
  | unsigned {cs : List Char} {q : ℚ} (h : WritesUnsigned cs q) : WritesDecimal cs q
  | plus {cs : List Char} {q : ℚ} (h : WritesUnsigned cs q) : WritesDecimal ('+' :: cs) q
  | minus {cs : List Char} {q : ℚ} (h : WritesUnsigned cs q) : WritesDecimal ('-' :: cs) (-q)

/-- A text spells a number that is written in it between white space. -/
def SpellsDecimal (s : String) (q : ℚ) : Prop :=
  ∃ before cs after, s.toList = before ++ (cs ++ after) ∧ WritesDecimal cs q ∧
    (∀ c ∈ before, Text.isBlank c = true) ∧ ∀ c ∈ after, Text.isBlank c = true

section Digits
variable {cs ds : List Char}

theorem digits?_eq_some_iff_isDigits {n : Nat} :
    digits? cs = some n ↔ IsDigits cs ∧ Nat.ofDigitChars 10 cs 0 = n := by
  rw [digits?_eq_some_iff, IsDigits, and_assoc]

theorem IsDigits.append (h : IsDigits cs) (h' : IsDigits ds) : IsDigits (cs ++ ds) :=
  ⟨List.append_ne_nil_of_left_ne_nil h.1 ds, List.forall_mem_append.2 ⟨h.2, h'.2⟩⟩

theorem IsDigits.point_not_mem (h : IsDigits cs) : '.' ∉ cs := fun hpoint =>
  absurd (h.2 _ hpoint) (by decide)

end Digits

section Written
variable {cs : List Char} {q : ℚ}

theorem WritesUnsigned.isDigit_or (h : WritesUnsigned cs q) {c : Char} (hc : c ∈ cs) :
    c.isDigit = true ∨ c ∈ ['+', '-', '.'] := by
  cases h with
  | whole h => exact .inl (h.2 c hc)
  | point h h' =>
    rcases List.mem_append.1 hc with hc | hc
    · exact .inl (h.2 c hc)
    · rcases List.mem_cons.1 hc with hpoint | hc
      · exact .inr (by simp [hpoint])
      · exact .inl (h'.2 c hc)

theorem WritesDecimal.isDigit_or (h : WritesDecimal cs q) {c : Char} (hc : c ∈ cs) :
    c.isDigit = true ∨ c ∈ ['+', '-', '.'] := by
  cases h with
  | unsigned h => exact h.isDigit_or hc
  | plus h | minus h =>
    rcases List.mem_cons.1 hc with hsign | hc
    · exact .inr (by simp [hsign])
    · exact h.isDigit_or hc

theorem WritesDecimal.isBlank_eq_false (h : WritesDecimal cs q) {c : Char} (hc : c ∈ cs) :
    Text.isBlank c = false := by
  rcases h.isDigit_or hc with hd | hmark
  · exact isBlank_of_isDigit hd
  · obtain rfl | rfl | rfl : c = '+' ∨ c = '-' ∨ c = '.' := by simpa using hmark
    · decide
    · decide
    · decide

theorem SpellsDecimal.isBlank_or {s : String} (h : SpellsDecimal s q) {c : Char}
    (hc : c ∈ s.toList) :
    Text.isBlank c = true ∨ c.isDigit = true ∨ c ∈ ['+', '-', '.'] := by
  obtain ⟨before, cs, after, hs, hcs, hbefore, hafter⟩ := h
  rw [hs] at hc
  rcases List.mem_append.1 hc with hc | hc
  · exact .inl (hbefore c hc)
  · rcases List.mem_append.1 hc with hc | hc
    · exact .inr (hcs.isDigit_or hc)
    · exact .inl (hafter c hc)

theorem WritesUnsigned.splitSign_eq (h : WritesUnsigned cs q) :
    Decimal.splitSign cs = (false, cs) := by
  have hfirst : ∀ c rest, cs = c :: rest → c.isDigit = true := by
    intro c rest hcs
    cases h with
    | whole h => exact h.2 c (by simp [hcs])
    | @point ws fs h h' =>
      cases ws with
      | nil => exact absurd rfl h.1
      | cons w ws =>
        obtain ⟨rfl, -⟩ := List.cons.inj hcs
        exact h.2 w List.mem_cons_self
  unfold Decimal.splitSign
  split
  · exact absurd (hfirst _ _ rfl) (by decide)
  · exact absurd (hfirst _ _ rfl) (by decide)
  · rfl

end Written

namespace Decimal

def value (x : Decimal) : ℚ := (if x.negative then -1 else 1) * (x.units / 10 ^ x.places)

section Reading
variable {cs : List Char} {s : String} {q : ℚ} {negative : Bool} {x : Decimal}

/-- A number is cut at its first point. -/
theorem ofText?_of_point {ws fs : List Char}
    (hsplit : splitSign s.toList = (negative, ws ++ '.' :: fs)) (h : '.' ∉ ws) :
    ofText? s = match digits? ws, digits? fs with
      | some _, some _ => (digits? (ws ++ fs)).map fun units => ⟨negative, units, fs.length⟩
      | _, _ => none := by
  have hall : ∀ c ∈ ws, decide (c ≠ '.') = true := fun c hc =>
    decide_eq_true fun hpoint => h (hpoint ▸ hc)
  have hwhole : (ws ++ '.' :: fs).takeWhile (· ≠ '.') = ws := by
    rw [List.takeWhile_append_of_pos hall]
    simp
  have hfraction : (ws ++ '.' :: fs).dropWhile (· ≠ '.') = '.' :: fs := by
    rw [List.dropWhile_append_of_pos hall]
    simp
  unfold ofText?
  rw [hsplit]
  dsimp only
  generalize (ws ++ '.' :: fs).takeWhile (· ≠ '.') = whole at hwhole ⊢
  generalize (ws ++ '.' :: fs).dropWhile (· ≠ '.') = rest at hfraction ⊢
  subst hwhole hfraction
  rfl

/-- What follows the sign of a decimal is digits, or digits before and after a point. -/
theorem ofText?_eq_some_iff (hsplit : splitSign s.toList = (negative, cs)) :
    ofText? s = some x ↔
      (IsDigits cs ∧ x = ⟨negative, Nat.ofDigitChars 10 cs 0, 0⟩) ∨
        ∃ ws fs, cs = ws ++ '.' :: fs ∧ IsDigits ws ∧ IsDigits fs ∧
          x = ⟨negative, Nat.ofDigitChars 10 (ws ++ fs) 0, fs.length⟩ := by
  constructor
  · intro h
    by_cases hpoint : '.' ∈ cs
    · obtain ⟨ws, fs, rfl, hfirst⟩ := List.eq_append_cons_of_mem hpoint
      rw [ofText?_of_point hsplit hfirst] at h
      split at h
      · next hws hfs =>
        obtain ⟨n, hn, rfl⟩ := Option.map_eq_some_iff.1 h
        obtain ⟨-, rfl⟩ := digits?_eq_some_iff_isDigits.1 hn
        exact .inr ⟨ws, fs, rfl, (digits?_eq_some_iff_isDigits.1 hws).1,
          (digits?_eq_some_iff_isDigits.1 hfs).1, rfl⟩
      · cases h
    · rw [ofText?_of_not_mem hsplit hpoint] at h
      obtain ⟨n, hn, rfl⟩ := Option.map_eq_some_iff.1 h
      obtain ⟨hd, rfl⟩ := digits?_eq_some_iff_isDigits.1 hn
      exact .inl ⟨hd, rfl⟩
  · rintro (⟨hd, rfl⟩ | ⟨ws, fs, rfl, hws, hfs, rfl⟩)
    · rw [ofText?_of_not_mem hsplit hd.point_not_mem, digits?_eq_some_iff_isDigits.2 ⟨hd, rfl⟩]
      rfl
    · rw [ofText?_of_point hsplit hws.point_not_mem, digits?_eq_some_iff_isDigits.2 ⟨hws, rfl⟩,
        digits?_eq_some_iff_isDigits.2 ⟨hfs, rfl⟩,
        digits?_eq_some_iff_isDigits.2 ⟨hws.append hfs, rfl⟩]
      rfl

/-- The digits of a fraction are worth less by one place each. -/
theorem units_div_pow (ws fs : List Char) :
    ((Nat.ofDigitChars 10 (ws ++ fs) 0 : Nat) : ℚ) / 10 ^ fs.length =
      Nat.ofDigitChars 10 ws 0 + Nat.ofDigitChars 10 fs 0 / 10 ^ fs.length := by
  have hpow : (10 : ℚ) ^ fs.length ≠ 0 := by positivity
  rw [Nat.ofDigitChars_append, Nat.ofDigitChars_eq_ofDigitChars_zero]
  push_cast
  field_simp

theorem exists_unsigned (hsplit : splitSign s.toList = (negative, cs))
    (h : WritesUnsigned cs q) :
    ∃ x, ofText? s = some x ∧ x.value = (if negative then -1 else 1) * q := by
  cases h with
  | whole h =>
    refine ⟨_, (ofText?_eq_some_iff hsplit).2 (.inl ⟨h, rfl⟩), ?_⟩
    simp [value]
  | @point ws fs h h' =>
    refine ⟨_, (ofText?_eq_some_iff hsplit).2 (.inr ⟨ws, fs, rfl, h, h', rfl⟩), ?_⟩
    rw [value, units_div_pow]

theorem writesUnsigned_of_ofText? (hsplit : splitSign s.toList = (negative, cs))
    (h : ofText? s = some x) :
    ∃ q, WritesUnsigned cs q ∧ x.value = (if negative then -1 else 1) * q := by
  rcases (ofText?_eq_some_iff hsplit).1 h with ⟨hd, rfl⟩ | ⟨ws, fs, rfl, hws, hfs, rfl⟩
  · exact ⟨_, .whole hd, by simp [value]⟩
  · exact ⟨_, .point hws hfs, by rw [value, units_div_pow]⟩

theorem splitSign_cases (cs : List Char) :
    (∃ rest, cs = '-' :: rest ∧ splitSign cs = (true, rest)) ∨
      (∃ rest, cs = '+' :: rest ∧ splitSign cs = (false, rest)) ∨ splitSign cs = (false, cs) := by
  unfold splitSign
  split
  · exact .inl ⟨_, rfl, rfl⟩
  · exact .inr (.inl ⟨_, rfl, rfl⟩)
  · exact .inr (.inr rfl)

/-- A decimal is read from the texts that write it. -/
theorem exists_ofText? (h : WritesDecimal s.toList q) :
    ∃ x, ofText? s = some x ∧ x.value = q := by
  generalize hs : s.toList = cs at h
  cases h with
  | unsigned h =>
    obtain ⟨x, hx, hvalue⟩ := exists_unsigned (by rw [hs, h.splitSign_eq]) h
    exact ⟨x, hx, by simpa using hvalue⟩
  | plus h =>
    obtain ⟨x, hx, hvalue⟩ := exists_unsigned (by rw [hs, splitSign]) h
    exact ⟨x, hx, by simpa using hvalue⟩
  | minus h =>
    obtain ⟨x, hx, hvalue⟩ := exists_unsigned (by rw [hs, splitSign]) h
    exact ⟨x, hx, by simpa using hvalue⟩

theorem writesDecimal_of_ofText? (h : ofText? s = some x) : WritesDecimal s.toList x.value := by
  rcases splitSign_cases s.toList with ⟨cs, hs, hsplit⟩ | ⟨cs, hs, hsplit⟩ | hsplit
  · obtain ⟨q, hq, hvalue⟩ := writesUnsigned_of_ofText? hsplit h
    rw [hs, hvalue]
    simpa using WritesDecimal.minus hq
  · obtain ⟨q, hq, hvalue⟩ := writesUnsigned_of_ofText? hsplit h
    rw [hs, hvalue]
    simpa using WritesDecimal.plus hq
  · obtain ⟨q, hq, hvalue⟩ := writesUnsigned_of_ofText? hsplit h
    rw [hvalue]
    simpa using WritesDecimal.unsigned hq

theorem exists_of_spells (h : SpellsDecimal s q) :
    ∃ x, ofText? (Text.trim s) = some x ∧ x.value = q := by
  obtain ⟨before, cs, after, hs, hcs, hbefore, hafter⟩ := h
  apply exists_ofText?
  rw [Text.trim_eq_of_around hs hbefore hafter fun _ => hcs.isBlank_eq_false,
    String.toList_ofList]
  exact hcs

theorem spells_of_ofText? (h : ofText? (Text.trim s) = some x) : SpellsDecimal s x.value := by
  obtain ⟨before, after, hs, hbefore, hafter⟩ := Text.exists_around_trim s
  refine ⟨before.toList, _, after.toList, ?_, writesDecimal_of_ofText? h, hbefore, hafter⟩
  rw [← List.append_assoc, ← String.toList_append, ← String.toList_append, ← hs]

end Reading

end Decimal

namespace Binary64
variable {x y : Decimal}

theorem magnitude_mono
    (h : (x.units : ℚ) / 10 ^ x.places ≤ (y.units : ℚ) / 10 ^ y.places) :
    (ofDecimal x).magnitude ≤ (ofDecimal y).magnitude := by
  have hpos (places : Nat) : 0 < 10 ^ places := Nat.pow_pos (by decide)
  rw [div_le_div_iff₀ (by positivity) (by positivity)] at h
  exact nearest_mono (hpos x.places) (hpos y.places) (by exact_mod_cast h)

/-- A decimal that is not above zero, but for its sign, is zero. -/
theorem magnitude_eq_zero (h : (x.units : ℚ) / 10 ^ x.places ≤ 0) :
    (ofDecimal x).magnitude = 0 := by
  have hzero : (ofDecimal ⟨false, 0, 0⟩).magnitude = 0 := nearest_zero
  have hle : (ofDecimal x).magnitude ≤ (ofDecimal ⟨false, 0, 0⟩).magnitude :=
    magnitude_mono (by simpa using h)
  omega

theorem key_ofDecimal (x : Decimal) : (ofDecimal x).key =
    if x.negative then -((ofDecimal x).magnitude : Int) else (ofDecimal x).magnitude := rfl

/-- The numbers nearest to two decimals are never in the opposite order, though they may be in one
place. -/
theorem key_ofDecimal_mono (h : x.value ≤ y.value) :
    (ofDecimal x).key ≤ (ofDecimal y).key := by
  have hx : 0 ≤ (x.units : ℚ) / 10 ^ x.places := by positivity
  have hy : 0 ≤ (y.units : ℚ) / 10 ^ y.places := by positivity
  unfold Decimal.value at h
  rw [key_ofDecimal, key_ofDecimal]
  cases hxs : x.negative with
  | false =>
    rw [hxs, if_neg Bool.false_ne_true, one_mul] at h
    cases hys : y.negative with
    | false =>
      rw [hys, if_neg Bool.false_ne_true, one_mul] at h
      have hle := magnitude_mono h
      simpa using hle
    | true =>
      -- A number that is not below zero precedes one that is not above zero only if both are zero.
      rw [hys, if_pos rfl, neg_one_mul] at h
      have hxzero := magnitude_eq_zero (h.trans (neg_nonpos.2 hy))
      have hyzero := magnitude_eq_zero (neg_nonneg.1 (hx.trans h))
      simp [hxzero, hyzero]
  | true =>
    rw [hxs, if_pos rfl, neg_one_mul] at h
    cases hys : y.negative with
    | false =>
      rw [if_pos rfl, if_neg Bool.false_ne_true]
      omega
    | true =>
      rw [hys, if_pos rfl, neg_one_mul, neg_le_neg_iff] at h
      have hle := magnitude_mono h
      simpa using hle

end Binary64

end Tabular
