import Mathlib.Algebra.Group.Int.Defs
import Mathlib.Data.List.Induction
import Tabular.Number.Integer
import Tabular.Proofs.Token.Names

/-! Spellings of integers: a sign, zeros and digits between white space. An integer of 64 bits is
read from the texts that spell it, and from no others. -/
namespace Tabular

section Digits

theorem toNat_sub_lt_of_isDigit {c : Char} (h : c.isDigit = true) : c.toNat - '0'.toNat < 10 := by
  have hbounds : 48 ≤ c.toNat ∧ c.toNat ≤ 57 := Char.isDigit_iff_toNat.1 h
  change c.toNat - 48 < 10
  omega

theorem toDigits_of_isDigit {c : Char} (h : c.isDigit = true) :
    Nat.toDigits 10 (c.toNat - '0'.toNat) = [c] := by
  have hbounds : 48 ≤ c.toNat ∧ c.toNat ≤ 57 := Char.isDigit_iff_toNat.1 h
  have hlt := toNat_sub_lt_of_isDigit h
  rw [Nat.toDigits_of_lt_base hlt, List.singleton_inj]
  apply Char.toNat_inj.1
  rw [Nat.toNat_digitChar_of_lt_ten hlt]
  change 48 + (c.toNat - 48) = c.toNat
  omega

/-- Digits are the digits of their number after some zeros. -/
theorem exists_zeros_of_isDigit {cs : List Char} (hne : cs ≠ [])
    (hd : ∀ c ∈ cs, c.isDigit = true) :
    ∃ zeros, cs = List.replicate zeros '0' ++ Nat.toDigits 10 (Nat.ofDigitChars 10 cs 0) := by
  -- The last digit is split off: it is the one that is left of a number divided by ten.
  induction cs using List.reverseRecOn with
  | nil => exact absurd rfl hne
  | append_singleton cs c ih =>
    obtain ⟨hcs, hc⟩ := List.forall_mem_append.1 hd
    have hc : c.isDigit = true := hc c (List.mem_singleton_self c)
    have hlast := toDigits_of_isDigit hc
    have hvalue : Nat.ofDigitChars 10 (cs ++ [c]) 0 =
        10 * Nat.ofDigitChars 10 cs 0 + (c.toNat - '0'.toNat) := by
      rw [Nat.ofDigitChars_append, Nat.ofDigitChars_cons, Nat.ofDigitChars_nil]
    rw [hvalue]
    rcases eq_or_ne cs [] with rfl | hfront
    · refine ⟨0, ?_⟩
      rw [Nat.ofDigitChars_nil, Nat.mul_zero, Nat.zero_add, hlast]
      rfl
    · obtain ⟨zeros, hzeros⟩ := ih hfront hcs
      rcases Nat.eq_zero_or_pos (Nat.ofDigitChars 10 cs 0) with hzero | hpos
      · refine ⟨zeros + 1, ?_⟩
        rw [hzero] at hzeros
        rw [hzero, Nat.mul_zero, Nat.zero_add, hlast, List.replicate_succ']
        exact congrArg (· ++ [c]) hzeros
      · refine ⟨zeros, ?_⟩
        rw [← Nat.toDigits_append_toDigits (by omega) hpos (toNat_sub_lt_of_isDigit hc), hlast,
          ← List.append_assoc, ← hzeros]

theorem isDigit_of_mem_zeros {zeros n : Nat} {c : Char}
    (h : c ∈ List.replicate zeros '0' ++ Nat.toDigits 10 n) : c.isDigit = true := by
  rcases List.mem_append.1 h with h | h
  · rw [List.eq_of_mem_replicate h]
    rfl
  · exact Nat.isDigit_of_mem_toDigits (by omega) (by omega) h

/-- A number is read from its digits, with or without zeros before them, and from nothing else. -/
theorem digits?_eq_some_iff_zeros {cs : List Char} {n : Nat} : digits? cs = some n ↔
    ∃ zeros, cs = List.replicate zeros '0' ++ Nat.toDigits 10 n := by
  rw [digits?_eq_some_iff]
  constructor
  · intro h
    obtain ⟨hne, hd, rfl⟩ := h
    exact exists_zeros_of_isDigit hne hd
  · intro h
    obtain ⟨zeros, rfl⟩ := h
    refine ⟨List.append_ne_nil_of_right_ne_nil _ Nat.toDigits_ne_nil,
      fun _ => isDigit_of_mem_zeros, ?_⟩
    rw [Nat.ofDigitChars_append, Nat.ofDigitChars_replicate_zero, Nat.mul_zero,
      Nat.ofDigitChars_ten_toDigits]

end Digits

/-- The signs with which an integer is written: a minus unless it is positive, a plus or none unless
it is negative. -/
inductive IsSign : List Char → Int → Prop
  | none {n : Int} (h : 0 ≤ n) : IsSign [] n
  | plus {n : Int} (h : 0 ≤ n) : IsSign ['+'] n
  | minus {n : Int} (h : n ≤ 0) : IsSign ['-'] n

/-- Characters write an integer: a sign, zeros, and the digits of its absolute value. -/
def WritesInteger (cs : List Char) (n : Int) : Prop :=
  ∃ sign zeros, IsSign sign n ∧
    cs = sign ++ (List.replicate zeros '0' ++ Nat.toDigits 10 n.natAbs)

/-- A text spells an integer that is written in it between white space. -/
def SpellsInteger (s : String) (n : Int) : Prop :=
  ∃ before cs after, s.toList = before ++ (cs ++ after) ∧ WritesInteger cs n ∧
    (∀ c ∈ before, Text.isBlank c = true) ∧ ∀ c ∈ after, Text.isBlank c = true

def IsInteger64 (n : Int) : Prop := -2 ^ 63 ≤ n ∧ n < 2 ^ 63

/-- The integer written by digits after an optional sign, of any length. -/
def integer? : List Char → Option Int
  | '+' :: cs => (digits? cs).map Int.ofNat
  | '-' :: cs => (digits? cs).map fun n : Nat => -(n : Int)
  | cs => (digits? cs).map Int.ofNat

theorem signed64?_eq_some_iff {s : String} {n : Int} :
    signed64? s = some n ↔ integer? s.toList = some n ∧ IsInteger64 n := by
  have heq : signed64? s = (integer? s.toList).filter fun n =>
      Int64.minValue.toInt ≤ n && n ≤ Int64.maxValue.toInt := by
    have hneg (cs : List Char) : (Option.map (fun m => -m) do pure ((← digits? cs) : Int)) =
        (digits? cs).map fun m : Nat => -(m : Int) := by
      cases digits? cs <;> rfl
    simp only [signed64?, hneg]
    rfl
  have hmin : Int64.minValue.toInt = -2 ^ 63 := by decide
  have hmax : Int64.maxValue.toInt = 2 ^ 63 - 1 := by decide
  rw [heq, Option.filter_eq_some_iff, IsInteger64, hmin, hmax, Bool.and_eq_true, decide_eq_true_eq,
    decide_eq_true_eq, Int.le_sub_one_iff]

section Reading
variable {cs : List Char} {n : Int}

theorem WritesInteger.isDigit_or (h : WritesInteger cs n) {c : Char} (hc : c ∈ cs) :
    c.isDigit = true ∨ c ∈ ['+', '-'] := by
  obtain ⟨sign, zeros, hsign, rfl⟩ := h
  rcases List.mem_append.1 hc with hc | hc
  · right
    cases hsign with
    | none => cases hc
    | plus | minus =>
      rw [List.mem_singleton.1 hc]
      decide
  · exact .inl (isDigit_of_mem_zeros hc)

theorem WritesInteger.isBlank_eq_false (h : WritesInteger cs n) {c : Char} (hc : c ∈ cs) :
    Text.isBlank c = false := by
  rcases h.isDigit_or hc with hd | hsign
  · exact isBlank_of_isDigit hd
  · obtain rfl | rfl : c = '+' ∨ c = '-' := by simpa using hsign
    · decide
    · decide

theorem map_ofNat_digits?_eq_some_iff : (digits? cs).map Int.ofNat = some n ↔
    0 ≤ n ∧ ∃ zeros, cs = List.replicate zeros '0' ++ Nat.toDigits 10 n.natAbs := by
  simp only [Option.map_eq_some_iff, digits?_eq_some_iff_zeros]
  constructor
  · intro h
    obtain ⟨m, hcs, rfl⟩ := h
    exact ⟨Int.natCast_nonneg m, hcs⟩
  · intro h
    exact ⟨n.natAbs, h.2, Int.natAbs_of_nonneg h.1⟩

theorem map_neg_digits?_eq_some_iff : ((digits? cs).map fun m : Nat => -(m : Int)) = some n ↔
    n ≤ 0 ∧ ∃ zeros, cs = List.replicate zeros '0' ++ Nat.toDigits 10 n.natAbs := by
  simp only [Option.map_eq_some_iff, digits?_eq_some_iff_zeros]
  constructor
  · intro h
    obtain ⟨m, hcs, rfl⟩ := h
    rw [Int.natAbs_neg, Int.natAbs_natCast]
    exact ⟨by omega, hcs⟩
  · intro h
    exact ⟨n.natAbs, h.2, by omega⟩

/-- An integer is read from the characters that write it. -/
theorem integer?_eq_some_iff : integer? cs = some n ↔ WritesInteger cs n := by
  have hdigit {c : Char} {rest : List Char} {zeros m : Nat}
      (h : c :: rest = List.replicate zeros '0' ++ Nat.toDigits 10 m) : c.isDigit = true :=
    isDigit_of_mem_zeros (h ▸ List.mem_cons_self)
  unfold integer?
  split
  · rw [map_ofNat_digits?_eq_some_iff]
    constructor
    · intro h
      obtain ⟨hn, zeros, rfl⟩ := h
      exact ⟨['+'], zeros, .plus hn, rfl⟩
    · intro h
      obtain ⟨sign, zeros, hsign, hcs⟩ := h
      cases hsign with
      | none => exact absurd (hdigit hcs) (by decide)
      | plus hn => exact ⟨hn, zeros, (List.cons.inj hcs).2⟩
      | minus => exact absurd (List.cons.inj hcs).1 (by decide)
  · rw [map_neg_digits?_eq_some_iff]
    constructor
    · intro h
      obtain ⟨hn, zeros, rfl⟩ := h
      exact ⟨['-'], zeros, .minus hn, rfl⟩
    · intro h
      obtain ⟨sign, zeros, hsign, hcs⟩ := h
      cases hsign with
      | none => exact absurd (hdigit hcs) (by decide)
      | plus => exact absurd (List.cons.inj hcs).1 (by decide)
      | minus hn => exact ⟨hn, zeros, (List.cons.inj hcs).2⟩
  · next hplus hminus =>
    rw [map_ofNat_digits?_eq_some_iff]
    constructor
    · intro h
      obtain ⟨hn, zeros, rfl⟩ := h
      exact ⟨[], zeros, .none hn, rfl⟩
    · intro h
      obtain ⟨sign, zeros, hsign, hcs⟩ := h
      cases hsign with
      | none hn => exact ⟨hn, zeros, hcs⟩
      | plus => exact absurd hcs (hplus _)
      | minus => exact absurd hcs (hminus _)

/-- Between white space, an integer is read from the texts that spell it. -/
theorem integer?_trim_eq_some_iff {s : String} :
    integer? (Text.trim s).toList = some n ↔ SpellsInteger s n := by
  rw [integer?_eq_some_iff]
  constructor
  · intro h
    obtain ⟨before, after, hs, hbefore, hafter⟩ := Text.exists_around_trim s
    refine ⟨before.toList, _, after.toList, ?_, h, hbefore, hafter⟩
    rw [← List.append_assoc, ← String.toList_append, ← String.toList_append, ← hs]
  · intro h
    obtain ⟨before, cs, after, hs, hcs, hbefore, hafter⟩ := h
    rw [Text.trim_eq_of_around hs hbefore hafter fun _ => hcs.isBlank_eq_false,
      String.toList_ofList]
    exact hcs

theorem signed64?_trim_eq_some_iff {s : String} :
    signed64? (Text.trim s) = some n ↔ SpellsInteger s n ∧ IsInteger64 n := by
  rw [signed64?_eq_some_iff, integer?_trim_eq_some_iff]

/-- A text spells one integer at most. -/
theorem SpellsInteger.eq {s : String} {m : Int} (h : SpellsInteger s n) (h' : SpellsInteger s m) :
    n = m := by
  rw [← integer?_trim_eq_some_iff] at h h'
  exact Option.some.inj (h.symm.trans h')

end Reading

section Caseless

theorem toLower_eq_self {c : Char} (h : (c.isDigit = true ∨ c ∈ ['+', '-']) ∨
    c.toLower.isDigit = true ∨ c.toLower ∈ ['+', '-']) : c.toLower = c := by
  by_cases hc : isNameChar c = true
  · have hsign (d : Char) (hd : d ∈ ['+', '-']) : isNameChar d = false := by
      obtain rfl | rfl : d = '+' ∨ d = '-' := by simpa using hd
      · decide
      · decide
    have hdigit : c.isDigit = true → c.toLower = c :=
      forall_isNameChar (P := fun c => c.isDigit = true → c.toLower = c) (by decide +kernel) hc
    have hlower : isNameChar c.toLower = true := (isNameChar_toLower c).trans hc
    rcases h with (h | h) | h | h
    · exact hdigit h
    · exact absurd hc (by simp [hsign c h])
    · exact hdigit ((toLower_of_isNameChar hc).2.2.2 ▸ h)
    · exact absurd hlower (by simp [hsign _ h])
  · exact toLower_of_not_isNameChar (by simpa using hc)

/-- The case of letters does not matter for what integer characters write. -/
theorem integer?_map_toLower (cs : List Char) : integer? (cs.map Char.toLower) = integer? cs := by
  have hmap (h : ∀ c ∈ cs, c.toLower = c) : cs.map Char.toLower = cs :=
    (List.map_congr_left h).trans (List.map_id cs)
  refine Option.ext fun n => ?_
  constructor
  · intro h
    have hwrites := integer?_eq_some_iff.1 h
    have hsame : cs.map Char.toLower = cs :=
      hmap fun c hc => toLower_eq_self (.inr (hwrites.isDigit_or (List.mem_map_of_mem hc)))
    rwa [hsame] at h
  · intro h
    have hwrites := integer?_eq_some_iff.1 h
    rw [hmap fun c hc => toLower_eq_self (.inl (hwrites.isDigit_or hc))]
    exact h

theorem signed64?_lowerAscii (s : String) : signed64? (Text.lowerAscii s) = signed64? s := by
  refine Option.ext fun n => ?_
  rw [signed64?_eq_some_iff, signed64?_eq_some_iff, Text.toList_lowerAscii, integer?_map_toLower]

end Caseless

end Tabular
