import Mathlib.Algebra.Group.Nat.Defs
import Tabular.Text.Utf8.RoundTrip

/-! Bytes that are decoded lossily: those below 0x80 are characters of their own wherever they stand,
and no other bytes show such characters. -/
namespace Tabular.Text.Utf8

def Piece.shown : Piece → Char
  | char c => c
  | broken _ | cut => '\uFFFD'

theorem toList_decodeLossy (bytes : List UInt8) :
    (decodeLossy bytes).toList = (pieces bytes).map Piece.shown := by
  rw [decodeLossy, String.toList_ofList]
  congr 1
  funext p
  cases p <;> rfl

theorem piecesFrom_none_cons (b : UInt8) (rest : List UInt8) :
    piecesFrom none (b :: rest) = (start b).1 ++ piecesFrom (start b).2 rest := rfl

theorem piecesFrom_some_cons (u : Unfinished) (b : UInt8) (rest : List UInt8) :
    piecesFrom (some u) (b :: rest) =
      if u.low ≤ b ∧ b ≤ u.high then
        if u.missing ≤ 1 then
          .char (Char.ofNat (u.value * 0x40 + (b.toNat - 0x80))) :: piecesFrom none rest
        else
          piecesFrom
            (some ⟨u.value * 0x40 + (b.toNat - 0x80), u.seen + 1, u.missing - 1, 0x80, 0xBF⟩) rest
      else .broken u.seen :: piecesFrom none (b :: rest) := by
  rw [piecesFrom_none_cons, piecesFrom]
  simp only [Bool.and_eq_true, decide_eq_true_eq]

/-- A character is unfinished whose next byte is not below 0x80, and that will not be below 0x80
itself. -/
structure Unfinished.Long (u : Unfinished) : Prop where
  low : 0x80 ≤ u.low.toNat
  least : 0x80 ≤ (u.value * 0x40 + (u.low.toNat - 0x80)) * 0x40 ^ (u.missing - 1)

theorem start_of_lt {b : UInt8} (h : b.toNat < 0x80) :
    start b = ([.char (Char.ofNat b.toNat)], none) :=
  if_pos h

/-- A byte that is no character begins a long one, or none. -/
theorem start_of_le {b : UInt8} (h : 0x80 ≤ b.toNat) :
    start b = ([.broken 1], none) ∨ ∃ u, start b = ([], some u) ∧ u.Long := by
  have hb : ¬b.toNat < 0x80 := Nat.not_lt.2 h
  unfold start
  dsimp only
  rw [if_neg hb]
  split
  · exact .inl rfl
  · split
    · refine .inr ⟨_, rfl, Nat.le_refl _, ?_⟩
      dsimp only
      omega
    · split
      · refine .inr ⟨_, rfl, ?_, ?_⟩
        · dsimp only
          split <;> decide
        · dsimp only
          split
          · next he => rw [he]; decide
          · omega
      · split
        · refine .inr ⟨_, rfl, ?_, ?_⟩
          · dsimp only
            split <;> decide
          · dsimp only
            split
            · next he => rw [he]; decide
            · omega
        · exact .inl rfl

theorem Unfinished.Long.le_value {u : Unfinished} (h : u.Long) {b : UInt8} (hlow : u.low ≤ b)
    (hm : u.missing ≤ 1) : 0x80 ≤ u.value * 0x40 + (b.toNat - 0x80) := by
  have hleast := h.least
  rw [Nat.sub_eq_zero_of_le hm, Nat.pow_zero, Nat.mul_one] at hleast
  have hlow := UInt8.le_iff_toNat_le.1 hlow
  omega

theorem Unfinished.Long.next {u : Unfinished} (h : u.Long) {b : UInt8} (hlow : u.low ≤ b)
    (hm : ¬u.missing ≤ 1) :
    Long ⟨u.value * 0x40 + (b.toNat - 0x80), u.seen + 1, u.missing - 1, 0x80, 0xBF⟩ := by
  refine ⟨Nat.le_refl _, ?_⟩
  have hlow := UInt8.le_iff_toNat_le.1 hlow
  have hpow : 0x40 ^ (u.missing - 1) = 0x40 * 0x40 ^ (u.missing - 1 - 1) := by
    rw [← Nat.pow_succ']
    congr 1
    omega
  have hzero : (0x80 : UInt8).toNat - 0x80 = 0 := rfl
  dsimp only
  rw [hzero, Nat.add_zero, Nat.mul_assoc, ← hpow]
  exact Nat.le_trans h.least (Nat.mul_le_mul_right _ (by omega))

def Open (state : Option Unfinished) : Prop := ∀ u ∈ state, u.Long

theorem open_none : Open none := nofun

theorem open_start (b : UInt8) : Open (start b).2 := by
  by_cases hb : b.toNat < 0x80
  · rw [start_of_lt hb]
    exact open_none
  · rcases start_of_le (Nat.not_lt.1 hb) with h | ⟨u, h, hu⟩
    · rw [h]
      exact open_none
    · rw [h]
      exact fun v hv => Option.mem_some_iff.1 hv ▸ hu

/-- A byte below 0x80 is a character, whatever stands before it. -/
theorem shown_piecesFrom_append {state : Option Unfinished} (h : Open state) {b : UInt8}
    (hb : b.toNat < 0x80) (before rest : List UInt8) :
    (piecesFrom state (before ++ b :: rest)).map Piece.shown =
      (piecesFrom state before).map Piece.shown ++
        Char.ofNat b.toNat :: (piecesFrom none rest).map Piece.shown := by
  have hnone : piecesFrom none (b :: rest) = .char (Char.ofNat b.toNat) :: piecesFrom none rest := by
    rw [piecesFrom_none_cons, start_of_lt hb]
    rfl
  induction before generalizing state with
  | nil =>
    cases state with
    | none =>
      rw [List.nil_append, hnone]
      rfl
    | some u =>
      have hlow : ¬u.low ≤ b := by
        have := (h u rfl).low
        rw [UInt8.le_iff_toNat_le]
        omega
      rw [List.nil_append, piecesFrom_some_cons, if_neg fun hin => hlow hin.1, hnone]
      rfl
  | cons a before ih =>
    have hstart : (piecesFrom none (a :: (before ++ b :: rest))).map Piece.shown =
        (piecesFrom none (a :: before)).map Piece.shown ++
          Char.ofNat b.toNat :: (piecesFrom none rest).map Piece.shown := by
      rw [piecesFrom_none_cons, piecesFrom_none_cons, List.map_append, List.map_append,
        ih (open_start a), List.append_assoc]
    cases state with
    | none => exact hstart
    | some u =>
      rw [List.cons_append, piecesFrom_some_cons, piecesFrom_some_cons]
      split
      · next hin =>
        split
        · rw [List.map_cons, ih open_none]
          rfl
        · next hm => exact ih fun v hv => Option.mem_some_iff.1 hv ▸ (h u rfl).next hin.1 hm
      · rw [List.map_cons, hstart]
        rfl

theorem toNat_char_ofNat {n : Nat} (h : n.isValidChar) : (Char.ofNat n).toNat = n := by
  rw [Char.ofNat, dif_pos h]
  rfl

section Below
variable {c : Char}

theorem ne_replacement (hc : c.toNat < 0x80) : c ≠ '\uFFFD' := by
  rintro rfl
  exact absurd hc (by decide)

theorem ne_char_ofNat (hc : c.toNat < 0x80) (h0 : c ≠ '\x00') {n : Nat} (hn : 0x80 ≤ n) :
    c ≠ Char.ofNat n := by
  rintro rfl
  by_cases hvalid : n.isValidChar
  · rw [toNat_char_ofNat hvalid] at hc
    exact absurd hc (Nat.not_lt.2 hn)
  · exact h0 (dif_neg hvalid)

/-- A byte that starts anew shows a character below 0x80 only if it is that character. -/
theorem eq_of_mem_shown_start (hc : c.toNat < 0x80) {b : UInt8}
    (hm : c ∈ (start b).1.map Piece.shown) : UInt8.ofNat c.toNat = b := by
  by_cases hb : b.toNat < 0x80
  · rw [start_of_lt hb] at hm
    have hchar : c = Char.ofNat b.toNat := List.mem_singleton.1 hm
    have hvalid : b.toNat.isValidChar := .inl (Nat.lt_of_lt_of_le hb (by decide))
    rw [hchar, toNat_char_ofNat hvalid, UInt8.ofNat_toNat]
  · rcases start_of_le (Nat.not_lt.1 hb) with hs | ⟨u, hs, -⟩
    · rw [hs] at hm
      exact absurd (List.mem_singleton.1 hm) (ne_replacement hc)
    · rw [hs] at hm
      cases hm

/-- A character below 0x80, but for the null character, is shown by its own byte alone. -/
theorem mem_of_mem_shown {state : Option Unfinished} (h : Open state) (hc : c.toNat < 0x80)
    (h0 : c ≠ '\x00') {bytes : List UInt8} (hm : c ∈ (piecesFrom state bytes).map Piece.shown) :
    UInt8.ofNat c.toNat ∈ bytes := by
  induction bytes generalizing state with
  | nil =>
    cases state with
    | none => cases hm
    | some u => exact absurd (List.mem_singleton.1 hm) (ne_replacement hc)
  | cons b rest ih =>
    have hstart : c ∈ (piecesFrom none (b :: rest)).map Piece.shown →
        UInt8.ofNat c.toNat ∈ b :: rest := by
      intro hm
      rw [piecesFrom_none_cons, List.map_append, List.mem_append] at hm
      rcases hm with hm | hm
      · rw [eq_of_mem_shown_start hc hm]
        exact List.mem_cons_self
      · exact List.mem_cons_of_mem _ (ih (open_start b) hm)
    cases state with
    | none => exact hstart hm
    | some u =>
      rw [piecesFrom_some_cons] at hm
      split at hm
      · next hin =>
        split at hm
        · next hmissing =>
          have hvalue := (h u rfl).le_value hin.1 hmissing
          rcases List.mem_cons.1 hm with hm | hm
          · exact absurd hm (ne_char_ofNat hc h0 hvalue)
          · exact List.mem_cons_of_mem _ (ih open_none hm)
        · next hmissing =>
          have hnext := (h u rfl).next hin.1 hmissing
          exact List.mem_cons_of_mem _ (ih (fun v hv => Option.mem_some_iff.1 hv ▸ hnext) hm)
      · rcases List.mem_cons.1 hm with hm | hm
        · exact absurd hm (ne_replacement hc)
        · exact hstart hm

end Below

end Tabular.Text.Utf8
