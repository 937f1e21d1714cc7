import Tabular.Text.Utf8

/-! Decoding reads back what encoding writes. -/
namespace Tabular.Text.Utf8

theorem toNat_ofNat_of_lt {n : Nat} (h : n < 256) : (UInt8.ofNat n).toNat = n := by
  simp [UInt8.toNat_ofNat', Nat.mod_eq_of_lt h]

theorem toNat_continuation (n : Nat) : (continuation n).toNat = 0x80 + n % 0x40 := by
  rw [continuation, toNat_ofNat_of_lt (by omega)]

theorem piecesFrom_middle {u : Unfinished} {b : UInt8} (hlow : u.low.toNat ≤ b.toNat) (hhigh : b.toNat ≤ u.high.toNat)
    (hm : 2 ≤ u.missing) (rest : List UInt8) :
    piecesFrom (some u) (b :: rest) =
      piecesFrom (some ⟨u.value * 0x40 + (b.toNat - 0x80), u.seen + 1, u.missing - 1, 0x80, 0xBF⟩) rest := by
  have hl : u.low ≤ b := UInt8.le_iff_toNat_le.2 hlow
  have hh : b ≤ u.high := UInt8.le_iff_toNat_le.2 hhigh
  have hm' : ¬ u.missing ≤ 1 := by omega
  simp [piecesFrom, hl, hh, hm']

theorem piecesFrom_last {u : Unfinished} {b : UInt8} (hlow : u.low.toNat ≤ b.toNat) (hhigh : b.toNat ≤ u.high.toNat)
    (hm : u.missing ≤ 1) (rest : List UInt8) :
    piecesFrom (some u) (b :: rest) =
      .char (Char.ofNat (u.value * 0x40 + (b.toNat - 0x80))) :: piecesFrom none rest := by
  have hl : u.low ≤ b := UInt8.le_iff_toNat_le.2 hlow
  have hh : b ≤ u.high := UInt8.le_iff_toNat_le.2 hhigh
  simp [piecesFrom, hl, hh, hm]

theorem toNat_bounds (c : Char) : c.toNat < 0xD800 ∨ 0xDFFF < c.toNat ∧ c.toNat < 0x110000 := c.valid

section Widths
variable {n : Nat}

theorem start_two (hlow : 0x80 ≤ n) (hhigh : n < 0x800) :
    start (UInt8.ofNat (0xC0 + n / 0x40)) = ([], some ⟨n / 0x40, 1, 1, 0x80, 0xBF⟩) := by
  have hb : (UInt8.ofNat (0xC0 + n / 0x40)).toNat = 0xC0 + n / 0x40 := toNat_ofNat_of_lt (by omega)
  simp only [start, hb]
  rw [if_neg (by omega), if_neg (by omega), if_pos (by omega), Nat.add_sub_cancel_left]

theorem start_three (hhigh : n < 0x10000) :
    start (UInt8.ofNat (0xE0 + n / 0x1000)) =
      ([], some ⟨n / 0x1000, 1, 2, if 0xE0 + n / 0x1000 = 0xE0 then 0xA0 else 0x80,
        if 0xE0 + n / 0x1000 = 0xED then 0x9F else 0xBF⟩) := by
  have hb : (UInt8.ofNat (0xE0 + n / 0x1000)).toNat = 0xE0 + n / 0x1000 :=
    toNat_ofNat_of_lt (by omega)
  simp only [start, hb]
  rw [if_neg (by omega), if_neg (by omega), if_neg (by omega), if_pos (by omega),
    Nat.add_sub_cancel_left]

theorem start_four (hhigh : n < 0x110000) :
    start (UInt8.ofNat (0xF0 + n / 0x40000)) =
      ([], some ⟨n / 0x40000, 1, 3, if 0xF0 + n / 0x40000 = 0xF0 then 0x90 else 0x80,
        if 0xF0 + n / 0x40000 = 0xF4 then 0x8F else 0xBF⟩) := by
  have hb : (UInt8.ofNat (0xF0 + n / 0x40000)).toNat = 0xF0 + n / 0x40000 :=
    toNat_ofNat_of_lt (by omega)
  simp only [start, hb]
  rw [if_neg (by omega), if_neg (by omega), if_neg (by omega), if_neg (by omega),
    if_pos (by omega), Nat.add_sub_cancel_left]

theorem piecesFrom_two (hlow : 0x80 ≤ n) (hhigh : n < 0x800) (rest : List UInt8) :
    piecesFrom none (UInt8.ofNat (0xC0 + n / 0x40) :: continuation n :: rest) =
      .char (Char.ofNat n) :: piecesFrom none rest := by
  have hk := toNat_continuation n
  have hvalue : n / 0x40 * 0x40 + ((continuation n).toNat - 0x80) = n := by omega
  rw [piecesFrom, start_two hlow hhigh, List.nil_append, piecesFrom_last, hvalue]
  · simp [hk]
  · simp [hk]; omega
  · simp

/-- The bounds on the second byte leave out the surrogates and what needs only two bytes. -/
theorem piecesFrom_three (hlow : 0x800 ≤ n) (hhigh : n < 0x10000)
    (hvalid : n < 0xD800 ∨ 0xDFFF < n) (rest : List UInt8) :
    piecesFrom none
        (UInt8.ofNat (0xE0 + n / 0x1000) :: continuation (n / 0x40) :: continuation n :: rest) =
      .char (Char.ofNat n) :: piecesFrom none rest := by
  have hk := toNat_continuation n
  have hk' := toNat_continuation (n / 0x40)
  have hvalue : (n / 0x1000 * 0x40 + ((continuation (n / 0x40)).toNat - 0x80)) * 0x40 +
      ((continuation n).toNat - 0x80) = n := by omega
  rw [piecesFrom, start_three hhigh, List.nil_append, piecesFrom_middle, piecesFrom_last, hvalue]
  · simp [hk]
  · simp [hk]; omega
  · simp
  · simp only [hk']; split <;> simp; omega
  · simp only [hk']; split <;> simp <;> omega
  · simp

/-- The bounds on the second byte leave out what needs only three bytes and what is no character. -/
theorem piecesFrom_four (hlow : 0x10000 ≤ n) (hhigh : n < 0x110000) (rest : List UInt8) :
    piecesFrom none (UInt8.ofNat (0xF0 + n / 0x40000) :: continuation (n / 0x1000) ::
        continuation (n / 0x40) :: continuation n :: rest) =
      .char (Char.ofNat n) :: piecesFrom none rest := by
  have hk := toNat_continuation n
  have hk' := toNat_continuation (n / 0x40)
  have hk'' := toNat_continuation (n / 0x1000)
  have hvalue : ((n / 0x40000 * 0x40 + ((continuation (n / 0x1000)).toNat - 0x80)) * 0x40 +
      ((continuation (n / 0x40)).toNat - 0x80)) * 0x40 + ((continuation n).toNat - 0x80) = n := by
    omega
  rw [piecesFrom, start_four hhigh, List.nil_append, piecesFrom_middle, piecesFrom_middle,
    piecesFrom_last, hvalue]
  · simp [hk]
  · simp [hk]; omega
  · simp
  · simp [hk']
  · simp [hk']; omega
  · simp
  · simp only [hk'']; split <;> simp; omega
  · simp only [hk'']; split <;> simp <;> omega
  · simp

end Widths

/-- The bytes of a character are read back as that character. -/
theorem piecesFrom_encodeChar (c : Char) (rest : List UInt8) :
    piecesFrom none (encodeChar c ++ rest) = .char c :: piecesFrom none rest := by
  have hvalid := toNat_bounds c
  have hc : Char.ofNat c.toNat = c := Char.ofNat_toNat c
  rw [encodeChar]
  generalize c.toNat = n at hvalid hc ⊢
  split
  · next h1 =>
    have hb : (UInt8.ofNat n).toNat = n := toNat_ofNat_of_lt (by omega)
    simp [piecesFrom, start, hb, h1, hc]
  · next h1 =>
    split
    · next h2 => exact (piecesFrom_two (Nat.not_lt.1 h1) h2 rest).trans (by rw [hc])
    · next h2 =>
      split
      · next h3 =>
        exact (piecesFrom_three (Nat.not_lt.1 h2) h3 (by omega) rest).trans (by rw [hc])
      · next h3 => exact (piecesFrom_four (Nat.not_lt.1 h3) (by omega) rest).trans (by rw [hc])

theorem pieces_flatMap_encodeChar (cs : List Char) : pieces (cs.flatMap encodeChar) = cs.map .char := by
  rw [pieces]
  induction cs with
  | nil => rfl
  | cons c rest ih => rw [List.flatMap_cons, piecesFrom_encodeChar, ih, List.map_cons]

theorem charsFrom_map_char (index : Nat) (cs : List Char) : charsFrom index (cs.map .char) = .ok cs := by
  induction cs generalizing index with
  | nil => rfl
  | cons c rest ih => rw [List.map_cons, charsFrom, ih]; rfl

/-- A text is read back from its bytes. -/
theorem decode_encode (s : String) : decode (encode s) = .ok s := by
  rw [decode, encode, pieces_flatMap_encodeChar, charsFrom_map_char]
  simp [Except.map]

end Tabular.Text.Utf8
