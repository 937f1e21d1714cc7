import Tabular.Proofs.Number.Digits
import Tabular.Statement.Parser

/-! Names: the tokens that name databases, tables and columns, and what their characters are. -/
namespace Tabular

def isNameChar (c : Char) : Bool := c.isAlphanum || c == '_'

/-- A name of a database or table: a star, or an identifier in lower case. -/
def IsName (s : String) : Prop :=
  s = "*" ∨ Kind.ofText? s = some .identifier ∧ Text.lowerAscii s = s

theorem isNameChar_of_isDigit {c : Char} (h : c.isDigit = true) : isNameChar c = true := by
  simp [isNameChar, Char.isAlphanum, h]

theorem toNat_lt_of_isNameChar {c : Char} (hc : isNameChar c = true) : c.toNat < 128 := by
  have hranges : (decide (c.val ≥ 'A'.val ∧ c.val ≤ 'Z'.val) ||
      (c.val ≥ 'a'.val && c.val ≤ 'z'.val) ||
      (c.val ≥ '0'.val && c.val ≤ '9'.val) || c == '_') = true := hc
  simp only [Bool.or_eq_true, Bool.and_eq_true, decide_eq_true_eq, beq_iff_eq,
    UInt32.le_iff_toNat_le] at hranges
  rcases hranges with ((⟨-, h⟩ | ⟨-, h⟩) | ⟨-, h⟩) | rfl
  · exact Nat.lt_of_le_of_lt h (by decide)
  · exact Nat.lt_of_le_of_lt h (by decide)
  · exact Nat.lt_of_le_of_lt h (by decide)
  · decide

/-- What holds of the first 128 characters holds of every character of ASCII. -/
theorem forall_ascii {P : Char → Prop} (h : ∀ n : Fin 128, P (Char.ofNat n)) {c : Char}
    (hc : c.toNat < 128) : P c := by
  have := h ⟨c.toNat, hc⟩
  rwa [Char.ofNat_toNat] at this

/-- What holds of the first 128 characters holds of every character of identifiers. -/
theorem forall_isNameChar {P : Char → Prop}
    (h : ∀ n : Fin 128, isNameChar (Char.ofNat n) = true → P (Char.ofNat n)) {c : Char}
    (hc : isNameChar c = true) : P c :=
  forall_ascii (P := fun c => isNameChar c = true → P c) h (toNat_lt_of_isNameChar hc) hc

theorem toLower_of_isNameChar {c : Char} (hc : isNameChar c = true) :
    isNameChar c.toLower = true ∧ c.toLower.toLower = c.toLower ∧
      Text.upperChar c.toLower = Text.upperChar c ∧ c.toLower.isDigit = c.isDigit :=
  forall_isNameChar (P := fun c => isNameChar c.toLower = true ∧ c.toLower.toLower = c.toLower ∧
    Text.upperChar c.toLower = Text.upperChar c ∧ c.toLower.isDigit = c.isDigit)
    (by decide +kernel) hc

/-- Lower case changes no character but those of identifiers. -/
theorem toLower_of_not_isNameChar {c : Char} (hc : isNameChar c = false) : c.toLower = c := by
  refine dif_neg fun hupper => ?_
  have hupper : c.isUpper = true := decide_eq_true hupper
  have hchar : isNameChar c = (c.isUpper || c.isLower || c.isDigit || c == '_') := rfl
  rw [hchar, hupper] at hc
  cases hc

theorem isNameChar_toLower (c : Char) : isNameChar c.toLower = isNameChar c := by
  cases hc : isNameChar c
  · rw [toLower_of_not_isNameChar hc, hc]
  · exact (toLower_of_isNameChar hc).1

theorem toLower_toLower (c : Char) : c.toLower.toLower = c.toLower := by
  cases hc : isNameChar c
  · rw [toLower_of_not_isNameChar hc, toLower_of_not_isNameChar hc]
  · exact (toLower_of_isNameChar hc).2.1

/-- Characters of identifiers have no other use in statements. -/
theorem isNameChar_ordinary {c : Char} (hc : isNameChar c = true) :
    c ∉ ['\t', '\n', '\r', '.', '+', '-', '\'', '(', ')', ',', ';', '*', '=', '<', '>', '!'] ∧
      Text.isBlank c = false :=
  forall_isNameChar (P := fun c =>
    c ∉ ['\t', '\n', '\r', '.', '+', '-', '\'', '(', ')', ',', ';', '*', '=', '<', '>', '!'] ∧
    Text.isBlank c = false) (by decide +kernel) hc

theorem isIdentifier_iff {s : String} :
    isIdentifier s = true ↔ s.toList ≠ [] ∧ ∀ c ∈ s.toList, isNameChar c = true := by
  simp [isIdentifier, isNameChar]

/-- A run of characters of identifiers writes a decimal exactly if all of them are digits. -/
theorem isWritten_of_isIdentifier {s : String} (h : isIdentifier s = true) :
    Decimal.isWritten s = s.toList.all Char.isDigit := by
  obtain ⟨hne, hs⟩ := isIdentifier_iff.1 h
  have hplain : ∀ c ∈ s.toList, c ∉ ['-', '+', '.'] := by
    intro c hc hm
    refine (isNameChar_ordinary (hs c hc)).1 ?_
    simp only [List.mem_cons, List.not_mem_nil, or_false] at hm
    rcases hm with rfl | rfl | rfl <;> decide
  have hempty : s.toList.isEmpty = false := List.isEmpty_eq_false_iff.2 hne
  rw [Decimal.isWritten, Decimal.ofText?_eq_digits? hplain, digits?, hempty]
  cases s.toList.all Char.isDigit <;> rfl

theorem Symbol.ofText?_of_isIdentifier {s : String} (h : isIdentifier s = true) :
    Symbol.ofText? s = none := by
  rw [Symbol.ofText?, List.find?_eq_none]
  intro m _ he
  have hmark : m.text.toList.all isNameChar = false := by cases m <;> rfl
  rw [beq_iff_eq.1 he, List.all_eq_true.2 (isIdentifier_iff.1 h).2] at hmark
  cases hmark

theorem isQuoted_of_isIdentifier {s : String} (h : isIdentifier s = true) : isQuoted s = false := by
  obtain ⟨hne, hs⟩ := isIdentifier_iff.1 h
  obtain ⟨c, rest, hl⟩ := List.exists_cons_of_ne_nil hne
  have hc : isNameChar c = true := hs c (by simp [hl])
  have hquote : c ≠ '\'' := by rintro rfl; exact absurd hc (by decide)
  simp [isQuoted, hl, hquote]

theorem Kind.ofText?_of_none {s : String} (hk : Keyword.ofText? s = none)
    (hm : Symbol.ofText? s = none) (hc : Connective.ofToken? s = none)
    (ho : Comparison.ofToken? s = none) :
    Kind.ofText? s = if Decimal.isWritten s then some .number
      else if isQuoted s then some .string
      else if isIdentifier s then some .identifier
      else none := by
  unfold Kind.ofText?
  rw [hk, hm, hc, ho]
  rfl

/-- A text is an identifier exactly if it has the characters of one, and is neither a word of the
language nor a number. -/
theorem ofText?_eq_identifier {s : String} :
    Kind.ofText? s = some .identifier ↔
      Keyword.ofText? s = none ∧ Connective.ofToken? s = none ∧ Comparison.ofToken? s = none ∧
        isIdentifier s = true ∧ s.toList.all Char.isDigit = false := by
  constructor
  · intro h
    simp only [Kind.ofText?, Option.orElse_eq_orElse, Option.orElse_eq_or, Option.or_eq_some_iff,
      Option.map_eq_some_iff, reduceCtorEq, and_false, exists_false, Option.map_eq_none_iff,
      false_or] at h
    obtain ⟨hk, -, hc, ho, h⟩ := h
    split at h
    · cases h
    · next hw =>
      split at h
      · cases h
      · split at h
        · next hi =>
          rw [isWritten_of_isIdentifier hi] at hw
          exact ⟨hk, hc, ho, hi, by simpa using hw⟩
        · cases h
  · rintro ⟨hk, hc, ho, hi, hd⟩
    rw [Kind.ofText?_of_none hk (Symbol.ofText?_of_isIdentifier hi) hc ho,
      isWritten_of_isIdentifier hi, hd, isQuoted_of_isIdentifier hi, hi]
    rfl

section Caseless
variable {s w : String}

/-- What does not tell the case of characters of identifiers does not tell texts that differ in
case. -/
theorem map_of_eqCaseless {α : Type} {f : Char → α}
    (hf : ∀ c, isNameChar c = true → f c.toLower = f c) (h : Text.eqCaseless s w = true) :
    s.toList.map f = w.toList.map f := by
  have hmap : s.toList.map Char.toLower = w.toList.map Char.toLower := beq_iff_eq.1 h
  have hlower (c : Char) : f c.toLower = f c := by
    cases hc : isNameChar c
    · rw [toLower_of_not_isNameChar hc]
    · exact hf c hc
  have hchars (u : String) : (u.toList.map Char.toLower).map f = u.toList.map f := by
    rw [List.map_map]
    exact List.map_congr_left fun c _ => hlower c
  rw [← hchars s, hmap, hchars]

theorem upper_of_eqCaseless (h : Text.eqCaseless s w = true) : Text.upper s = Text.upper w := by
  rw [Text.upper, Text.upper, List.flatMap_def, List.flatMap_def,
    map_of_eqCaseless (fun c hc => (toLower_of_isNameChar hc).2.2.1) h]

theorem eqCaseless_congr (h : Text.eqCaseless s w = true) (word : String) :
    Text.eqCaseless s word = Text.eqCaseless w word :=
  Bool.eq_iff_iff.2 ⟨Text.eqCaseless_trans (Text.eqCaseless_symm h), Text.eqCaseless_trans h⟩

theorem Keyword.ofText?_congr (h : Text.eqCaseless s w = true) :
    Keyword.ofText? s = Keyword.ofText? w := by
  rw [Keyword.ofText?, Keyword.ofText?, upper_of_eqCaseless h]

theorem Connective.ofToken?_congr (h : Text.eqCaseless s w = true) :
    Connective.ofToken? s = Connective.ofToken? w := by
  rw [Connective.ofToken?, Connective.ofToken?,
    funext fun c : Connective => eqCaseless_congr h c.text]

theorem Comparison.ofToken?_congr (h : Text.eqCaseless s w = true) :
    Comparison.ofToken? s = Comparison.ofToken? w := by
  rw [Comparison.ofToken?, Comparison.ofToken?,
    funext fun op : Comparison => eqCaseless_congr h op.text]

theorem isIdentifier_congr (h : Text.eqCaseless s w = true) :
    isIdentifier s = isIdentifier w := by
  have hmap := map_of_eqCaseless (fun c _ => isNameChar_toLower c) h
  have hchars (u : String) : isIdentifier u =
      (!(u.toList.map isNameChar).isEmpty && (u.toList.map isNameChar).all id) := by
    rw [List.isEmpty_map, List.all_map]
    rfl
  rw [hchars, hmap, hchars]

/-- What differs from an identifier in case only is one. -/
theorem ofText?_of_eqCaseless (h : Text.eqCaseless s w = true)
    (hw : Kind.ofText? w = some .identifier) : Kind.ofText? s = some .identifier := by
  obtain ⟨hk, hc, ho, hi, hd⟩ := ofText?_eq_identifier.1 hw
  have hdigits := map_of_eqCaseless (fun c hc => (toLower_of_isNameChar hc).2.2.2) h
  have hall (u : String) : u.toList.all Char.isDigit = (u.toList.map Char.isDigit).all id := by
    rw [List.all_map, Function.id_comp]
  rw [ofText?_eq_identifier, Keyword.ofText?_congr h, Connective.ofToken?_congr h,
    Comparison.ofToken?_congr h, isIdentifier_congr h, hall, hdigits, ← hall]
  exact ⟨hk, hc, ho, hi, hd⟩

theorem lowerAscii_lowerAscii (s : String) :
    Text.lowerAscii (Text.lowerAscii s) = Text.lowerAscii s := by
  apply String.toList_injective
  rw [Text.toList_lowerAscii, Text.toList_lowerAscii, List.map_map]
  exact List.map_congr_left fun c _ => toLower_toLower c

theorem eqCaseless_lowerAscii (s : String) : Text.eqCaseless (Text.lowerAscii s) s = true :=
  Text.eqCaseless_iff.2 (lowerAscii_lowerAscii s)

end Caseless

end Tabular
