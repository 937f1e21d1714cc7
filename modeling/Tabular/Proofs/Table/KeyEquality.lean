import Mathlib.Logic.Relation
import Tabular.Cell
import Tabular.Proofs.Number.Spellings

/-! Which join keys match: those that stand for the same integer of 64 bits, or for the same text up
to the case of ASCII letters. -/
namespace Tabular

/-- What a join key stands for: the integer of 64 bits that it spells, or else its text without
white space around it, in lower case. -/
def keyValue (key : String) : Int ⊕ String :=
  match signed64? (Text.trim key) with
  | some n => .inl n
  | none => .inr (Text.lowerAscii (Text.trim key))

section Values
variable {key left right : String}

theorem keyValue_of_eq_some {n : Int} (h : signed64? (Text.trim key) = some n) :
    keyValue key = .inl n := by
  rw [keyValue, h]

theorem keyValue_of_eq_none (h : signed64? (Text.trim key) = none) :
    keyValue key = .inr (Text.lowerAscii (Text.trim key)) := by
  rw [keyValue, h]

/-- Keys are compared as texts unless both are integers. -/
theorem keysMatch_of_eq_none
    (h : signed64? (Text.trim left) = none ∨ signed64? (Text.trim right) = none) :
    keysMatch left right = Text.eqCaseless (Text.trim left) (Text.trim right) := by
  unfold keysMatch
  dsimp only
  rcases h with h | h
  · rw [h]
  · rw [h]
    cases signed64? (Text.trim left) <;> rfl

/-- Texts that differ in the case of letters alone are both integers or both none. -/
theorem signed64?_eq_of_eqCaseless (h : Text.eqCaseless left right = true) :
    signed64? left = signed64? right := by
  rw [← signed64?_lowerAscii left, Text.eqCaseless_iff.1 h, signed64?_lowerAscii]

/-- Keys match if they stand for the same. -/
theorem keysMatch_iff : keysMatch left right = true ↔ keyValue left = keyValue right := by
  cases hl : signed64? (Text.trim left) with
  | none =>
    rw [keysMatch_of_eq_none (.inl hl), keyValue_of_eq_none hl]
    cases hr : signed64? (Text.trim right) with
    | none => rw [keyValue_of_eq_none hr, Sum.inr.injEq, Text.eqCaseless_iff]
    | some n =>
      rw [keyValue_of_eq_some hr]
      refine ⟨fun h => ?_, nofun⟩
      have hsame := signed64?_eq_of_eqCaseless h
      rw [hl, hr] at hsame
      cases hsame
  | some m =>
    cases hr : signed64? (Text.trim right) with
    | none =>
      rw [keysMatch_of_eq_none (.inr hr), keyValue_of_eq_some hl, keyValue_of_eq_none hr]
      refine ⟨fun h => ?_, nofun⟩
      have hsame := signed64?_eq_of_eqCaseless h
      rw [hl, hr] at hsame
      cases hsame
    | some n =>
      rw [keyValue_of_eq_some hl, keyValue_of_eq_some hr, Sum.inl.injEq, keysMatch]
      simp only [hl, hr, beq_iff_eq]

theorem keysMatch_symm (left right : String) : keysMatch left right = keysMatch right left := by
  rw [Bool.eq_iff_iff, keysMatch_iff, keysMatch_iff]
  exact eq_comm

end Values

/-- To match is an equivalence of keys. A key is an integer if it spells one of 64 bits; it matches
every other spelling of that integer and no key that is none. A key that spells a greater integer is
compared as a text. -/
theorem keysMatch_equivalence :
    Equivalence (fun left right => keysMatch left right = true) ∧
      (∀ key n, signed64? (Text.trim key) = some n ↔ SpellsInteger key n ∧ IsInteger64 n) ∧
      (∀ left right n, IsInteger64 n → SpellsInteger left n → SpellsInteger right n →
        keysMatch left right = true) ∧
      (∀ left right, (signed64? (Text.trim left)).isSome = true →
        signed64? (Text.trim right) = none → keysMatch left right = false) ∧
      ∀ left right n, SpellsInteger left n → ¬IsInteger64 n →
        keysMatch left right = Text.eqCaseless (Text.trim left) (Text.trim right) := by
  refine ⟨?_, fun _ _ => signed64?_trim_eq_some_iff, fun left right n hn hl hr => ?_,
    fun left right hl hr => ?_, fun left right n hl hn => ?_⟩
  · have hvalues : Equivalence fun left right : String => keyValue left = keyValue right :=
      eq_equivalence.comap keyValue
    simpa only [keysMatch_iff] using hvalues
  · have hl := signed64?_trim_eq_some_iff.2 ⟨hl, hn⟩
    have hr := signed64?_trim_eq_some_iff.2 ⟨hr, hn⟩
    rw [keysMatch_iff, keyValue_of_eq_some hl, keyValue_of_eq_some hr]
  · obtain ⟨n, hn⟩ := Option.isSome_iff_exists.1 hl
    rw [Bool.eq_false_iff, Ne, keysMatch_iff, keyValue_of_eq_some hn, keyValue_of_eq_none hr]
    nofun
  · have hnone : signed64? (Text.trim left) = none := by
      rw [Option.eq_none_iff_forall_ne_some]
      intro m hm
      obtain ⟨hspells, hm⟩ := signed64?_trim_eq_some_iff.1 hm
      exact hn (hspells.eq hl ▸ hm)
    exact keysMatch_of_eq_none (.inl hnone)

/-- Spellings of one integer on both sides of the greatest one of 64 bits. -/
theorem keysMatch_equivalence_spellings :
    SpellsInteger " +09223372036854775807" 9223372036854775807 ∧
      keysMatch " +09223372036854775807" "9223372036854775807" = true ∧
      SpellsInteger " +09223372036854775808" 9223372036854775808 ∧
      keysMatch " +09223372036854775808" "9223372036854775808" = false := by
  have hspells {key : String} {n : Int} (h : integer? (Text.trim key).toList = some n) :
      SpellsInteger key n :=
    integer?_trim_eq_some_iff.1 h
  have hlast : SpellsInteger " +09223372036854775807" 9223372036854775807 :=
    hspells (by decide +kernel)
  have hplain : SpellsInteger "9223372036854775807" 9223372036854775807 :=
    hspells (by decide +kernel)
  have hnext : SpellsInteger " +09223372036854775808" 9223372036854775808 :=
    hspells (by decide +kernel)
  obtain ⟨-, -, hsame, -, htexts⟩ := keysMatch_equivalence
  refine ⟨hlast, hsame _ _ _ ⟨by decide, by decide⟩ hlast hplain, hnext, ?_⟩
  rw [htexts _ _ _ hnext fun h => absurd h.2 (by decide)]
  decide +kernel

end Tabular
