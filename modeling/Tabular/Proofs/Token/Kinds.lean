import Tabular.Proofs.Token.Names

/-! What the kind of a token and its text say of each other. -/
namespace Tabular

namespace Kind
variable {s : String}

/-- How a text of a kind with one spelling writes it. -/
def SpelledBy (s : String) : Kind → Prop
  | keyword word => Keyword.ofText? s = some word
  | symbol sign => s = sign.text
  | logical c => Text.eqCaseless s c.text = true
  | _ => True

theorem spelledBy_of_ofText? {k : Kind} (h : ofText? s = some k) : k.SpelledBy s := by
  unfold ofText? at h
  cases hk : Keyword.ofText? s with
  | some word =>
    rw [hk] at h
    cases h
    exact hk
  | none =>
    cases hm : Symbol.ofText? s with
    | some sign =>
      rw [hk, hm] at h
      cases h
      have htext : (sign.text == s) = true := by simpa using List.find?_some hm
      exact (beq_iff_eq.1 htext).symm
    | none =>
      cases hc : Connective.ofToken? s with
      | some c =>
        rw [hk, hm, hc] at h
        cases h
        simpa [SpelledBy] using List.find?_some hc
      | none =>
        cases ho : Comparison.ofToken? s with
        | some op =>
          rw [hk, hm, hc, ho] at h
          cases h
          trivial
        | none =>
          rw [hk, hm, hc, ho] at h
          change (if _ then _ else _) = _ at h
          split_ifs at h <;> cases h <;> trivial

theorem ofText?_eq_keyword {word : Keyword} :
    ofText? s = some (.keyword word) ↔ Keyword.ofText? s = some word := by
  refine ⟨fun h => spelledBy_of_ofText? h, fun h => ?_⟩
  unfold ofText?
  rw [h]
  rfl

theorem ofText?_eq_symbol {sign : Symbol} : ofText? s = some (.symbol sign) ↔ s = sign.text := by
  constructor
  · exact fun h => spelledBy_of_ofText? h
  · rintro rfl
    cases sign <;> decide

end Kind

theorem Keyword.upper_text (k : Keyword) : Text.upper k.text = k.text := by cases k <;> decide

theorem Keyword.text_injective {k l : Keyword} (h : k.text = l.text) : k = l := by
  revert h
  cases k <;> cases l <;> decide

namespace Token
variable {t : Token}

theorem ofText_eq_ok {s : String} : ofText s = .ok t ↔ t.text = s := by
  constructor
  · intro h
    unfold ofText ofText? at h
    split at h
    · next ht =>
      cases h
      split at ht <;> cases ht
      rfl
    · cases h
  · rintro rfl
    rw [ofText, ofText?_text]

theorem ofText_eq_error {s : String} {e : ParseError} :
    ofText s = .error e ↔ Kind.ofText? s = none ∧ e = .invalidToken s := by
  unfold ofText ofText?
  split
  · next ht =>
    split at ht
    · next hk => simp [hk]
    · cases ht
  · next ht =>
    split at ht
    · cases ht
    · next hk => simp [hk, eq_comm]

theorem kind_of_is {f : Fixed} (h : t.is f = true) : t.kind = f.kind := by
  rw [is, Bool.and_eq_true] at h
  obtain ⟨halike, htext⟩ := h
  have hspelled := Kind.spelledBy_of_ofText? t.kind_eq
  cases f with
  | keyword k =>
    cases hk : t.kind with
    | keyword word =>
      rw [hk] at hspelled
      have hword : word.text = Text.upper t.text := Keyword.text_eq_of_ofText? hspelled
      rw [upper_of_eqCaseless htext] at hword
      rw [Keyword.text_injective (hword.trans k.upper_text)]
      rfl
    | _ => rw [hk] at halike; cases halike
  | symbol m =>
    cases hk : t.kind with
    | symbol sign =>
      rw [hk] at hspelled
      rw [hspelled] at htext
      revert htext
      cases sign <;> cases m <;> decide
    | _ => rw [hk] at halike; cases halike
  | connective c =>
    cases hk : t.kind with
    | logical c' =>
      rw [hk] at hspelled
      have hsame := Text.eqCaseless_trans (Text.eqCaseless_symm hspelled) htext
      revert hsame
      cases c' <;> cases c <;> decide
    | _ => rw [hk] at halike; cases halike

theorem is_symbol_iff {m : Symbol} : t.is (.symbol m) = true ↔ t.kind = .symbol m := by
  refine ⟨kind_of_is, fun h => ?_⟩
  have htext := Kind.ofText?_eq_symbol.1 (h ▸ t.kind_eq)
  rw [is, h, htext]
  simp [Kind.alike, Fixed.kind, Fixed.text]

theorem is_connective_iff {c : Connective} :
    t.is (.connective c) = true ↔ t.kind = .logical c := by
  refine ⟨kind_of_is, fun h => ?_⟩
  have htext : Kind.SpelledBy t.text (.logical c) := Kind.spelledBy_of_ofText? (h ▸ t.kind_eq)
  rw [Kind.SpelledBy] at htext
  simp [is, h, Fixed.text, htext, Kind.alike, Fixed.kind]

/-- The words that stand for themselves, in upper case, wherever a name or literal may stand. -/
def IsTruth (t : Token) : Prop :=
  Text.eqCaseless t.text "TRUE" = true ∨ Text.eqCaseless t.text "FALSE" = true

theorem IsTruth.kind (h : t.IsTruth) : t.kind = .identifier := by
  have hid : Kind.ofText? t.text = some .identifier := by
    rcases h with h | h <;> exact ofText?_of_eqCaseless h (by decide)
  exact Option.some.inj (t.kind_eq.symm.trans hid)

/-- What a token stands for: itself, in upper case if it is one of `TRUE` and `FALSE`. -/
def value (t : Token) : String :=
  if Text.eqCaseless t.text "TRUE" then "TRUE"
  else if Text.eqCaseless t.text "FALSE" then "FALSE"
  else t.text

theorem value_eq_text {t : Token} (h : t.kind ≠ .identifier) : t.value = t.text := by
  rw [value, if_neg fun ht => h (IsTruth.kind (.inl ht)),
    if_neg fun hf => h (IsTruth.kind (.inr hf))]

theorem eqCaseless_value (t : Token) : Text.eqCaseless t.value t.text = true := by
  unfold value
  split
  · next h => exact Text.eqCaseless_symm h
  · split
    · next h => exact Text.eqCaseless_symm h
    · exact Text.eqCaseless_refl _

theorem ofText?_value (t : Token) : Kind.ofText? t.value = some t.kind := by
  unfold value
  split
  · next h =>
    rw [IsTruth.kind (.inl h)]
    decide
  · split
    · next h =>
      rw [IsTruth.kind (.inr h)]
      decide
    · exact t.kind_eq

end Token

namespace TokenReader

/-- A token stands for its value where its kind may stand, and everywhere if it is a star or one of
`TRUE` and `FALSE`. -/
theorem operand?_eq_some {allowed : Kind → Bool} {t : Token} {s : String} :
    operand? allowed t = some s ↔
      (t.kind = .symbol .star ∨ t.IsTruth ∨ allowed t.kind = true) ∧ t.value = s := by
  have hstar : t.kind = .symbol .star ↔ t.text = "*" := by
    rw [← Option.some.injEq, ← t.kind_eq, Kind.ofText?_eq_symbol]
    rfl
  unfold operand? Token.IsTruth Token.value
  rw [hstar]
  by_cases hs : t.text = "*"
  · have htrue : Text.eqCaseless "*" "TRUE" = false := by decide
    have hfalse : Text.eqCaseless "*" "FALSE" = false := by decide
    simp [hs, htrue, hfalse]
  · by_cases htrue : Text.eqCaseless t.text "TRUE" = true
    · simp [hs, htrue]
    · by_cases hfalse : Text.eqCaseless t.text "FALSE" = true
      · simp [hs, htrue, hfalse]
      · simp [hs, htrue, hfalse]

end TokenReader

end Tabular
