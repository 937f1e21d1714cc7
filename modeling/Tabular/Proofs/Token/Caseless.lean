import Tabular.Proofs.Number.Decimals
import Tabular.Proofs.PairedOutcomes
import Tabular.Proofs.Token.Kinds

/-! Tokens that differ in the case of ASCII letters only: they are of one kind, and stand for texts
that differ in case only. -/
namespace Tabular

def Text.Caseless (s w : String) : Prop := Text.eqCaseless s w = true

instance (s w : String) : Decidable (Text.Caseless s w) := inferInstanceAs (Decidable (_ = true))

section Texts
variable {s w : String}

theorem isAlpha_toLower (c : Char) :
    c.toLower.isAlpha = c.isAlpha ∧ (c.isAlpha = false → c.toLower = c) := by
  cases hc : isNameChar c
  · rw [toLower_of_not_isNameChar hc]
    exact ⟨rfl, fun _ => rfl⟩
  · exact forall_isNameChar (P := fun c =>
      c.toLower.isAlpha = c.isAlpha ∧ (c.isAlpha = false → c.toLower = c)) (by decide +kernel) hc

/-- A text without letters is equal to no other one up to case. -/
theorem eq_of_caseless (h : Text.Caseless s w) (hw : ∀ c ∈ w.toList, c.isAlpha = false) :
    s = w := by
  have hmap : s.toList.map Char.toLower = w.toList.map Char.toLower := beq_iff_eq.1 h
  have hsame {cs : List Char} (hcs : ∀ c ∈ cs, c.isAlpha = false) : cs.map Char.toLower = cs :=
    (List.map_congr_left fun c hc => (isAlpha_toLower c).2 (hcs c hc)).trans (List.map_id' cs)
  have hs : ∀ c ∈ s.toList, c.isAlpha = false := by
    intro c hc
    have hmem : c.toLower ∈ s.toList.map Char.toLower := List.mem_map_of_mem hc
    rw [hmap, hsame hw] at hmem
    rw [← (isAlpha_toLower c).1]
    exact hw _ hmem
  rw [hsame hs, hsame hw] at hmap
  exact String.toList_injective hmap

theorem Text.Caseless.symm (h : Text.Caseless s w) : Text.Caseless w s := Text.eqCaseless_symm h

theorem Symbol.ofText?_congr (h : Text.Caseless s w) : Symbol.ofText? s = Symbol.ofText? w := by
  have hplain (m : Symbol) : ∀ c ∈ m.text.toList, c.isAlpha = false := by
    have hall : m.text.toList.all (fun c => !c.isAlpha) = true := by cases m <;> rfl
    simpa using hall
  have hsame (m : Symbol) : (m.text == s) = (m.text == w) := by
    rw [Bool.eq_iff_iff, beq_iff_eq, beq_iff_eq]
    constructor
    · rintro rfl
      exact (eq_of_caseless h.symm (hplain m)).symm
    · rintro rfl
      exact (eq_of_caseless h (hplain m)).symm
  rw [Symbol.ofText?, Symbol.ofText?, funext hsame]

theorem isWritten_of_caseless (h : Text.Caseless s w) (hw : Decimal.isWritten w = true) :
    Decimal.isWritten s = true := by
  obtain ⟨x, hx⟩ := Option.isSome_iff_exists.1 hw
  have hwritten := Decimal.writesDecimal_of_ofText? hx
  have hplain : ∀ c ∈ w.toList, c.isAlpha = false := by
    intro c hc
    rcases hwritten.isDigit_or hc with hd | hmark
    · exact forall_isNameChar (P := fun c => c.isDigit = true → c.isAlpha = false)
        (by decide +kernel) (isNameChar_of_isDigit hd) hd
    · obtain rfl | rfl | rfl : c = '+' ∨ c = '-' ∨ c = '.' := by simpa using hmark
      · decide
      · decide
      · decide
  rw [eq_of_caseless h hplain, hw]

theorem isWritten_congr (h : Text.Caseless s w) : Decimal.isWritten s = Decimal.isWritten w :=
  Bool.eq_iff_iff.2 ⟨isWritten_of_caseless h.symm, isWritten_of_caseless h⟩

theorem isQuoted_congr (h : Text.Caseless s w) : isQuoted s = isQuoted w := by
  have hquote : ∀ c, isNameChar c = true → (c == '\'') = false := by
    intro c hc
    rw [beq_eq_false_iff_ne]
    rintro rfl
    exact absurd hc (by decide)
  have hmap : s.toList.map (· == '\'') = w.toList.map (· == '\'') := by
    refine map_of_eqCaseless (fun c hc => ?_) h
    rw [hquote c hc, hquote _ ((isNameChar_toLower c).trans hc)]
  have hends (o : Option Char) : (o == some '\'') = (o.map (· == '\'') == some true) := by
    cases o with
    | none => rfl
    | some c => cases hc : c == '\'' <;> simp_all
  have hchars (u : String) : isQuoted u =
      (2 ≤ (u.toList.map (· == '\'')).length &&
        (u.toList.map (· == '\'')).head? == some true &&
        (u.toList.map (· == '\'')).getLast? == some true) := by
    rw [isQuoted, hends, hends, List.length_map, List.head?_map, List.getLast?_map]
  rw [hchars, hmap, hchars]

/-- Case does not tell the kinds of texts. -/
theorem Kind.ofText?_congr (h : Text.Caseless s w) : Kind.ofText? s = Kind.ofText? w := by
  rw [Kind.ofText?, Kind.ofText?, Keyword.ofText?_congr h, Symbol.ofText?_congr h,
    Connective.ofToken?_congr h, Comparison.ofToken?_congr h, isWritten_congr h, isQuoted_congr h,
    isIdentifier_congr h]

theorem unquote_eq (s : String) :
    unquote s = if isQuoted s then String.ofList s.toList.tail.dropLast else s := by
  rw [unquote, isQuoted]
  split
  · next rest hs =>
    rw [hs]
    cases rest with
    | nil => simp
    | cons c rest => simp
  · next hopen =>
    have hhead : (s.toList.head? == some '\'') = false := by
      cases hs : s.toList with
      | nil => rfl
      | cons c rest =>
        have hc : c ≠ '\'' := by
          rintro rfl
          exact hopen rest hs
        simpa using hc
    rw [hhead, Bool.and_false, Bool.false_and]
    rfl

theorem unquote_caseless (h : Text.Caseless s w) : Text.Caseless (unquote s) (unquote w) := by
  have hmap : s.toList.map Char.toLower = w.toList.map Char.toLower := beq_iff_eq.1 h
  rw [unquote_eq, unquote_eq, isQuoted_congr h]
  split
  · rw [Text.Caseless, Text.eqCaseless, String.toList_ofList, String.toList_ofList, beq_iff_eq,
      List.map_dropLast, List.map_dropLast, List.map_tail, List.map_tail, hmap]
  · exact h

end Texts

def Token.Caseless (t u : Token) : Prop := Text.Caseless t.text u.text

namespace Token.Caseless
variable {t u : Token}

theorem kind_eq (h : t.Caseless u) : t.kind = u.kind := by
  have hkind : some t.kind = some u.kind := by
    rw [← t.kind_eq, ← u.kind_eq, Kind.ofText?_congr h]
  exact Option.some.inj hkind

theorem is_eq (h : t.Caseless u) (f : Fixed) : t.is f = u.is f := by
  rw [Token.is, Token.is, h.kind_eq, eqCaseless_congr h]

theorem value (h : t.Caseless u) : Text.Caseless t.value u.value :=
  Text.eqCaseless_trans (eqCaseless_value t)
    (Text.eqCaseless_trans h (Text.eqCaseless_symm (eqCaseless_value u)))

end Token.Caseless

/-- The same complaint of texts and tokens that are equal up to the case of ASCII letters. -/
inductive ParseError.Caseless : ParseError → ParseError → Prop
  | same (e : ParseError) : Caseless e e
  | invalidToken {s w : String} (h : Text.Caseless s w) : Caseless (.invalidToken s) (.invalidToken w)
  | unexpectedToken {t u : Token} (h : t.Caseless u) :
      Caseless (.unexpectedToken t) (.unexpectedToken u)
  | wrongKind {wanted : Fixed} {t u : Token} (h : t.Caseless u) :
      Caseless (.wrongKind wanted t) (.wrongKind wanted u)
  | unexpectedValue {t u : Token} (h : t.Caseless u) :
      Caseless (.unexpectedValue t) (.unexpectedValue u)
  | afterSemicolon {t u : Token} (h : t.Caseless u) :
      Caseless (.afterSemicolon t) (.afterSemicolon u)
  | afterCondition {t u : Token} (h : t.Caseless u) :
      Caseless (.afterCondition t) (.afterCondition u)
  | wrongPart {wanted : ConditionPart} {t u : Token} (h : t.Caseless u) :
      Caseless (.wrongPart wanted t) (.wrongPart wanted u)

namespace Token

theorem ofText_caseless {s w : String} (h : Text.Caseless s w) :
    Except.Rel ParseError.Caseless Token.Caseless (ofText s) (ofText w) := by
  have hkind := Kind.ofText?_congr h
  cases hw : Kind.ofText? w with
  | none =>
    rw [ofText_eq_error.2 ⟨hkind.trans hw, rfl⟩, ofText_eq_error.2 ⟨hw, rfl⟩]
    exact .error (.invalidToken h)
  | some k =>
    have hs : ofText s = .ok ⟨s, k, hkind.trans hw⟩ := ofText_eq_ok.2 rfl
    have hw' : ofText w = .ok ⟨w, k, hw⟩ := ofText_eq_ok.2 rfl
    rw [hs, hw']
    exact .ok h

/-- Texts with closed quotes, of which the pieces are equal up to case, have such tokens. -/
theorem tokenize_caseless {s w : String} (hs : (scan s).closed = true)
    (hw : (scan w).closed = true)
    (h : List.Forall₂ Text.Caseless (scan s).texts (scan w).texts) :
    Except.Rel ParseError.Caseless (List.Forall₂ Token.Caseless) (tokenize s) (tokenize w) := by
  unfold tokenize
  refine (Except.Rel.mapM h fun _ _ => ofText_caseless).bind fun ts us htokens => ?_
  rw [if_pos hs, if_pos hw]
  exact .ok htokens

end Token

end Tabular
