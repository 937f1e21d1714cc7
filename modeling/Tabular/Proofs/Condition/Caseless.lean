import Tabular.Condition.Parser
import Tabular.Proofs.Token.Caseless

/-! Conditions that differ in the case of ASCII letters only, and how they are read: from tokens that
differ in case, two readings go through the same places. -/
namespace Tabular

/-- Conditions of the same comparisons joined in the same way, whose columns and values are equal up
to case. -/
inductive Condition.Caseless : Condition → Condition → Prop
  | comparison {column column' value value' : String} (op : Comparison)
      (hcolumn : Text.Caseless column column') (hvalue : Text.Caseless value value') :
      Caseless (.comparison column op value) (.comparison column' op value')
  | and {left left' right right' : Condition} (hleft : Caseless left left')
      (hright : Caseless right right') : Caseless (.and left right) (.and left' right')
  | or {left left' right right' : Condition} (hleft : Caseless left left')
      (hright : Caseless right right') : Caseless (.or left right) (.or left' right')

section Levels

structure Level.Caseless (l m : Level) : Prop where
  disjuncts : Option.Rel Condition.Caseless l.disjuncts m.disjuncts
  conjuncts : Option.Rel Condition.Caseless l.conjuncts m.conjuncts

variable {l m : Level} {c d : Condition}

theorem Level.caseless_start : Level.Caseless .start .start := ⟨.none, .none⟩

theorem Level.join_caseless {f : Condition → Condition → Condition} {a b : Option Condition}
    (hf : ∀ {x x' y y'}, x.Caseless x' → y.Caseless y' → (f x y).Caseless (f x' y'))
    (h : Option.Rel Condition.Caseless a b) (hc : c.Caseless d) :
    (join f a c).Caseless (join f b d) := by
  cases h with
  | some h => exact hf h hc
  | none => exact hc

theorem Level.Caseless.finish (h : l.Caseless m) (hc : c.Caseless d) :
    (l.finish c).Caseless (m.finish d) :=
  Level.join_caseless .or h.disjuncts (Level.join_caseless .and h.conjuncts hc)

theorem Level.Caseless.continue_ (h : l.Caseless m) (hc : c.Caseless d) (word : Connective) :
    (l.continue_ c word).Caseless (m.continue_ d word) := by
  cases word with
  | and => exact ⟨h.disjuncts, .some (Level.join_caseless .and h.conjuncts hc)⟩
  | or => exact ⟨.some (h.finish hc), .none⟩

end Levels

inductive Awaiting.Caseless : Awaiting → Awaiting → Prop
  | operand : Caseless .operand .operand
  | comparison {column column' : String} (h : Text.Caseless column column') :
      Caseless (.comparison column) (.comparison column')
  | value {column column' : String} (op : Comparison) (h : Text.Caseless column column') :
      Caseless (.value column op) (.value column' op)
  | connective {c d : Condition} (h : c.Caseless d) : Caseless (.connective c) (.connective d)

inductive Reading.Caseless : Reading → Reading → Prop
  | mk {awaiting awaiting' : Awaiting} {level level' : Level} {outer outer' : List Level}
      (hawaiting : awaiting.Caseless awaiting') (hlevel : level.Caseless level')
      (houter : List.Forall₂ Level.Caseless outer outer') :
      Caseless ⟨awaiting, level, outer⟩ ⟨awaiting', level', outer'⟩

namespace Reading.Caseless
variable {r q : Reading}

theorem start : Reading.Caseless .start .start := .mk .operand Level.caseless_start .nil

/-- Tokens that differ in case lead from the same place to the same place, or are refused alike. -/
theorem step {t u : Token} (h : r.Caseless q) (ht : t.Caseless u) :
    Except.Rel ParseError.Caseless Reading.Caseless (r.step t) (q.step u) := by
  obtain ⟨hawaiting, hlevel, houter⟩ := h
  unfold Reading.step
  simp only [ht.kind_eq]
  cases hawaiting with
  | operand =>
    cases u.kind with
    | identifier => exact .ok (.mk (.comparison ht) hlevel houter)
    | symbol sign =>
      cases sign with
      | open_ => exact .ok (.mk .operand Level.caseless_start (.cons hlevel houter))
      | _ => exact .error (.wrongPart ht)
    | _ => exact .error (.wrongPart ht)
  | comparison hcolumn =>
    cases u.kind with
    | comparison op => exact .ok (.mk (.value op hcolumn) hlevel houter)
    | _ => exact .error (.wrongPart ht)
  | value op hcolumn =>
    have hread : Awaiting.Caseless (.connective (.comparison _ op (unquote t.text)))
        (.connective (.comparison _ op (unquote u.text))) :=
      .connective (.comparison op hcolumn (unquote_caseless ht))
    cases u.kind with
    | string | number | identifier => exact .ok (.mk hread hlevel houter)
    | _ => exact .error (.wrongPart ht)
  | connective hoperand =>
    cases houter with
    | nil =>
      cases u.kind with
      | logical word => exact .ok (.mk .operand (hlevel.continue_ hoperand word) .nil)
      | symbol sign => cases sign <;> exact .error (.afterCondition ht)
      | _ => exact .error (.afterCondition ht)
    | cons hlast houter =>
      cases u.kind with
      | logical word =>
        exact .ok (.mk .operand (hlevel.continue_ hoperand word) (.cons hlast houter))
      | symbol sign =>
        cases sign with
        | close => exact .ok (.mk (.connective (hlevel.finish hoperand)) hlast houter)
        | _ => exact .error (.same _)
      | _ => exact .error (.same _)

theorem finish (h : r.Caseless q) :
    Except.Rel ParseError.Caseless Condition.Caseless r.finish q.finish := by
  obtain ⟨hawaiting, hlevel, houter⟩ := h
  unfold Reading.finish
  cases hawaiting with
  | operand | comparison | value => exact .error (.same _)
  | connective hoperand =>
    cases houter with
    | nil => exact .ok (hlevel.finish hoperand)
    | cons => exact .error (.same _)

end Reading.Caseless

/-- Tokens that differ in case write conditions that do, or are refused alike. -/
theorem Condition.ofTokens_caseless {ts us : List Token} (h : List.Forall₂ Token.Caseless ts us) :
    Except.Rel ParseError.Caseless Condition.Caseless (ofTokens ts) (ofTokens us) := by
  have hread := Except.Rel.foldlM h (fun _ _ _ _ => Reading.Caseless.step) Reading.Caseless.start
  unfold ofTokens
  cases h with
  | nil => exact .error (.same _)
  | cons ht hts => exact hread.bind fun _ _ => Reading.Caseless.finish

end Tabular
