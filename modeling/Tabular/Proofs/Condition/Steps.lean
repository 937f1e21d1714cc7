import Tabular.Condition.Parser
import Tabular.Proofs.Outcomes

/-! What a step of reading a condition can do, and what is read when the tokens end. -/
namespace Tabular

namespace Reading

/-- What reading a token of some kind makes of a reading. -/
inductive Reads : Reading → Token → Reading → Prop
  | open_ {level : Level} {outer : List Level} {t : Token} (h : t.kind = .symbol .open_) :
      Reads ⟨.operand, level, outer⟩ t ⟨.operand, .start, level :: outer⟩
  | column {level : Level} {outer : List Level} {t : Token} (h : t.kind = .identifier) :
      Reads ⟨.operand, level, outer⟩ t ⟨.comparison t.text, level, outer⟩
  | sign {level : Level} {outer : List Level} {t : Token} {column : String} {op : Comparison}
      (h : t.kind = .comparison op) :
      Reads ⟨.comparison column, level, outer⟩ t ⟨.value column op, level, outer⟩
  | value {level : Level} {outer : List Level} {t : Token} {column : String} {op : Comparison}
      (h : t.kind ∈ [.string, .number, .identifier]) :
      Reads ⟨.value column op, level, outer⟩ t
        ⟨.connective (.comparison column op (unquote t.text)), level, outer⟩
  | word {level : Level} {outer : List Level} {t : Token} {operand : Condition} {c : Connective}
      (h : t.kind = .logical c) :
      Reads ⟨.connective operand, level, outer⟩ t ⟨.operand, level.continue_ operand c, outer⟩
  | close {level last : Level} {outer : List Level} {t : Token} {operand : Condition}
      (h : t.kind = .symbol .close) :
      Reads ⟨.connective operand, level, last :: outer⟩ t
        ⟨.connective (level.finish operand), last, outer⟩

theorem step_eq_ok {r r' : Reading} {t : Token} : r.step t = .ok r' ↔ r.Reads t r' := by
  constructor
  · intro h
    obtain ⟨awaiting, level, outer⟩ := r
    cases awaiting with
    | operand =>
      simp only [step] at h
      split at h
      · next hk => cases h; exact .open_ hk
      · next hk => cases h; exact .column hk
      · cases h
    | comparison column =>
      simp only [step] at h
      split at h
      · next hk => cases h; exact .sign hk
      · cases h
    | value column op =>
      simp only [step] at h
      split at h
      · next hk => cases h; exact .value (by simp [hk])
      · next hk => cases h; exact .value (by simp [hk])
      · next hk => cases h; exact .value (by simp [hk])
      · cases h
    | connective operand =>
      simp only [step] at h
      split at h
      · next hk => cases h; exact .word hk
      · next hk => cases h; exact .close hk
      · cases h
      · cases h
  · intro h
    cases h with
    | value h =>
      simp only [List.mem_cons, List.not_mem_nil, or_false] at h
      rcases h with h | h | h <;> simp [step, h]
    | _ h => simp [step, h]

theorem Reads.foldlM_cons {r r' : Reading} {t : Token} (h : r.Reads t r') (ts : List Token) :
    (t :: ts).foldlM step r = ts.foldlM step r' := by
  rw [List.foldlM_cons, step_eq_ok.2 h]
  rfl

theorem foldlM_step_cons {r r' : Reading} {t : Token} {ts : List Token} :
    (t :: ts).foldlM step r = .ok r' ↔ ∃ r₁, r.Reads t r₁ ∧ ts.foldlM step r₁ = .ok r' := by
  simp only [foldlM_cons_eq_ok, step_eq_ok]

/-- A condition ends after an operand outside of parentheses. -/
theorem finish_eq_ok {r : Reading} {c : Condition} :
    r.finish = .ok c ↔
      ∃ operand level, r = ⟨.connective operand, level, []⟩ ∧ level.finish operand = c := by
  constructor
  · intro h
    obtain ⟨awaiting, level, outer⟩ := r
    cases awaiting with
    | connective operand =>
      cases outer with
      | nil => exact ⟨operand, level, rfl, Except.ok.inj h⟩
      | cons => cases h
    | _ => cases h
  · rintro ⟨operand, level, rfl, rfl⟩
    rfl

end Reading

/-- Tokens are a condition if they are read up to its last operand. -/
theorem Condition.ofTokens_eq_ok_iff_reads {ts : List Token} {c : Condition} :
    ofTokens ts = .ok c ↔ ∃ operand level,
      ts.foldlM Reading.step .start = .ok ⟨.connective operand, level, []⟩ ∧
        level.finish operand = c := by
  constructor
  · intro h
    unfold ofTokens at h
    split at h
    · cases h
    · obtain ⟨r, hread, hfinish⟩ := Except.bind_eq_ok.1 h
      obtain ⟨operand, level, rfl, hc⟩ := Reading.finish_eq_ok.1 hfinish
      exact ⟨operand, level, hread, hc⟩
  · rintro ⟨operand, level, hread, hc⟩
    have hne : ts.isEmpty = false := by
      cases ts with
      | nil => cases hread
      | cons => rfl
    rw [ofTokens, hne, hread, ← hc]
    rfl

end Tabular
