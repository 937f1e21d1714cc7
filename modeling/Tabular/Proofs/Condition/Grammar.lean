import Tabular.Condition.Parser

/-! The grammar of conditions: derivations as data, the tokens that each one spans, and the
condition that it stands for. Tokens have one derivation at most. -/
namespace Tabular

abbrev TokenOf (kinds : List Kind) := { t : Token // t.kind ∈ kinds }

mutual

/-- A conjunction, or more of them, each with `OR` before it. -/
inductive Disjunction where
  | single (only : Conjunction)
  | or (before : Disjunction) (word : TokenOf [.logical .or]) (last : Conjunction)

/-- An operand, or more of them, each with `AND` before it. -/
inductive Conjunction where
  | single (only : Operand)
  | and (before : Conjunction) (word : TokenOf [.logical .and]) (last : Operand)

/-- A disjunction in parentheses, or a comparison of a column with a literal. -/
inductive Operand where
  | group (left : TokenOf [.symbol .open_]) (inside : Disjunction)
      (right : TokenOf [.symbol .close])
  | comparison (column : TokenOf [.identifier]) (op : Comparison)
      (sign : TokenOf [.comparison op]) (value : TokenOf [.string, .number, .identifier])

end

mutual

def Disjunction.tokens : Disjunction → List Token
  | .single only => only.tokens
  | .or before word last => before.tokens ++ word.1 :: last.tokens

def Conjunction.tokens : Conjunction → List Token
  | .single only => only.tokens
  | .and before word last => before.tokens ++ word.1 :: last.tokens

def Operand.tokens : Operand → List Token
  | .group left inside right => left.1 :: inside.tokens ++ [right.1]
  | .comparison column _ sign value => [column.1, sign.1, value.1]

end

mutual

def Disjunction.condition : Disjunction → Condition
  | .single only => only.condition
  | .or before _ last => .or before.condition last.condition

def Conjunction.condition : Conjunction → Condition
  | .single only => only.condition
  | .and before _ last => .and before.condition last.condition

/-- The condition of an operand: parentheses leave no trace, and a literal loses its quotes. -/
def Operand.condition : Operand → Condition
  | .group _ inside _ => inside.condition
  | .comparison column op _ value => .comparison column.1.text op (unquote value.1.text)

end

section Unique
variable {before before' ts ts' : List Token} {t t' : Token}

theorem Operand.append_tokens_comparison (column : TokenOf [.identifier]) {op : Comparison}
    (sign : TokenOf [.comparison op]) (value : TokenOf [.string, .number, .identifier]) :
    ts ++ (comparison column op sign value).tokens =
      (ts ++ [column.1, sign.1]) ++ [value.1] := by
  simp [tokens]

theorem Operand.append_tokens_group (left : TokenOf [.symbol .open_]) (inside : Disjunction)
    (right : TokenOf [.symbol .close]) :
    ts ++ (group left inside right).tokens =
      ((ts ++ [left.1]) ++ inside.tokens) ++ [right.1] := by
  simp [tokens]

theorem Conjunction.append_tokens_and (c : Conjunction) (word : TokenOf [.logical .and])
    (o : Operand) :
    ts ++ (and c word o).tokens = ((ts ++ c.tokens) ++ [word.1]) ++ o.tokens := by
  simp [tokens]

theorem Disjunction.append_tokens_or (d : Disjunction) (word : TokenOf [.logical .or])
    (c : Conjunction) :
    ts ++ (or d word c).tokens = ((ts ++ d.tokens) ++ [word.1]) ++ c.tokens := by
  simp [tokens]

private theorem concat_inj (h : ts ++ [t] = ts' ++ [t']) : ts = ts' ∧ t = t' := by
  obtain ⟨hts, ht⟩ := List.append_inj' h rfl
  exact ⟨hts, (List.cons.inj ht).1⟩

/-- The last token of some is none of some connectives. -/
def EndsWithout (cs : List Connective) (ts : List Token) : Prop :=
  ∀ t, ts.getLast? = some t → ∀ c ∈ cs, t.kind ≠ .logical c

theorem EndsWithout.nil {cs : List Connective} : EndsWithout cs [] := by
  intro t ht
  cases ht

theorem EndsWithout.concat {cs : List Connective} (h : ∀ c ∈ cs, t.kind ≠ .logical c) :
    EndsWithout cs (ts ++ [t]) := by
  intro last hlast
  obtain rfl : t = last := by simpa using hlast
  exact h

theorem EndsWithout.mono {cs cs' : List Connective} (h : EndsWithout cs ts) (hsub : cs' ⊆ cs) :
    EndsWithout cs' ts :=
  fun t ht c hc => h t ht c (hsub hc)

theorem EndsWithout.of_or (word : TokenOf [.logical .or]) :
    EndsWithout [.and] (ts ++ [word.1]) := by
  refine .concat fun c hc he => ?_
  obtain rfl : c = .and := by simpa using hc
  simpa [he] using word.2

theorem EndsWithout.ne_concat {cs : List Connective} (h : EndsWithout cs ts) {c : Connective}
    (hc : c ∈ cs) (word : TokenOf [.logical c]) : ts ≠ ts' ++ [word.1] := by
  rintro rfl
  refine h word.1 (by simp) c hc ?_
  simpa using word.2

theorem TokenOf.ne {kinds kinds' : List Kind} (h : ∀ k ∈ kinds, k ∉ kinds') (t : TokenOf kinds)
    (t' : TokenOf kinds') : t.1 ≠ t'.1 := by
  intro he
  have ht := t'.2
  rw [← he] at ht
  exact h _ t.2 ht

/-- Tokens that end with those of an operand end with those of no other. -/
def Operand.Unique (o : Operand) : Prop :=
  ∀ (before before' : List Token) (o' : Operand),
    before ++ o.tokens = before' ++ o'.tokens → before = before' ∧ o = o'

/-- Tokens that end with those of a conjunction end with those of no other, unless after an `AND`. -/
def Conjunction.Unique (c : Conjunction) : Prop :=
  ∀ (before before' : List Token) (c' : Conjunction), EndsWithout [.and] before →
    EndsWithout [.and] before' → before ++ c.tokens = before' ++ c'.tokens →
      before = before' ∧ c = c'

/-- Tokens that end with those of a disjunction end with those of no other, if no connective is
before. -/
def Disjunction.Unique (d : Disjunction) : Prop :=
  ∀ (before before' : List Token) (d' : Disjunction), EndsWithout [.and, .or] before →
    EndsWithout [.and, .or] before' → before ++ d.tokens = before' ++ d'.tokens →
      before = before' ∧ d = d'

theorem Operand.unique_comparison (column : TokenOf [.identifier]) (op : Comparison)
    (sign : TokenOf [.comparison op]) (value : TokenOf [.string, .number, .identifier]) :
    (comparison column op sign value).Unique := by
  intro before before' o' h
  cases o' with
  | group left inside right =>
    rw [append_tokens_comparison, append_tokens_group] at h
    exact absurd (concat_inj h).2 (TokenOf.ne (by simp) value right)
  | comparison column' op' sign' value' =>
    rw [append_tokens_comparison, append_tokens_comparison] at h
    obtain ⟨hparts, hvalue⟩ := concat_inj h
    obtain ⟨rfl, hparts⟩ := List.append_inj' hparts rfl
    obtain ⟨hcolumn, hsign⟩ : column.1 = column'.1 ∧ sign.1 = sign'.1 := by simpa using hparts
    have hop : op = op' := by
      have hkind : sign.1.kind = .comparison op := by simpa using sign.2
      have hkind' : sign'.1.kind = .comparison op' := by simpa using sign'.2
      rw [← hsign] at hkind'
      exact Kind.comparison.inj (hkind.symm.trans hkind')
    subst hop
    obtain rfl : column = column' := Subtype.ext hcolumn
    obtain rfl : sign = sign' := Subtype.ext hsign
    obtain rfl : value = value' := Subtype.ext hvalue
    exact ⟨rfl, rfl⟩

theorem Operand.unique_group (left : TokenOf [.symbol .open_]) {inside : Disjunction}
    (right : TokenOf [.symbol .close]) (hinside : inside.Unique) :
    (group left inside right).Unique := by
  intro before before' o' h
  cases o' with
  | comparison column op sign value =>
    rw [append_tokens_group, append_tokens_comparison] at h
    exact absurd (concat_inj h).2.symm (TokenOf.ne (by simp) value right)
  | group left' inside' right' =>
    rw [append_tokens_group, append_tokens_group] at h
    obtain ⟨hopened, hright⟩ := concat_inj h
    have hopen (left : TokenOf [.symbol .open_]) (ts : List Token) :
        EndsWithout [.and, .or] (ts ++ [left.1]) :=
      .concat fun c _ he => by simpa [he] using left.2
    obtain ⟨hbefore, rfl⟩ := hinside _ _ inside' (hopen left before) (hopen left' before') hopened
    obtain ⟨rfl, hleft⟩ := concat_inj hbefore
    obtain rfl : left = left' := Subtype.ext hleft
    obtain rfl : right = right' := Subtype.ext hright
    exact ⟨rfl, rfl⟩

theorem Conjunction.unique_single {o : Operand} (ho : o.Unique) : (single o).Unique := by
  intro before before' c' hb _ h
  cases c' with
  | single o' =>
    obtain ⟨rfl, rfl⟩ := ho before before' o' h
    exact ⟨rfl, rfl⟩
  | and c' word' o' =>
    rw [append_tokens_and] at h
    exact absurd (ho _ _ o' h).1 (hb.ne_concat (by simp) word')

theorem Conjunction.unique_and {c : Conjunction} (word : TokenOf [.logical .and]) {o : Operand}
    (hc : c.Unique) (ho : o.Unique) : (and c word o).Unique := by
  intro before before' c' hb hb' h
  cases c' with
  | single o' =>
    rw [append_tokens_and] at h
    exact absurd (ho _ _ o' h).1.symm (hb'.ne_concat (by simp) word)
  | and c' word' o' =>
    rw [append_tokens_and, append_tokens_and] at h
    obtain ⟨hwords, rfl⟩ := ho _ _ o' h
    obtain ⟨hbefore, hword⟩ := concat_inj hwords
    obtain ⟨rfl, rfl⟩ := hc before before' c' hb hb' hbefore
    obtain rfl : word = word' := Subtype.ext hword
    exact ⟨rfl, rfl⟩

theorem Disjunction.unique_single {c : Conjunction} (hc : c.Unique) : (single c).Unique := by
  intro before before' d' hb hb' h
  cases d' with
  | single c' =>
    obtain ⟨rfl, rfl⟩ := hc before before' c' (hb.mono (by simp)) (hb'.mono (by simp)) h
    exact ⟨rfl, rfl⟩
  | or d' word' c' =>
    rw [append_tokens_or] at h
    have hbefore := (hc _ _ c' (hb.mono (by simp)) (.of_or word') h).1
    exact absurd hbefore (hb.ne_concat (by simp) word')

theorem Disjunction.unique_or {d : Disjunction} (word : TokenOf [.logical .or]) {c : Conjunction}
    (hd : d.Unique) (hc : c.Unique) : (or d word c).Unique := by
  intro before before' d' hb hb' h
  cases d' with
  | single c' =>
    rw [append_tokens_or] at h
    have hbefore := (hc _ _ c' (.of_or word) (hb'.mono (by simp)) h).1
    exact absurd hbefore.symm (hb'.ne_concat (by simp) word)
  | or d' word' c' =>
    rw [append_tokens_or, append_tokens_or] at h
    obtain ⟨hwords, rfl⟩ := hc _ _ c' (.of_or word) (.of_or word') h
    obtain ⟨hbefore, hword⟩ := concat_inj hwords
    obtain ⟨rfl, rfl⟩ := hd before before' d' hb hb' hbefore
    obtain rfl : word = word' := Subtype.ext hword
    exact ⟨rfl, rfl⟩

mutual

theorem Disjunction.unique : ∀ d : Disjunction, d.Unique
  | .single c => Disjunction.unique_single c.unique
  | .or d word c => Disjunction.unique_or word d.unique c.unique

theorem Conjunction.unique : ∀ c : Conjunction, c.Unique
  | .single o => Conjunction.unique_single o.unique
  | .and c word o => Conjunction.unique_and word c.unique o.unique

theorem Operand.unique : ∀ o : Operand, o.Unique
  | .group left d right => Operand.unique_group left right d.unique
  | .comparison column op sign value => Operand.unique_comparison column op sign value

end

/-- Tokens have one derivation at most. -/
theorem Disjunction.tokens_injective {d d' : Disjunction} (h : d.tokens = d'.tokens) : d = d' :=
  (d.unique [] [] d' .nil .nil h).2

end Unique

end Tabular
