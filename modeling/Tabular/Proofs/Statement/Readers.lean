import Mathlib.Data.List.TakeDrop
import Tabular.Proofs.Condition.Steps
import Tabular.Proofs.Statement.Grammar

/-! What the readers of the parts of statements take: exactly what the grammar has there. -/
namespace Tabular

theorem Token.is_eq_false {t : Token} {f g : Fixed} (h : t.kind = f.kind) (hne : f.kind ≠ g.kind) :
    t.is g = false :=
  Bool.eq_false_iff.2 fun hg => hne (h.symm.trans (kind_of_is hg))

namespace TokenReader
variable {α β : Type}

theorem bind_apply (x : TokenReader α) (f : α → TokenReader β) (ts : List Token) :
    (x >>= f) ts = (x ts).bind fun p => f p.1 p.2 := rfl

theorem map_apply (f : α → β) (x : TokenReader α) (ts : List Token) :
    (f <$> x) ts = (x ts).bind fun p => .ok (f p.1, p.2) := rfl

section Primitives
variable {ts rest : List Token}

theorem bind_eq_ok {x : TokenReader α} {f : α → TokenReader β} {r : β × List Token} :
    (x >>= f) ts = .ok r ↔ ∃ a mid, x ts = .ok (a, mid) ∧ f a mid = .ok r := by
  rw [bind_apply]
  cases x ts with
  | error e => simp [Except.bind]
  | ok p =>
    obtain ⟨a, mid⟩ := p
    simp [Except.bind]

theorem map_eq_ok {f : α → β} {x : TokenReader α} {b : β} :
    (f <$> x) ts = .ok (b, rest) ↔ ∃ a, x ts = .ok (a, rest) ∧ f a = b := by
  rw [map_apply]
  cases x ts with
  | error e => simp [Except.bind]
  | ok p => simp [Except.bind, Prod.ext_iff, and_comm]

theorem pure_eq_ok {a b : α} : (pure a : TokenReader α) ts = .ok (b, rest) ↔ a = b ∧ ts = rest := by
  change (Except.ok (a, ts) : Except Error _) = _ ↔ _
  rw [Except.ok.injEq, Prod.mk.injEq]

theorem get_eq_ok {a : List Token} :
    (get : TokenReader (List Token)) ts = .ok (a, rest) ↔ ts = a ∧ ts = rest := by
  change (Except.ok (ts, ts) : Except Error _) = _ ↔ _
  rw [Except.ok.injEq, Prod.mk.injEq]

theorem throw_eq_ok {e : Error} {r : α × List Token} :
    (throw e : TokenReader α) ts = .ok r ↔ False :=
  iff_false_intro fun h => nomatch h

theorem liftM_eq_ok {x : Except ParseError α} {a : α} :
    (liftM x : TokenReader α) ts = .ok (a, rest) ↔ x = .ok a ∧ ts = rest := by
  cases x with
  | error e => exact ⟨fun h => (nomatch h), fun h => (nomatch h.1)⟩
  | ok b =>
    rw [Except.ok.injEq]
    exact pure_eq_ok

theorem require_eq_ok {f : Fixed} {u : Unit} :
    require f ts = .ok (u, rest) ↔ ∃ t, ts = t :: rest ∧ t.is f = true := by
  cases ts with
  | nil => simp [require]
  | cons t ts =>
    have halike : t.is f = true → t.kind.alike f.kind = true := fun h => by
      rw [Token.kind_of_is h, Kind.alike, beq_self_eq_true]
    by_cases h : t.is f = true
    · simp [require, h, halike h]
    · by_cases hk : t.kind.alike f.kind = true <;> simp [require, h, hk]

def NotAhead (f : Fixed) (ts : List Token) : Prop := ∀ t ∈ ts.head?, t.is f = false

theorem NotAhead.cons {f g : Fixed} {t : Token} (h : t.kind = f.kind) (hne : f.kind ≠ g.kind) :
    NotAhead g (t :: rest) := by
  simpa [NotAhead] using t.is_eq_false h hne

theorem accept_eq_ok {f : Fixed} {taken : Bool} :
    accept f ts = .ok (taken, rest) ↔
      (taken = true ∧ ∃ t, ts = t :: rest ∧ t.is f = true) ∨
        (taken = false ∧ ts = rest ∧ NotAhead f ts) := by
  cases ts with
  | nil => cases taken <;> simp [accept, NotAhead]
  | cons t ts => by_cases h : t.is f = true <;> cases taken <;> simp [accept, NotAhead, h]

/-- A reader that goes one way if a word or mark is ahead, which it takes, and another if not. -/
theorem accept_then_eq_ok {f : Fixed} {x y : TokenReader α} {r : α × List Token} :
    (do if ← accept f then x else y : TokenReader α) ts = .ok r ↔
      (∃ t rest, ts = t :: rest ∧ t.is f = true ∧ x rest = .ok r) ∨
        NotAhead f ts ∧ y ts = .ok r := by
  simp only [bind_eq_ok, accept_eq_ok]
  constructor
  · rintro ⟨_, mid, ⟨rfl, t, rfl, ht⟩ | ⟨rfl, rfl, hno⟩, h⟩
    · exact .inl ⟨t, mid, rfl, ht, h⟩
    · exact .inr ⟨hno, h⟩
  · rintro (⟨t, mid, rfl, ht, h⟩ | ⟨hno, h⟩)
    · exact ⟨true, mid, .inl ⟨rfl, t, rfl, ht⟩, h⟩
    · exact ⟨false, ts, .inr ⟨rfl, rfl, hno⟩, h⟩

theorem operand_eq_ok {allowed : Kind → Bool} {s : String} :
    operand allowed ts = .ok (s, rest) ↔
      ∃ t, ts = t :: rest ∧ operand? allowed t = some s := by
  cases ts with
  | nil => simp [operand]
  | cons t ts => cases h : operand? allowed t <;> simp [operand, h, and_comm]

theorem column_eq_ok {c : String} :
    column ts = .ok (c, rest) ↔ ∃ t, ts = t :: rest ∧ t.Column c := by
  have hcolumn (t : Token) :
      t.kind = .symbol .star ∨ t.IsTruth ∨ (t.kind == .identifier) = true ↔
        t.kind = .identifier ∨ t.kind = .symbol .star := by
    rw [beq_iff_eq]
    exact ⟨fun h => h.elim .inr fun h => .inl (h.elim (·.kind) id),
      fun h => h.elim (.inr ∘ .inr) .inl⟩
  simp only [column, operand_eq_ok, operand?_eq_some, hcolumn, Token.Column]

theorem name_eq_ok {n : String} : name ts = .ok (n, rest) ↔ ∃ t, ts = t :: rest ∧ t.Name n := by
  simp only [name, map_eq_ok, column_eq_ok, Token.Name]
  constructor
  · rintro ⟨c, ⟨t, rfl, hc⟩, hn⟩
    exact ⟨t, rfl, c, hc, hn⟩
  · rintro ⟨t, rfl, c, hc, hn⟩
    exact ⟨c, ⟨t, rfl, hc⟩, hn⟩

theorem literal_eq_ok {s : String} :
    literal ts = .ok (s, rest) ↔ ∃ t, ts = t :: rest ∧ t.Literal s := by
  have hliteral (t : Token) : t.kind = .symbol .star ∨ t.IsTruth ∨
      (t.kind == .string || t.kind == .number || t.kind == .identifier) = true ↔
        t.kind ∈ [.string, .number, .identifier, .symbol .star] := by
    constructor
    · rintro (h | h | h)
      · simp [h]
      · simp [h.kind]
      · simp only [Bool.or_eq_true, beq_iff_eq] at h
        rcases h with (h | h) | h <;> simp [h]
    · intro h
      simp only [List.mem_cons, List.not_mem_nil, or_false] at h
      rcases h with h | h | h | h <;> simp [h]
  simp only [literal, operand_eq_ok, operand?_eq_some, hliteral, Token.Literal]

end Primitives

section Lists
open Grammar
variable {ts rest : List Token} {P : List α → Prop} {Item : List Token → α → Prop}
  {item : List α → TokenReader α}

/-- An item after those of `before` takes tokens that write it, and all of them satisfy `P`. -/
def ReadsItem (item : List α → TokenReader α) (Item : List Token → α → Prop)
    (P : List α → Prop) : Prop :=
  ∀ before, P before → ∀ ts a rest, item before ts = .ok (a, rest) ↔
    ∃ used, ts = used ++ rest ∧ Item used a ∧ P (before ++ [a])

/-- Items are read exactly up to the first that no comma follows. -/
theorem itemsFrom_eq_ok (hitem : ReadsItem item Item P) (hne : ∀ ts a, Item ts a → ts ≠ [])
    (hinitial : ∀ as bs, P (as ++ bs) → P as) {limit : Nat} {before as : List α}
    (hbefore : P before) (hl : ts.length < limit) :
    itemsFrom item limit before ts = .ok (as, rest) ↔
      ∃ used new, ts = used ++ rest ∧ Listed Item used new ∧ as = before ++ new ∧ P as ∧
        NotAhead (.symbol .comma) rest := by
  induction limit generalizing before ts with
  | zero => exact absurd hl (Nat.not_lt_zero _)
  | succ limit ih =>
    -- An item takes a token at least, so what follows a comma stays below the limit.
    have hshorter {used mid : List Token} {comma : Token} {a : α} (hi : Item used a)
        (ht : ts = used ++ comma :: mid) : mid.length < limit := by
      have := List.length_pos_iff.2 (hne used a hi)
      rw [ht, List.length_append, List.length_cons] at hl
      omega
    rw [itemsFrom, bind_eq_ok]
    constructor
    · rintro ⟨a, mid, ha, h⟩
      obtain ⟨used, rfl, hi, hP⟩ := (hitem before hbefore _ _ _).1 ha
      rcases accept_then_eq_ok.1 h with ⟨comma, mid, rfl, hcomma, h⟩ | ⟨hno, h⟩
      · obtain ⟨used', new, rfl, hnew, rfl, hPas, hno⟩ := (ih hP (hshorter hi rfl)).1 h
        refine ⟨used ++ comma :: used', a :: new, by simp, ?_, by simp, hPas, hno⟩
        exact .more hi (Token.is_symbol_iff.1 hcomma) hnew
      · obtain ⟨rfl, rfl⟩ := pure_eq_ok.1 h
        exact ⟨used, [a], rfl, .last hi, rfl, hP, hno⟩
    · rintro ⟨used, new, rfl, hnew, rfl, hP, hno⟩
      cases hnew with
      | @last _ a hi =>
        have ha := (hitem before hbefore (used ++ rest) a rest).2 ⟨used, rfl, hi, hP⟩
        exact ⟨a, rest, ha, accept_then_eq_ok.2 (.inr ⟨hno, rfl⟩)⟩
      | @more used used' comma a new hi hcomma hnew =>
        have hPa : P (before ++ [a]) := hinitial _ new (by simpa using hP)
        have hmid := hshorter hi (List.append_assoc used (comma :: used') rest)
        refine ⟨a, comma :: (used' ++ rest), ?_, accept_then_eq_ok.2 (.inl ⟨comma, _, rfl, ?_, ?_⟩)⟩
        · exact (hitem before hbefore _ _ _).2 ⟨used, by simp, hi, hPa⟩
        · exact Token.is_symbol_iff.2 hcomma
        · exact (ih hPa hmid).2 ⟨used', new, rfl, hnew, by simp, hP, hno⟩

theorem items_eq_ok (hitem : ReadsItem item Item P) (hne : ∀ ts a, Item ts a → ts ≠ [])
    (hinitial : ∀ as bs, P (as ++ bs) → P as) (hnil : P []) {as : List α} :
    items item ts = .ok (as, rest) ↔
      ∃ used, ts = used ++ rest ∧ Listed Item used as ∧ P as ∧
        NotAhead (.symbol .comma) rest := by
  rw [items, itemsFrom_eq_ok hitem hne hinitial hnil (Nat.lt_succ_self _)]
  constructor
  · rintro ⟨used, new, rfl, hnew, rfl, hP, hno⟩
    exact ⟨used, rfl, hnew, hP, hno⟩
  · rintro ⟨used, rfl, hnew, hP, hno⟩
    exact ⟨used, as, rfl, hnew, rfl, hP, hno⟩

theorem items_const_eq_ok {x : TokenReader α} {as : List α}
    (hx : ∀ ts a rest, x ts = .ok (a, rest) ↔ ∃ used, ts = used ++ rest ∧ Item used a)
    (hne : ∀ ts a, Item ts a → ts ≠ []) :
    items (fun _ => x) ts = .ok (as, rest) ↔
      ∃ used, ts = used ++ rest ∧ Listed Item used as ∧ NotAhead (.symbol .comma) rest := by
  have hitem : ReadsItem (fun _ => x) Item fun _ => True := fun _ _ ts a rest => by
    simpa using hx ts a rest
  simpa using items_eq_ok hitem hne (fun _ _ _ => trivial) trivial

theorem single_eq_ok {x : TokenReader α} {R : Token → α → Prop}
    (hx : ∀ ts a rest, x ts = .ok (a, rest) ↔ ∃ t, ts = t :: rest ∧ R t a) (ts : List Token) (a : α)
    (rest : List Token) : x ts = .ok (a, rest) ↔ ∃ used, ts = used ++ rest ∧ Single R used a := by
  rw [hx]
  constructor
  · rintro ⟨t, rfl, h⟩
    exact ⟨[t], rfl, t, rfl, h⟩
  · rintro ⟨_, rfl, t, rfl, h⟩
    exact ⟨t, rfl, h⟩

theorem single_ne_nil {R : Token → α → Prop} (ts : List Token) (a : α) (h : Single R ts a) :
    ts ≠ [] := by
  obtain ⟨t, rfl, -⟩ := h
  exact List.cons_ne_nil _ _

theorem columns_eq_ok {columns : List String} :
    items (fun _ => column) ts = .ok (columns, rest) ↔
      ∃ used, ts = used ++ rest ∧ Listed (Single Token.Column) used columns ∧
        NotAhead (.symbol .comma) rest :=
  items_const_eq_ok (single_eq_ok fun _ _ _ => column_eq_ok) single_ne_nil

theorem literals_eq_ok {literals : List String} :
    items (fun _ => literal) ts = .ok (literals, rest) ↔
      ∃ used, ts = used ++ rest ∧ Listed (Single Token.Literal) used literals ∧
        NotAhead (.symbol .comma) rest :=
  items_const_eq_ok (single_eq_ok fun _ _ _ => literal_eq_ok) single_ne_nil

theorem assignment_eq_ok (ts : List Token) (a : String × String) (rest : List Token) :
    assignment ts = .ok (a, rest) ↔ ∃ used, ts = used ++ rest ∧ Assignment used a := by
  simp only [assignment, bind_eq_ok, column_eq_ok, require_eq_ok, literal_eq_ok, pure_eq_ok]
  constructor
  · rintro ⟨c, _, ⟨t, rfl, hc⟩, _, _, ⟨e, rfl, he⟩, v, _, ⟨u, rfl, hv⟩, rfl, rfl⟩
    exact ⟨[t, e, u], rfl, t, e, u, rfl, hc, Token.is_symbol_iff.1 he, hv⟩
  · rintro ⟨_, rfl, t, e, u, rfl, hc, he, hv⟩
    exact ⟨a.1, _, ⟨t, rfl, hc⟩, (), _, ⟨e, rfl, Token.is_symbol_iff.2 he⟩, a.2, _, ⟨u, rfl, hv⟩,
      rfl, rfl⟩

theorem assignments_eq_ok {assignments : List (String × String)} :
    items (fun _ => assignment) ts = .ok (assignments, rest) ↔
      ∃ used, ts = used ++ rest ∧ Listed Assignment used assignments ∧
        NotAhead (.symbol .comma) rest := by
  refine items_const_eq_ok assignment_eq_ok fun ts a h => ?_
  obtain ⟨c, e, v, rfl, -⟩ := h
  exact List.cons_ne_nil _ _

/-- New columns are columns no two of which have one name. -/
theorem newColumns_eq_ok {columns : List String} :
    items newColumn ts = .ok (columns, rest) ↔
      ∃ used, ts = used ++ rest ∧ Listed (Single Token.Column) used columns ∧
        (columns.Pairwise fun a b => Text.eqCaseless a b = false) ∧
        NotAhead (.symbol .comma) rest := by
  refine items_eq_ok ?_ single_ne_nil (fun as bs h => (List.pairwise_append.1 h).1) .nil
  intro before hbefore ts c rest
  have hdistinct : (before ++ [c]).Pairwise (fun a b => Text.eqCaseless a b = false) ↔
      ¬before.any (Text.eqCaseless · c) = true := by
    simp [List.pairwise_append, hbefore]
  rw [hdistinct, newColumn, bind_eq_ok]
  constructor
  · rintro ⟨c', mid, hc, h⟩
    split at h
    · exact (throw_eq_ok.1 h).elim
    · next hnew =>
      obtain ⟨rfl, rfl⟩ := pure_eq_ok.1 h
      obtain ⟨used, rfl, hused⟩ := (single_eq_ok (fun _ _ _ => column_eq_ok) _ _ _).1 hc
      exact ⟨used, rfl, hused, hnew⟩
  · rintro ⟨used, rfl, hused, hnew⟩
    have hc : column (used ++ rest) = .ok (c, rest) :=
      (single_eq_ok (fun _ _ _ => column_eq_ok) _ _ _).2 ⟨used, rfl, hused⟩
    exact ⟨c, rest, hc, by rw [if_neg hnew]; rfl⟩

end Lists

section Conditions
open Grammar

/-- A reading in part knows how many parentheses are open. -/
theorem checkPairs_step {r r' : Reading} {t : Token} (h : r.Reads t r') (rest : List Token) :
    checkPairs r.outer.length (t :: rest) = checkPairs r'.outer.length rest := by
  cases h with
  | value h =>
    simp only [List.mem_cons, List.not_mem_nil, or_false] at h
    rcases h with h | h | h <;> simp [checkPairs, h]
  | _ h => simp [checkPairs, h]

theorem checkPairs_of_foldlM {r r' : Reading} {ts : List Token}
    (h : ts.foldlM Reading.step r = .ok r') (hend : r'.outer = []) :
    checkPairs r.outer.length ts = .ok () := by
  induction ts generalizing r with
  | nil =>
    cases h
    rw [hend]
    rfl
  | cons t ts ih =>
    obtain ⟨r₁, hreads, hrest⟩ := Reading.foldlM_step_cons.1 h
    rw [checkPairs_step hreads]
    exact ih hrest

/-- The parentheses of a condition are paired, so the check of pairs refuses nothing more. -/
theorem checkPairs_of_ofTokens {ts : List Token} {c : Condition}
    (h : Condition.ofTokens ts = .ok c) : checkPairs 0 ts = .ok () := by
  obtain ⟨operand, level, hread, -⟩ := Condition.ofTokens_eq_ok_iff_reads.1 h
  exact checkPairs_of_foldlM hread rfl

theorem ne_nil_of_ofTokens {ts : List Token} {c : Condition} (h : Condition.ofTokens ts = .ok c) :
    ts ≠ [] := by
  rintro rfl
  cases h

/-- The tokens of a clause have no semicolon, and end before one or at the end. -/
theorem clause_eq_ok {ts used rest : List Token} :
    clause ts = .ok (used, rest) ↔ ts = used ++ rest ∧
      (∀ t ∈ used, t.kind ≠ .symbol .semicolon) ∧
        ∀ t ∈ rest.head?, t.kind = .symbol .semicolon := by
  rw [clause, Except.ok.injEq, List.span_eq_takeWhile_dropWhile, Prod.mk.injEq]
  constructor
  · rintro ⟨rfl, rfl⟩
    refine ⟨List.takeWhile_append_dropWhile.symm, fun t ht => ?_, fun t ht => ?_⟩
    · have hkept := List.mem_takeWhile_imp ht
      simpa using hkept
    · have hnot := List.head?_dropWhile_not (fun u : Token => u.kind ≠ .symbol .semicolon) ts
      rw [Option.mem_def.1 ht] at hnot
      simpa using hnot
  · rintro ⟨rfl, hused, hrest⟩
    rw [List.takeWhile_append_of_pos (by simpa using hused),
      List.dropWhile_append_of_pos (by simpa using hused)]
    cases rest with
    | nil => simp
    | cons t rest =>
      have hsemi : t.kind = .symbol .semicolon := hrest t rfl
      simp [hsemi]

theorem whereClause_eq_ok {ts : List Token} {semicolon : Token} {c : Option Condition}
    (hsemi : semicolon.kind = .symbol .semicolon) :
    whereClause ts = .ok (c, [semicolon]) ↔
      ∃ used, ts = used ++ [semicolon] ∧ Where Token.Spells used c := by
  rw [whereClause, accept_then_eq_ok]
  constructor
  · rintro (⟨w, mid, rfl, hw, h⟩ | ⟨-, h⟩)
    · simp only [bind_eq_ok, map_eq_ok, liftM_eq_ok] at h
      obtain ⟨used, rest, hclause, _, _, ⟨-, rfl⟩, c', ⟨hc, rfl⟩, rfl⟩ := h
      obtain ⟨rfl, hno, -⟩ := clause_eq_ok.1 hclause
      exact ⟨w :: used, rfl, .some hw (ne_nil_of_ofTokens hc) hno hc⟩
    · obtain ⟨rfl, rfl⟩ := pure_eq_ok.1 h
      exact ⟨[], rfl, .none⟩
  · rintro ⟨used, rfl, hused⟩
    cases hused with
    | none => exact .inr ⟨.cons (f := .symbol .semicolon) hsemi (by decide), rfl⟩
    | @some w used c hw _ hno hc =>
      have hclause : clause (used ++ [semicolon]) = .ok (used, [semicolon]) :=
        clause_eq_ok.2 ⟨rfl, hno, by simpa using hsemi⟩
      refine .inl ⟨w, used ++ [semicolon], rfl, hw, ?_⟩
      simp only [bind_eq_ok, map_eq_ok, liftM_eq_ok]
      exact ⟨used, [semicolon], hclause, (), _, ⟨checkPairs_of_ofTokens hc, rfl⟩, c, ⟨hc, rfl⟩, rfl⟩

end Conditions

end TokenReader

end Tabular
