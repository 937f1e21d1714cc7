import Tabular.Proofs.Statement.Readers
import Tabular.Proofs.Token.Plain

/-! Statements read from texts of one line: what they say, and what the errors quote for which they
are refused, is of one line too. -/
namespace Tabular

def Statement.Plain : Statement → Prop
  | use d | createDatabase d | dropDatabase d => OneLine d
  | createTable table columns => OneLine table ∧ ∀ c ∈ columns, OneLine c
  | alter table _ column => OneLine table ∧ OneLine column
  | insert table literals => OneLine table ∧ ∀ l ∈ literals, OneLine l
  | select table (.columns names) _ => OneLine table ∧ ∀ c ∈ names, OneLine c
  | update table pairs _ => OneLine table ∧ ∀ pair ∈ pairs, OneLine pair.1 ∧ OneLine pair.2
  | dropTable table | select table .all _ | delete table _ => OneLine table
  | join left right leftColumn rightColumn =>
    (OneLine left ∧ OneLine right) ∧ OneLine leftColumn ∧ OneLine rightColumn

namespace TokenReader
variable {α β : Type} {P : α → Prop} {Q : β → Prop}

/-- From tokens of one line, a reader goes on with such tokens, or fails with a plain error. -/
def Plainly (P : α → Prop) (x : TokenReader α) : Prop :=
  ∀ ts, PlainTokens ts → match x ts with
    | .ok (a, rest) => P a ∧ PlainTokens rest
    | .error e => e.Plain

section Rules

theorem plainly_pure {a : α} (h : P a) : Plainly P (pure a) := fun _ hts => ⟨h, hts⟩

theorem plainly_throw {e : Error} (h : e.Plain) : Plainly P (throw e) := fun _ _ => h

theorem plainly_bind {x : TokenReader α} {f : α → TokenReader β} (hx : Plainly P x)
    (hf : ∀ a, P a → Plainly Q (f a)) : Plainly Q (x >>= f) := by
  intro ts hts
  have hx := hx ts hts
  rw [bind_apply]
  cases hr : x ts with
  | error e => rw [hr] at hx; exact hx
  | ok r =>
    rw [hr] at hx
    exact hf r.1 hx.1 r.2 hx.2

theorem plainly_map {x : TokenReader α} {f : α → β} (hx : Plainly P x) (hf : ∀ a, P a → Q (f a)) :
    Plainly Q (f <$> x) :=
  plainly_bind hx fun a ha => plainly_pure (hf a ha)

theorem plainly_get : Plainly PlainTokens (get : TokenReader (List Token)) := fun _ hts => ⟨hts, hts⟩

theorem plainly_liftM {x : Except ParseError α} (he : ∀ cause, x = .error cause →
    (Error.parse cause).Plain) : Plainly (fun _ => True) (liftM x : TokenReader α) := by
  cases x with
  | error cause => exact plainly_throw (he cause rfl)
  | ok a => exact plainly_pure trivial

theorem plainly_if {c : Prop} [Decidable c] {x y : TokenReader α} (hx : Plainly P x)
    (hy : Plainly P y) : Plainly P (if c then x else y) := by
  split
  · exact hx
  · exact hy

theorem plainly_refuse {c : Prop} [Decidable c] {e : Error} {f : β → TokenReader α}
    {x : TokenReader α} (he : e.Plain) (hx : Plainly P x) :
    Plainly P (if c then throw e >>= f else x) :=
  plainly_if (fun _ _ => he) hx

end Rules

section Parts

theorem plainly_accept (f : Fixed) : Plainly (fun _ => True) (accept f) := by
  intro ts hts
  cases ts with
  | nil => exact ⟨trivial, hts⟩
  | cons t rest =>
    rw [accept]
    dsimp only
    split
    · exact ⟨trivial, (List.forall_mem_cons.1 hts).2⟩
    · exact ⟨trivial, hts⟩

theorem plainly_require (f : Fixed) : Plainly (fun _ => True) (require f) := by
  intro ts hts
  cases ts with
  | nil => exact Error.plain_of_no_quotes rfl
  | cons t rest =>
    obtain ⟨ht, hrest⟩ := List.forall_mem_cons.1 hts
    rw [require]
    by_cases halike : (!t.kind.alike f.kind) = true
    · rw [if_pos halike]
      exact Error.plain_of_quotes_one rfl ht
    · rw [if_neg halike]
      by_cases his : (!t.is f) = true
      · rw [if_pos his]
        exact Error.plain_of_quotes_one rfl ht
      · rw [if_neg his]
        exact ⟨trivial, hrest⟩

theorem plainly_operand (allowed : Kind → Bool) : Plainly OneLine (operand allowed) := by
  intro ts hts
  cases ts with
  | nil => exact nofun
  | cons t rest =>
    obtain ⟨ht, hrest⟩ := List.forall_mem_cons.1 hts
    rw [operand]
    cases ho : operand? allowed t with
    | none => exact Error.plain_of_quotes_one rfl ht
    | some s =>
      obtain ⟨-, rfl⟩ := operand?_eq_some.1 ho
      exact ⟨oneLine_value ht, hrest⟩

theorem plainly_name : Plainly OneLine name := by
  exact plainly_map (plainly_operand _) fun _ => oneLine_lowerAscii

theorem plainly_items {item : List α → TokenReader α} (hitem : ∀ before, Plainly P (item before)) :
    Plainly (fun as => ∀ a ∈ as, P a) (items item) := by
  have hfrom : ∀ (limit : Nat) (before : List α), (∀ a ∈ before, P a) →
      Plainly (fun as => ∀ a ∈ as, P a) (itemsFrom item limit before) := by
    intro limit
    induction limit with
    | zero => exact fun _ _ => plainly_throw nofun
    | succ limit ih =>
      intro before hbefore
      refine plainly_bind (hitem before) fun a ha => ?_
      have hall : ∀ b ∈ before ++ [a], P b := by
        intro b hb
        rcases List.mem_append.1 hb with hb | hb
        · exact hbefore b hb
        · exact List.mem_singleton.1 hb ▸ ha
      exact plainly_bind (plainly_accept _) fun more _ =>
        plainly_if (ih _ hall) (plainly_pure hall)
  exact fun ts hts => hfrom (ts.length + 1) [] nofun ts hts

theorem plainly_column : Plainly OneLine column := plainly_operand _

theorem plainly_literal : Plainly OneLine literal := plainly_operand _

theorem plainly_newColumn (before : List String) : Plainly OneLine (newColumn before) := by
  refine plainly_bind plainly_column fun c hc => ?_
  exact plainly_if (plainly_throw (Error.plain_of_quotes_one rfl hc)) (plainly_pure hc)

theorem plainly_assignment :
    Plainly (fun pair => OneLine pair.1 ∧ OneLine pair.2) assignment := by
  refine plainly_bind plainly_column fun c hc => plainly_bind (plainly_require _) fun _ _ => ?_
  exact plainly_bind plainly_literal fun l hl => plainly_pure ⟨hc, hl⟩

theorem plainly_projection : Plainly
    (fun shown => match shown with
      | .all => True
      | .columns names => ∀ c ∈ names, OneLine c) projection := by
  refine plainly_bind (plainly_accept _) fun star _ => plainly_if (plainly_pure trivial) ?_
  exact plainly_map (plainly_items fun _ => plainly_column) fun _ hnames => hnames

end Parts

section Conditions

theorem quotes_of_checkPairs {depth : Nat} {ts : List Token} {e : ParseError}
    (h : checkPairs depth ts = .error e) : e.quotes = [] := by
  fun_induction checkPairs depth ts
  case case1 => cases h
  case case2 | case4 => cases h; rfl
  case case3 ih | case5 ih | case6 ih => exact ih h

/-- A token that does not continue a condition is all that its refusal quotes. -/
theorem quotes_of_step {r : Reading} {t : Token} {e : ParseError} (h : r.step t = .error e) :
    ∀ q ∈ e.quotes, q = t.text := by
  have hone : ∀ q ∈ [t.text], q = t.text := fun q hq => List.mem_singleton.1 hq
  unfold Reading.step at h
  repeat' split at h
  all_goals cases h
  all_goals first | exact hone | exact nofun

theorem quotes_of_finish {r : Reading} {e : ParseError} (h : r.finish = .error e) :
    e.quotes = [] := by
  unfold Reading.finish at h
  split at h <;> cases h <;> rfl

/-- What the refusal of a condition quotes is one of its tokens. -/
theorem quotes_of_ofTokens {ts : List Token} {e : ParseError}
    (h : Condition.ofTokens ts = .error e) : ∀ q ∈ e.quotes, ∃ t ∈ ts, q = t.text := by
  unfold Condition.ofTokens at h
  split at h
  · cases h
    exact nofun
  · rcases Except.bind_eq_error.1 h with hread | ⟨r, -, hfinish⟩
    · obtain ⟨t, ht, r, hstep⟩ := exists_of_foldlM_error hread
      exact fun q hq => ⟨t, ht, quotes_of_step hstep q hq⟩
    · rw [quotes_of_finish hfinish]
      exact nofun

theorem plainly_clause : Plainly PlainTokens clause := by
  intro ts hts
  rw [clause]
  dsimp only
  rw [List.span_eq_takeWhile_dropWhile]
  exact ⟨fun t ht => hts t ((List.takeWhile_sublist _).subset ht),
    fun t ht => hts t ((List.dropWhile_sublist _).subset ht)⟩

theorem plainly_whereClause : Plainly (fun _ => True) whereClause := by
  refine plainly_bind (plainly_accept _) fun there _ => plainly_if ?_ (plainly_pure trivial)
  refine plainly_bind plainly_clause fun tokens htokens => ?_
  refine plainly_bind (plainly_liftM fun cause h => ?_) fun _ _ => ?_
  · exact Error.plain_of_no_quotes (quotes_of_checkPairs h)
  · refine plainly_map (plainly_liftM fun cause h q hq => ?_) fun _ _ => trivial
    obtain ⟨t, ht, rfl⟩ := quotes_of_ofTokens h q hq
    exact htokens t ht

end Conditions

section Statements

theorem plainly_use : Plainly Statement.Plain use := by
  refine plainly_bind (plainly_require _) fun _ _ => ?_
  exact plainly_bind plainly_name fun d hd => plainly_pure hd

theorem plainly_create : Plainly Statement.Plain create := by
  refine plainly_bind (plainly_require _) fun _ _ => plainly_bind (plainly_accept _) fun _ _ => ?_
  refine plainly_if (plainly_bind plainly_name fun d hd => plainly_pure hd) ?_
  refine plainly_bind (plainly_accept _) fun _ _ => plainly_if ?_ (plainly_throw nofun)
  refine plainly_bind plainly_name fun table htable => ?_
  refine plainly_bind (plainly_accept _) fun _ _ => plainly_if ?_ (plainly_pure ⟨htable, nofun⟩)
  refine plainly_bind (plainly_items plainly_newColumn) fun columns hcolumns => ?_
  refine plainly_bind (plainly_require _) fun _ _ => plainly_pure ⟨htable, fun c hc => ?_⟩
  exact hcolumns c (List.mem_filter.1 hc).1

theorem plainly_drop : Plainly Statement.Plain drop := by
  refine plainly_bind (plainly_require _) fun _ _ => ?_
  refine plainly_bind (plainly_map (Q := fun _ => True) (plainly_operand _) fun _ _ => trivial)
    fun word _ => ?_
  split
  · exact plainly_bind plainly_name fun table htable => plainly_pure htable
  · exact plainly_bind plainly_name fun d hd => plainly_pure hd
  · exact plainly_throw nofun

theorem plainly_alter : Plainly Statement.Plain alter := by
  refine plainly_bind (plainly_require _) fun _ _ => plainly_bind (plainly_require _) fun _ _ => ?_
  refine plainly_bind plainly_name fun table htable => plainly_bind (plainly_accept _) fun _ _ => ?_
  have hchange (change : ColumnChange) :
      Plainly Statement.Plain (do pure (.alter table change (← column))) :=
    plainly_bind plainly_column fun c hc => plainly_pure ⟨htable, hc⟩
  refine plainly_if (hchange .add) (plainly_bind (plainly_accept _) fun _ _ => ?_)
  exact plainly_if (hchange .drop) (plainly_throw nofun)

theorem plainly_insert : Plainly Statement.Plain insert := by
  refine plainly_bind (plainly_require _) fun _ _ => plainly_bind (plainly_require _) fun _ _ => ?_
  refine plainly_bind plainly_name fun table htable => plainly_bind (plainly_require _) fun _ _ => ?_
  refine plainly_bind (plainly_require _) fun _ _ => ?_
  refine plainly_bind (plainly_items fun _ => plainly_literal) fun literals hliterals => ?_
  exact plainly_bind (plainly_require _) fun _ _ => plainly_pure ⟨htable, hliterals⟩

theorem plainly_select : Plainly Statement.Plain select := by
  refine plainly_bind (plainly_require _) fun _ _ => ?_
  refine plainly_bind plainly_projection fun shown hshown => ?_
  refine plainly_bind (plainly_require _) fun _ _ => plainly_bind plainly_name fun table htable => ?_
  refine plainly_bind plainly_whereClause fun condition _ => plainly_pure ?_
  cases shown with
  | all => exact htable
  | columns names => exact ⟨htable, hshown⟩

theorem plainly_update : Plainly Statement.Plain update := by
  refine plainly_bind (plainly_require _) fun _ _ => plainly_bind plainly_name fun table htable => ?_
  refine plainly_refuse nofun (plainly_bind (plainly_require _) fun _ _ => ?_)
  refine plainly_bind (plainly_items fun _ => plainly_assignment) fun pairs hpairs => ?_
  exact plainly_bind plainly_whereClause fun condition _ => plainly_pure ⟨htable, hpairs⟩

theorem plainly_delete : Plainly Statement.Plain delete := by
  refine plainly_bind (plainly_require _) fun _ _ => plainly_bind (plainly_require _) fun _ _ => ?_
  refine plainly_bind plainly_name fun table htable => ?_
  exact plainly_bind plainly_whereClause fun condition _ => plainly_pure htable

theorem plainly_join : Plainly Statement.Plain join := by
  refine plainly_bind (plainly_require _) fun _ _ => plainly_bind plainly_name fun left hleft => ?_
  refine plainly_bind (plainly_require _) fun _ _ => plainly_bind plainly_name fun right hright => ?_
  refine plainly_bind (plainly_require _) fun _ _ => plainly_bind plainly_column fun lc hlc => ?_
  refine plainly_bind (plainly_require _) fun _ _ => plainly_bind plainly_column fun rc hrc => ?_
  exact plainly_pure ⟨⟨hleft, hright⟩, hlc, hrc⟩

theorem plainly_statementOf (word : Keyword) : Plainly Statement.Plain (statementOf word) := by
  cases word with
  | use => exact plainly_use
  | create => exact plainly_create
  | drop => exact plainly_drop
  | alter => exact plainly_alter
  | insert => exact plainly_insert
  | select => exact plainly_select
  | update => exact plainly_update
  | delete => exact plainly_delete
  | join => exact plainly_join
  | _ => exact plainly_throw nofun

theorem plainly_statement : Plainly Statement.Plain statement := by
  refine plainly_bind plainly_get fun ts _ => ?_
  split
  · exact plainly_statementOf _
  · exact plainly_throw nofun

theorem plainly_finish : Plainly (fun _ => True) finish := by
  refine plainly_bind (plainly_accept _) fun _ _ => plainly_refuse nofun ?_
  refine plainly_bind plainly_get fun ts hts => ?_
  split
  · exact plainly_pure trivial
  · exact plainly_throw (Error.plain_of_quotes_one rfl (hts _ (List.mem_cons_self ..)))

end Statements

end TokenReader

theorem Statement.plain_ofTokens {ts : List Token} (hts : PlainTokens ts) :
    match ofTokens ts with
    | .ok st => st.Plain
    | .error e => e.Plain := by
  have hread := TokenReader.plainly_bind TokenReader.plainly_statement
    (fun st hst => TokenReader.plainly_bind TokenReader.plainly_finish fun _ _ =>
      TokenReader.plainly_pure (P := Statement.Plain) hst) ts hts
  rw [ofTokens, StateT.run']
  revert hread
  generalize (TokenReader.statement >>= fun st => TokenReader.finish >>= fun _ => pure st :
    TokenReader Statement) ts = r
  cases r with
  | error e => exact id
  | ok read => exact And.left

/-- A text of one line writes a statement that is plain, or is refused with a plain error. -/
theorem Statement.plain_ofText {s : String} (hs : OneLine s) : match ofText s with
    | .ok st => st.Plain
    | .error e => e.Plain := by
  have htokens := plain_tokenize hs
  unfold ofText
  cases ht : Token.tokenize s with
  | error cause => rw [ht] at htokens; exact htokens
  | ok ts => rw [ht] at htokens; exact plain_ofTokens htokens

end Tabular
