import Tabular.Proofs.Statement.Readers
import Tabular.Proofs.Table.Checked

/-! Reading statements with the place of every token counted: the tokens of a condition are a slice
of all tokens, which is never out of range, and parentheses are counted down only while some are
open. -/
namespace Tabular

inductive Stop where
  | error (e : Error)
  | crash (c : Crash)
  deriving DecidableEq, Repr

namespace TokenReader
variable {α β : Type}

theorem checkPairs_skip {t : Token} (hopen : t.kind ≠ .symbol .open_)
    (hclose : t.kind ≠ .symbol .close) (depth : Nat) (rest : List Token) :
    checkPairs depth (t :: rest) = checkPairs depth rest := by
  conv_lhs => unfold checkPairs
  split
  · next hk => exact (hopen hk).elim
  · next hk => exact (hclose hk).elim
  · next hk => exact (hclose hk).elim
  · rfl

/-- What is read leaves tokens at the end of those that were there. -/
def LeavesSuffix (x : TokenReader α) : Prop := ∀ ts a rest, x ts = .ok (a, rest) → rest <:+ ts

theorem leavesSuffix_pure (a : α) : LeavesSuffix (pure a) := by
  intro ts b rest h
  obtain ⟨-, rfl⟩ := pure_eq_ok.1 h
  exact List.suffix_refl _

theorem leavesSuffix_throw (e : Error) : LeavesSuffix (throw e : TokenReader α) :=
  fun _ _ _ h => (throw_eq_ok.1 h).elim

theorem leavesSuffix_bind {x : TokenReader α} {f : α → TokenReader β} (hx : LeavesSuffix x)
    (hf : ∀ a, LeavesSuffix (f a)) : LeavesSuffix (x >>= f) := by
  intro ts b rest h
  obtain ⟨a, mid, ha, hb⟩ := bind_eq_ok.1 h
  exact (hf a _ _ _ hb).trans (hx _ _ _ ha)

theorem leavesSuffix_map {x : TokenReader α} (hx : LeavesSuffix x) (f : α → β) :
    LeavesSuffix (f <$> x) := by
  intro ts b rest h
  obtain ⟨a, ha, -⟩ := map_eq_ok.1 h
  exact hx _ _ _ ha

theorem leavesSuffix_if {c : Prop} [Decidable c] {x y : TokenReader α} (hx : LeavesSuffix x)
    (hy : LeavesSuffix y) : LeavesSuffix (if c then x else y) := by
  split
  · exact hx
  · exact hy

theorem leavesSuffix_accept (f : Fixed) : LeavesSuffix (accept f) := by
  intro ts taken rest h
  rcases accept_eq_ok.1 h with ⟨-, t, rfl, -⟩ | ⟨-, rfl, -⟩
  · exact List.suffix_cons t rest
  · exact List.suffix_refl _

theorem leavesSuffix_require (f : Fixed) : LeavesSuffix (require f) := by
  intro ts u rest h
  obtain ⟨t, rfl, -⟩ := require_eq_ok.1 h
  exact List.suffix_cons t rest

theorem leavesSuffix_operand (allowed : Kind → Bool) : LeavesSuffix (operand allowed) := by
  intro ts s rest h
  obtain ⟨t, rfl, -⟩ := operand_eq_ok.1 h
  exact List.suffix_cons t rest

theorem leavesSuffix_name : LeavesSuffix name := leavesSuffix_map (leavesSuffix_operand _) _

theorem leavesSuffix_items {item : List α → TokenReader α}
    (hitem : ∀ before, LeavesSuffix (item before)) : LeavesSuffix (items item) := by
  have hfrom : ∀ limit before, LeavesSuffix (itemsFrom item limit before) := by
    intro limit
    induction limit with
    | zero => exact fun _ => leavesSuffix_throw _
    | succ limit ih =>
      intro before
      refine leavesSuffix_bind (hitem before) fun a => ?_
      exact leavesSuffix_bind (leavesSuffix_accept _) fun _ =>
        leavesSuffix_if (ih _) (leavesSuffix_pure _)
  exact fun ts => hfrom (ts.length + 1) [] ts

theorem leavesSuffix_projection : LeavesSuffix projection := by
  refine leavesSuffix_bind (leavesSuffix_accept _) fun _ => leavesSuffix_if (leavesSuffix_pure _) ?_
  exact leavesSuffix_map (leavesSuffix_items fun _ => leavesSuffix_operand _) _

theorem leavesSuffix_assignment : LeavesSuffix assignment :=
  leavesSuffix_bind (leavesSuffix_operand _) fun _ =>
    leavesSuffix_bind (leavesSuffix_require _) fun _ =>
      leavesSuffix_bind (leavesSuffix_operand _) fun _ => leavesSuffix_pure _

end TokenReader

abbrev CheckedReader (α : Type) := StateT (List Token) (Except Stop) α

namespace CheckedReader
open TokenReader (LeavesSuffix)
variable {α β : Type}

def ofReader (x : TokenReader α) : CheckedReader α := fun ts => (x ts).mapError .error

def ofChecked (x : Except Crash α) : CheckedReader α := liftM (x.mapError Stop.crash)

/-- The place that ends a condition, counted from the place of the tokens ahead, after `depth` open
parentheses. -/
def clauseEnd (depth place : Nat) : List Token → CheckedReader Nat
  | [] => if 0 < depth then throw (.error (.parse .unmatchedOpen)) else pure place
  | t :: rest =>
    match t.kind with
    | .symbol .semicolon =>
      if 0 < depth then throw (.error (.parse .unmatchedOpen)) else pure place
    | .symbol .open_ => clauseEnd (depth + 1) (place + 1) rest
    | .symbol .close =>
      if depth = 0 then throw (.error (.parse .unmatchedClose))
      else do clauseEnd (← ofChecked (Checked.sub depth 1)) (place + 1) rest
    | _ => clauseEnd depth (place + 1) rest

/-- A condition after `WHERE`, if there is one. Its tokens are cut out of all tokens. -/
def whereClause (all : List Token) : CheckedReader (Option Condition) := do
  if ← ofReader (.accept (.keyword .where_)) then
    let ahead ← get
    let start ← ofChecked (Checked.sub all.length ahead.length)
    let stop ← clauseEnd 0 start ahead
    let tokens ← ofChecked (Checked.slice all start stop)
    set (all.drop stop)
    some <$> ofReader (liftM (Condition.ofTokens tokens))
  else pure none

def select (all : List Token) : CheckedReader Statement := do
  ofReader (.require (.keyword .select))
  let shown ← ofReader .projection
  ofReader (.require (.keyword .from_))
  let table ← ofReader .name
  pure (.select table shown (← whereClause all))

def update (all : List Token) : CheckedReader Statement := do
  ofReader (.require (.keyword .update))
  let table ← ofReader .name
  if table == idColumn then throw (.error (.parse .updateOfId))
  ofReader (.require (.keyword .set))
  let assignments ← ofReader (.items fun _ => .assignment)
  pure (.update table assignments (← whereClause all))

def delete (all : List Token) : CheckedReader Statement := do
  ofReader (.require (.keyword .delete))
  ofReader (.require (.keyword .from_))
  let table ← ofReader .name
  pure (.delete table (← whereClause all))

def statementOf (all : List Token) : Keyword → CheckedReader Statement
  | .select => select all
  | .update => update all
  | .delete => delete all
  | word => ofReader (.statementOf word)

def statement (all : List Token) : CheckedReader Statement := do
  match (← get).head?.map Token.kind with
  | some (.keyword word) => statementOf all word
  | _ => throw (.error (.parse .unknownCommand))

/-- From some of the last of all tokens, a reader with checks does what one without them does. -/
def Agrees (all : List Token) (x : CheckedReader α) (y : TokenReader α) : Prop :=
  ∀ ts, ts <:+ all → x ts = ofReader y ts

section Rules
variable {all : List Token} {x : CheckedReader α} {y : TokenReader α}

theorem agrees_ofReader (y : TokenReader α) : Agrees all (ofReader y) y := fun _ _ => rfl

theorem agrees_pure (a : α) : Agrees all (pure a) (pure a) := fun _ _ => rfl

theorem agrees_throw (e : Error) : Agrees all (throw (.error e)) (throw e : TokenReader α) :=
  fun _ _ => rfl

theorem agrees_bind {f : α → CheckedReader β} {g : α → TokenReader β} (hx : Agrees all x y)
    (hy : LeavesSuffix y) (hf : ∀ a, Agrees all (f a) (g a)) :
    Agrees all (x >>= f) (y >>= g) := by
  intro ts hts
  change (x ts >>= fun p => f p.1 p.2) = _
  rw [hx ts hts, ofReader, ofReader, TokenReader.bind_apply]
  cases hr : y ts with
  | error e => rfl
  | ok p => exact hf p.1 p.2 ((hy ts p.1 p.2 hr).trans hts)

theorem agrees_ofReader_bind {f : α → CheckedReader β} {g : α → TokenReader β}
    (hy : LeavesSuffix y) (hf : ∀ a, Agrees all (f a) (g a)) :
    Agrees all (ofReader y >>= f) (y >>= g) :=
  agrees_bind (agrees_ofReader y) hy hf

theorem agrees_bind_ofReader (hx : Agrees all x y) (g : α → TokenReader β) :
    Agrees all (x >>= fun a => ofReader (g a)) (y >>= g) := by
  intro ts hts
  change (x ts >>= fun p => ofReader (g p.1) p.2) = _
  rw [hx ts hts, ofReader, ofReader, TokenReader.bind_apply]
  cases y ts <;> rfl

theorem agrees_get_bind {f : List Token → CheckedReader α} {g : List Token → TokenReader α}
    (h : ∀ ts, Agrees all (f ts) (g ts)) : Agrees all (get >>= f) (get >>= g) :=
  fun ts hts => h ts ts hts

theorem agrees_if {c : Prop} [Decidable c] {x' : CheckedReader α} {y' : TokenReader α}
    (h : Agrees all x y) (h' : Agrees all x' y') :
    Agrees all (if c then x else x') (if c then y else y') := by
  split
  · exact h
  · exact h'

end Rules

section Conditions

theorem bind_ok {x : CheckedReader α} {ts rest : List Token} {a : α} (h : x ts = .ok (a, rest))
    (f : α → CheckedReader β) : (x >>= f) ts = f a rest := by
  change (x ts >>= fun p => f p.1 p.2) = _
  rw [h]
  rfl

theorem bind_error {x : CheckedReader α} {ts : List Token} {e : Stop} (h : x ts = .error e)
    (f : α → CheckedReader β) : (x >>= f) ts = .error e := by
  change (x ts >>= fun p => f p.1 p.2) = _
  rw [h]
  rfl

theorem ofChecked_ok {x : Except Crash α} {a : α} (h : x = .ok a) (ts : List Token) :
    ofChecked x ts = .ok (a, ts) := by
  rw [h]
  rfl

/-- The place that is counted is the one after the tokens up to the next semicolon. -/
theorem clauseEnd_eq (depth place : Nat) (ts : List Token) :
    clauseEnd depth place ts = ofReader (do
      liftM (TokenReader.checkPairs depth (ts.takeWhile (·.kind ≠ .symbol .semicolon)))
      pure (place + (ts.takeWhile (·.kind ≠ .symbol .semicolon)).length)) := by
  induction ts generalizing depth place with
  | nil => cases depth <;> rfl
  | cons t rest ih =>
    by_cases hend : t.kind = .symbol .semicolon
    · rw [List.takeWhile_cons_of_neg (by simpa using hend), clauseEnd, hend]
      cases depth <;> rfl
    · rw [List.takeWhile_cons_of_pos (by simpa using hend), List.length_cons,
        Nat.add_comm _ 1, ← Nat.add_assoc, clauseEnd]
      split
      · next hk => exact (hend hk).elim
      · next hk => simp only [ih, TokenReader.checkPairs, hk]
      · next hk =>
        cases depth with
        | zero => simp only [TokenReader.checkPairs, hk]; rfl
        | succ outer =>
          simp only [TokenReader.checkPairs, hk]
          exact ih outer (place + 1)
      · next hopen hclose => rw [ih, TokenReader.checkPairs_skip hopen hclose]

theorem slice_append (before used after : List Token) :
    Checked.slice (before ++ (used ++ after)) before.length (before.length + used.length) =
      .ok used := by
  have hplaces : before.length ≤ before.length + used.length ∧
      before.length + used.length ≤ (before ++ (used ++ after)).length := by
    simp only [List.length_append]
    omega
  rw [Checked.slice, if_pos hplaces, List.take_length_add_append, List.drop_left, List.take_left]

/-- The tokens of a clause are the next ones, and the place that is counted is the one after them. -/
theorem exists_clause (before ts : List Token) : ∃ used after, ts = used ++ after ∧
    TokenReader.clause ts = .ok (used, after) ∧
    clauseEnd 0 before.length ts ts = match TokenReader.checkPairs 0 used with
      | .ok _ => .ok (before.length + used.length, ts)
      | .error e => .error (.error (.parse e)) := by
  refine ⟨ts.takeWhile (·.kind ≠ .symbol .semicolon), _, List.takeWhile_append_dropWhile.symm, ?_, ?_⟩
  · rw [TokenReader.clause, List.span_eq_takeWhile_dropWhile]
  · rw [clauseEnd_eq]
    cases hpairs : TokenReader.checkPairs 0 (ts.takeWhile (·.kind ≠ .symbol .semicolon)) <;> rfl

/-- The tokens of a condition are cut out of those that are there. -/
theorem agrees_whereClause (all : List Token) :
    Agrees all (whereClause all) TokenReader.whereClause := by
  refine agrees_ofReader_bind (TokenReader.leavesSuffix_accept _) fun there => ?_
  cases there with
  | false => exact agrees_pure _
  | true =>
    rintro ts ⟨before, rfl⟩
    obtain ⟨used, after, rfl, hclause, hstop⟩ := exists_clause before ts
    have hstart : Checked.sub (before ++ (used ++ after)).length (used ++ after).length =
        .ok before.length := by
      rw [List.length_append, Checked.sub_eq (Nat.le_add_left ..), Nat.add_sub_cancel]
    have hafter : (before ++ (used ++ after)).drop (before.length + used.length) = after := by
      rw [List.drop_length_add_append, List.drop_left]
    rw [if_pos rfl, if_pos rfl, ofReader, TokenReader.bind_apply, hclause,
      bind_ok (show (get : CheckedReader (List Token)) (used ++ after) = .ok (_, _) from rfl),
      bind_ok (ofChecked_ok hstart _)]
    cases hpairs : TokenReader.checkPairs 0 used with
    | error e =>
      rw [hpairs] at hstop
      rw [bind_error hstop]
      simp only [Except.bind, hpairs]
      rfl
    | ok u =>
      rw [hpairs] at hstop
      rw [bind_ok hstop, bind_ok (ofChecked_ok (slice_append before used after) _), hafter]
      simp only [Except.bind, hpairs]
      cases hread : Condition.ofTokens used <;> rfl

end Conditions

section Statements
variable (all : List Token)

theorem agrees_select : Agrees all (select all) TokenReader.select :=
  agrees_ofReader_bind (TokenReader.leavesSuffix_require _) fun _ =>
    agrees_ofReader_bind TokenReader.leavesSuffix_projection fun _ =>
      agrees_ofReader_bind (TokenReader.leavesSuffix_require _) fun _ =>
        agrees_ofReader_bind TokenReader.leavesSuffix_name fun _ =>
          agrees_bind_ofReader (agrees_whereClause all) fun _ => pure _

theorem agrees_update : Agrees all (update all) TokenReader.update := by
  refine agrees_ofReader_bind (TokenReader.leavesSuffix_require _) fun _ =>
    agrees_ofReader_bind TokenReader.leavesSuffix_name fun table => ?_
  refine agrees_if (fun _ _ => rfl) ?_
  refine agrees_ofReader_bind (TokenReader.leavesSuffix_require _) fun _ => ?_
  refine agrees_ofReader_bind
    (TokenReader.leavesSuffix_items fun _ => TokenReader.leavesSuffix_assignment) fun _ => ?_
  exact agrees_bind_ofReader (agrees_whereClause all) fun _ => pure _

theorem agrees_delete : Agrees all (delete all) TokenReader.delete :=
  agrees_ofReader_bind (TokenReader.leavesSuffix_require _) fun _ =>
    agrees_ofReader_bind (TokenReader.leavesSuffix_require _) fun _ =>
      agrees_ofReader_bind TokenReader.leavesSuffix_name fun _ =>
        agrees_bind_ofReader (agrees_whereClause all) fun _ => pure _

theorem agrees_statementOf (word : Keyword) :
    Agrees all (statementOf all word) (TokenReader.statementOf word) := by
  cases word with
  | select => exact agrees_select all
  | update => exact agrees_update all
  | delete => exact agrees_delete all
  | _ => exact agrees_ofReader _

theorem agrees_statement : Agrees all (statement all) TokenReader.statement := by
  refine agrees_get_bind fun ts => ?_
  cases ts.head?.map Token.kind with
  | none => exact agrees_throw _
  | some kind =>
    cases kind with
    | keyword word => exact agrees_statementOf all word
    | _ => exact agrees_throw _

end Statements

end CheckedReader

namespace Statement

def ofTokensChecked (tokens : List Token) : Except Stop Statement :=
  StateT.run' (do
    let s ← CheckedReader.statement tokens
    CheckedReader.ofReader (do TokenReader.finish; pure s)) tokens

def ofTextChecked (s : String) : Except Stop Statement := do
  ofTokensChecked (← (Token.tokenize s).mapError fun e => Stop.error (.parse e))

/-- No check fails while a statement is read. -/
theorem ofTokensChecked_eq (tokens : List Token) :
    ofTokensChecked tokens = (ofTokens tokens).mapError .error := by
  have h := CheckedReader.agrees_bind_ofReader (CheckedReader.agrees_statement tokens)
    (fun s => do TokenReader.finish; pure s) tokens (List.suffix_refl _)
  rw [ofTokensChecked, ofTokens, StateT.run', StateT.run', h, CheckedReader.ofReader]
  generalize (TokenReader.statement >>= _ : TokenReader Statement) tokens = r
  cases r <;> rfl

theorem ofTextChecked_eq (s : String) : ofTextChecked s = (ofText s).mapError .error := by
  rw [ofTextChecked, ofText]
  cases Token.tokenize s with
  | error e => rfl
  | ok tokens => exact ofTokensChecked_eq tokens

end Statement

end Tabular
