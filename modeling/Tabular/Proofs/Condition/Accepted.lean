import Tabular.Proofs.Condition.Grammar
import Tabular.Proofs.Condition.Steps
import Tabular.Proofs.Token.Layout
import Tabular.Proofs.Token.Spelling

/-! The tokens that are read as conditions are those of derivations, each as its condition, and a
condition is read back from the tokens that write it. -/
namespace Tabular

section Complete
open Reading

/-- An operand is read as its condition. -/
def Operand.IsRead (o : Operand) : Prop :=
  ∀ level outer rest, (o.tokens ++ rest).foldlM step ⟨.operand, level, outer⟩ =
    rest.foldlM step ⟨.connective o.condition, level, outer⟩

/-- A conjunction is read as a last operand, joined to the operands before it. -/
def Conjunction.IsRead (c : Conjunction) : Prop :=
  ∃ conjuncts last, Level.join .and conjuncts last = c.condition ∧
    ∀ disjuncts outer rest, (c.tokens ++ rest).foldlM step ⟨.operand, ⟨disjuncts, none⟩, outer⟩ =
      rest.foldlM step ⟨.connective last, ⟨disjuncts, conjuncts⟩, outer⟩

/-- A disjunction is read as a last operand, at a level that joins the ones before it. -/
def Disjunction.IsRead (d : Disjunction) : Prop :=
  ∃ level last, Level.finish level last = d.condition ∧
    ∀ outer rest, (d.tokens ++ rest).foldlM step ⟨.operand, .start, outer⟩ =
      rest.foldlM step ⟨.connective last, level, outer⟩

theorem Operand.isRead_comparison (column : TokenOf [.identifier]) (op : Comparison)
    (sign : TokenOf [.comparison op]) (value : TokenOf [.string, .number, .identifier]) :
    (comparison column op sign value).IsRead := by
  intro level outer rest
  have hcolumn : column.1.kind = .identifier := by simpa using column.2
  have hsign : sign.1.kind = .comparison op := by simpa using sign.2
  rw [tokens, List.cons_append, (Reads.column hcolumn).foldlM_cons, List.cons_append,
    (Reads.sign hsign).foldlM_cons, List.cons_append, (Reads.value value.2).foldlM_cons]
  rfl

theorem Operand.isRead_group (left : TokenOf [.symbol .open_]) {inside : Disjunction}
    (right : TokenOf [.symbol .close]) (h : inside.IsRead) : (group left inside right).IsRead := by
  intro level outer rest
  obtain ⟨level', last, hcondition, hinside⟩ := h
  have hleft : left.1.kind = .symbol .open_ := by simpa using left.2
  have hright : right.1.kind = .symbol .close := by simpa using right.2
  rw [tokens, List.cons_append, List.cons_append, (Reads.open_ hleft).foldlM_cons,
    List.append_assoc, hinside, List.singleton_append, (Reads.close hright).foldlM_cons,
    hcondition]
  rfl

theorem Conjunction.isRead_single {o : Operand} (h : o.IsRead) : (single o).IsRead :=
  ⟨none, o.condition, rfl, fun disjuncts outer rest => h ⟨disjuncts, none⟩ outer rest⟩

theorem Conjunction.isRead_and {c : Conjunction} (word : TokenOf [.logical .and]) {o : Operand}
    (hc : c.IsRead) (ho : o.IsRead) : (and c word o).IsRead := by
  obtain ⟨conjuncts, last, hcondition, hread⟩ := hc
  have hword : word.1.kind = .logical .and := by simpa using word.2
  refine ⟨some c.condition, o.condition, rfl, fun disjuncts outer rest => ?_⟩
  rw [tokens, List.append_assoc, hread, List.cons_append, (Reads.word hword).foldlM_cons, ho,
    Level.continue_, hcondition]

theorem Disjunction.isRead_single {c : Conjunction} (h : c.IsRead) : (single c).IsRead := by
  obtain ⟨conjuncts, last, hcondition, hread⟩ := h
  exact ⟨⟨none, conjuncts⟩, last, hcondition, hread none⟩

theorem Disjunction.isRead_or {d : Disjunction} (word : TokenOf [.logical .or]) {c : Conjunction}
    (hd : d.IsRead) (hc : c.IsRead) : (or d word c).IsRead := by
  obtain ⟨level, last, hcondition, hread⟩ := hd
  obtain ⟨conjuncts, last', hcondition', hread'⟩ := hc
  have hword : word.1.kind = .logical .or := by simpa using word.2
  refine ⟨⟨some d.condition, conjuncts⟩, last', ?_, fun outer rest => ?_⟩
  · rw [Level.finish, hcondition']
    rfl
  · rw [tokens, List.append_assoc, hread, List.cons_append, (Reads.word hword).foldlM_cons,
      Level.continue_, hread', hcondition]

mutual

theorem Disjunction.isRead : ∀ d : Disjunction, d.IsRead
  | .single c => Disjunction.isRead_single c.isRead
  | .or d word c => Disjunction.isRead_or word d.isRead c.isRead

theorem Conjunction.isRead : ∀ c : Conjunction, c.IsRead
  | .single o => Conjunction.isRead_single o.isRead
  | .and c word o => Conjunction.isRead_and word c.isRead o.isRead

theorem Operand.isRead : ∀ o : Operand, o.IsRead
  | .group left d right => Operand.isRead_group left right d.isRead
  | .comparison column op sign value => Operand.isRead_comparison column op sign value

end

/-- The tokens of a derivation are read as its condition. -/
theorem Disjunction.ofTokens_tokens (d : Disjunction) :
    Condition.ofTokens d.tokens = .ok d.condition := by
  obtain ⟨level, last, hcondition, hread⟩ := d.isRead
  have hrun : d.tokens.foldlM step .start = .ok ⟨.connective last, level, []⟩ := by
    have := hread [] []
    rwa [List.append_nil] at this
  exact Condition.ofTokens_eq_ok_iff_reads.2 ⟨last, level, hrun, hcondition⟩

end Complete

section Sound

/-- Tokens of something and a connective after it, or none. -/
inductive Begun {α : Type} (tokens : α → List Token) (condition : α → Condition)
    (c : Connective) : List Token → Option Condition → Prop
  | nothing : Begun tokens condition c [] none
  | more (a : α) (word : TokenOf [.logical c]) :
      Begun tokens condition c (tokens a ++ [word.1]) (some (condition a))

/-- The tokens read at a level before an operand. -/
inductive Level.Spans : Level → List Token → Prop
  | mk {disjuncts conjuncts : Option Condition} {ds cs : List Token}
      (hd : Begun Disjunction.tokens Disjunction.condition .or ds disjuncts)
      (hc : Begun Conjunction.tokens Conjunction.condition .and cs conjuncts) :
      Spans ⟨disjuncts, conjuncts⟩ (ds ++ cs)

/-- The tokens read before the innermost open parenthesis, and it. -/
inductive Opened : List Level → List Token → Prop
  | nothing : Opened [] []
  | more {outer : List Level} {level : Level} {before ts : List Token} (h : Opened outer before)
      (hl : level.Spans ts) (left : TokenOf [.symbol .open_]) :
      Opened (level :: outer) (before ++ ts ++ [left.1])

inductive Awaiting.Spans : Awaiting → List Token → Prop
  | operand : Spans .operand []
  | comparison (column : TokenOf [.identifier]) : Spans (.comparison column.1.text) [column.1]
  | value (column : TokenOf [.identifier]) (op : Comparison) (sign : TokenOf [.comparison op]) :
      Spans (.value column.1.text op) [column.1, sign.1]
  | connective (o : Operand) : Spans (.connective o.condition) o.tokens

inductive Reading.Spans : Reading → List Token → Prop
  | mk {awaiting : Awaiting} {level : Level} {outer : List Level} {before ts operand : List Token}
      (ho : Opened outer before) (hl : level.Spans ts) (ha : awaiting.Spans operand) :
      Spans ⟨awaiting, level, outer⟩ (before ++ ts ++ operand)

theorem Level.spans_start : Level.start.Spans [] := .mk .nothing .nothing

namespace Begun

theorem exists_conjunction {ts : List Token} {conjuncts : Option Condition}
    (h : Begun Conjunction.tokens Conjunction.condition .and ts conjuncts) (o : Operand) :
    ∃ c : Conjunction, c.tokens = ts ++ o.tokens ∧
      c.condition = Level.join .and conjuncts o.condition := by
  cases h with
  | nothing => exact ⟨.single o, rfl, rfl⟩
  | more c word =>
    refine ⟨.and c word o, ?_, rfl⟩
    rw [Conjunction.tokens, List.append_assoc]
    rfl

theorem exists_disjunction {ts : List Token} {disjuncts : Option Condition}
    (h : Begun Disjunction.tokens Disjunction.condition .or ts disjuncts) (c : Conjunction) :
    ∃ d : Disjunction, d.tokens = ts ++ c.tokens ∧
      d.condition = Level.join .or disjuncts c.condition := by
  cases h with
  | nothing => exact ⟨.single c, rfl, rfl⟩
  | more d word =>
    refine ⟨.or d word c, ?_, rfl⟩
    rw [Disjunction.tokens, List.append_assoc]
    rfl

end Begun

namespace Level.Spans
variable {level : Level} {ts : List Token}

theorem finish (h : level.Spans ts) (o : Operand) :
    ∃ d : Disjunction, d.tokens = ts ++ o.tokens ∧ d.condition = level.finish o.condition := by
  obtain ⟨hd, hc⟩ := h
  obtain ⟨c, hctokens, hccondition⟩ := hc.exists_conjunction o
  obtain ⟨d, hdtokens, hdcondition⟩ := hd.exists_disjunction c
  refine ⟨d, ?_, ?_⟩
  · rw [hdtokens, hctokens, List.append_assoc]
  · rw [hdcondition, hccondition]
    rfl

theorem continue_ (h : level.Spans ts) (o : Operand) {c : Connective}
    (word : TokenOf [.logical c]) :
    (level.continue_ o.condition c).Spans (ts ++ o.tokens ++ [word.1]) := by
  cases c with
  | or =>
    obtain ⟨d, htokens, hcondition⟩ := h.finish o
    rw [← htokens, Level.continue_, ← hcondition]
    have := Level.Spans.mk (.more d word) .nothing
    rwa [List.append_nil] at this
  | and =>
    obtain ⟨hd, hc⟩ := h
    obtain ⟨conj, htokens, hcondition⟩ := hc.exists_conjunction o
    rw [List.append_assoc, List.append_assoc, ← List.append_assoc _ o.tokens, ← htokens,
      Level.continue_, ← hcondition]
    exact .mk hd (.more conj word)

end Level.Spans

theorem Reading.Reads.spans {r r' : Reading} {t : Token} {ts : List Token} (h : r.Reads t r')
    (hr : r.Spans ts) : r'.Spans (ts ++ [t]) := by
  obtain ⟨ho, hl, ha⟩ := hr
  cases h with
  | open_ h =>
    cases ha
    have := Spans.mk (.more ho hl ⟨t, by simp [h]⟩) Level.spans_start .operand
    simpa using this
  | column h =>
    cases ha
    have := Spans.mk ho hl (.comparison ⟨t, by simp [h]⟩)
    simpa using this
  | @sign _ _ _ _ op h =>
    cases ha with
    | comparison column =>
      have := Spans.mk ho hl (.value column op ⟨t, by simp [h]⟩)
      simpa using this
  | @value _ _ _ _ op h =>
    cases ha with
    | value column _ sign =>
      have := Spans.mk ho hl (.connective (.comparison column op sign ⟨t, h⟩))
      simpa [Operand.tokens, Operand.condition] using this
  | @word _ _ _ _ c h =>
    cases ha with
    | connective o =>
      have := Spans.mk ho (hl.continue_ (c := c) o ⟨t, by simp [h]⟩) .operand
      simpa using this
  | close h =>
    cases ha with
    | connective o =>
      cases ho with
      | more ho hlast left =>
        obtain ⟨d, htokens, hcondition⟩ := hl.finish o
        have := Spans.mk ho hlast (.connective (.group left d ⟨t, by simp [h]⟩))
        rw [Operand.condition, hcondition] at this
        simpa [Operand.tokens, htokens] using this

theorem Reading.spans_of_foldlM {r r' : Reading} {ts read : List Token}
    (h : ts.foldlM step r = .ok r') (hr : r.Spans read) : r'.Spans (read ++ ts) := by
  induction ts generalizing r read with
  | nil =>
    cases h
    rwa [List.append_nil]
  | cons t ts ih =>
    obtain ⟨r₁, hreads, hrest⟩ := foldlM_step_cons.1 h
    have hread := ih hrest (hreads.spans hr)
    rwa [List.append_assoc] at hread

/-- Tokens read up to the last operand of a condition are those of a derivation. -/
theorem Reading.Spans.exists_disjunction {level : Level} {operand : Condition} {ts : List Token}
    (h : Spans ⟨.connective operand, level, []⟩ ts) :
    ∃ d : Disjunction, d.tokens = ts ∧ d.condition = level.finish operand := by
  obtain ⟨ho, hl, ha⟩ := h
  cases ho with
  | nothing =>
    cases ha with
    | connective o => exact hl.finish o

end Sound

/-- Tokens are read as a condition exactly if they have a derivation, and then as its condition. -/
theorem Condition.ofTokens_eq_ok {ts : List Token} {c : Condition} :
    ofTokens ts = .ok c ↔ ∃ d : Disjunction, d.tokens = ts ∧ d.condition = c := by
  constructor
  · intro h
    obtain ⟨operand, level, hread, rfl⟩ := ofTokens_eq_ok_iff_reads.1 h
    have hstart : Reading.start.Spans [] := .mk .nothing Level.spans_start .operand
    exact (Reading.spans_of_foldlM hread hstart).exists_disjunction
  · rintro ⟨d, rfl, rfl⟩
    exact d.ofTokens_tokens

namespace Condition

/-- The columns of a condition are identifiers, and its literals hold no quote. -/
def Writable : Condition → Prop
  | comparison column _ value => Kind.ofText? column = some .identifier ∧ '\'' ∉ value.toList
  | and left right | or left right => left.Writable ∧ right.Writable

/-- The texts of the tokens that write a condition, with parentheses around each connective. -/
def texts : Condition → List String
  | comparison column op value => [column, op.text, quote value]
  | and left right => "(" :: (left.texts ++ "AND" :: (right.texts ++ [")"]))
  | or left right => "(" :: (left.texts ++ "OR" :: (right.texts ++ [")"]))

theorem exists_operand {c : Condition} (h : c.Writable) :
    ∃ o : Operand, o.condition = c ∧ o.tokens.map Token.text = c.texts := by
  let left : TokenOf [.symbol .open_] := ⟨.ofFixed (.symbol .open_), List.mem_singleton_self _⟩
  let right : TokenOf [.symbol .close] := ⟨.ofFixed (.symbol .close), List.mem_singleton_self _⟩
  let word (c : Connective) : TokenOf [.logical c] :=
    ⟨.ofFixed (.connective c), List.mem_singleton_self _⟩
  induction c with
  | comparison column op value =>
    let name : TokenOf [.identifier] := ⟨.ofIdentifier column h.1, List.mem_singleton_self _⟩
    let sign : TokenOf [.comparison op] := ⟨.ofComparison op, List.mem_singleton_self _⟩
    let literal : TokenOf [.string, .number, .identifier] := ⟨.ofQuote value, List.mem_cons_self⟩
    refine ⟨.comparison name op sign literal, ?_, rfl⟩
    exact congrArg (Condition.comparison column op) (unquote_quote value)
  | and l r ihl ihr =>
    obtain ⟨o, hcondition, htexts⟩ := ihl h.1
    obtain ⟨o', hcondition', htexts'⟩ := ihr h.2
    refine ⟨.group left (.single (.and (.single o) (word .and) o')) right, ?_, ?_⟩
    · exact congrArg₂ Condition.and hcondition hcondition'
    · rw [texts, ← htexts, ← htexts']
      simp [Operand.tokens, Disjunction.tokens, Conjunction.tokens, left, right, word, Fixed.text,
        Symbol.text, Connective.text]
  | or l r ihl ihr =>
    obtain ⟨o, hcondition, htexts⟩ := ihl h.1
    obtain ⟨o', hcondition', htexts'⟩ := ihr h.2
    refine ⟨.group left (.or (.single (.single o)) (word .or) (.single o')) right, ?_, ?_⟩
    · exact congrArg₂ Condition.or hcondition hcondition'
    · rw [texts, ← htexts, ← htexts']
      simp [Operand.tokens, Disjunction.tokens, Conjunction.tokens, left, right, word, Fixed.text,
        Symbol.text, Connective.text]

theorem lexeme_of_mem_texts {c : Condition} (h : c.Writable) :
    ∀ text ∈ c.texts, Lexeme text.toList [] := by
  have hleft : Lexeme "(".toList [] := Fixed.lexeme_text (.symbol .open_)
  have hright : Lexeme ")".toList [] := Fixed.lexeme_text (.symbol .close)
  have hand : Lexeme "AND".toList [] := Fixed.lexeme_text (.connective .and)
  have hor : Lexeme "OR".toList [] := Fixed.lexeme_text (.connective .or)
  induction c with
  | comparison column op value =>
    simp only [texts, List.forall_mem_cons]
    exact ⟨lexeme_identifier h.1 .nothing, op.lexeme_text, lexeme_quote h.2, nofun⟩
  | and l r ihl ihr =>
    simp only [texts, List.forall_mem_cons, List.forall_mem_append]
    exact ⟨hleft, ihl h.1, hand, ihr h.2, hright, nofun⟩
  | or l r ihl ihr =>
    simp only [texts, List.forall_mem_cons, List.forall_mem_append]
    exact ⟨hleft, ihl h.1, hor, ihr h.2, hright, nofun⟩

/-- A condition is read from the tokens that write it, in any layout. -/
theorem ofTokens_text {c : Condition} (h : c.Writable) (l : Layout) :
    (do ofTokens (← Token.tokenize (l.text c.texts))) = .ok c := by
  obtain ⟨o, hcondition, htexts⟩ := exists_operand h
  have hscan : scan (l.text c.texts) = ⟨o.tokens.map Token.text, true⟩ := by
    rw [htexts]
    exact l.scan_text (lexeme_of_mem_texts h)
  rw [Token.tokenize_of_scan hscan]
  exact ofTokens_eq_ok.2 ⟨.single (.single o), rfl, hcondition⟩

/-- A condition in one more pair of parentheses is the same one. -/
theorem ofTokens_group {ts : List Token} {c : Condition} (h : ofTokens ts = .ok c)
    (left : TokenOf [.symbol .open_]) (right : TokenOf [.symbol .close]) :
    ofTokens (left.1 :: ts ++ [right.1]) = .ok c := by
  obtain ⟨d, rfl, hcondition⟩ := ofTokens_eq_ok.1 h
  exact ofTokens_eq_ok.2 ⟨.single (.single (.group left d right)), rfl, hcondition⟩

/-- What is read as a condition is what has a derivation: only one, which parentheses around it
extend without a trace, and every condition that can be written is read back. -/
theorem ofTokens_grammar :
    (∀ ts c, ofTokens ts = .ok c ↔ ∃ d : Disjunction, d.tokens = ts ∧ d.condition = c) ∧
    (∀ ts, (∀ d : Disjunction, d.tokens ≠ ts) → ∃ e : ParseError, ofTokens ts = .error e) ∧
    (∀ d d' : Disjunction, d.tokens = d'.tokens → d = d') ∧
    (∀ ts c, ofTokens ts = .ok c → ∀ (left : TokenOf [.symbol .open_])
      (right : TokenOf [.symbol .close]), ofTokens (left.1 :: ts ++ [right.1]) = .ok c) ∧
    ∀ c : Condition, c.Writable → ∀ l : Layout,
      (do ofTokens (← Token.tokenize (l.text c.texts))) = .ok c := by
  refine ⟨fun _ _ => ofTokens_eq_ok, fun ts hnone => ?_, fun _ _ => Disjunction.tokens_injective,
    fun _ _ => ofTokens_group, fun _ => ofTokens_text⟩
  cases h : ofTokens ts with
  | error e => exact ⟨e, rfl⟩
  | ok c =>
    obtain ⟨d, htokens, -⟩ := ofTokens_eq_ok.1 h
    exact absurd htokens (hnone d)

/-- `AND` binds tighter than `OR`, and a lone parenthesis is no condition. -/
theorem ofTokens_grammar_mixed :
    ∃ ts t c, Token.tokenize "a == 1 OR b == 'x' AND c LIKE d" = .ok ts ∧
      c = .or (.comparison "a" .equal "1")
        (.and (.comparison "b" .equal "x") (.comparison "c" .like "d")) ∧
      ofTokens ts = .ok c ∧
      (∃ d : Disjunction, d.tokens = ts ∧ d.condition = c ∧
        ∀ d' : Disjunction, d.tokens = d'.tokens → d = d') ∧
      (∀ (left : TokenOf [.symbol .open_]) (right : TokenOf [.symbol .close]),
        ofTokens (left.1 :: ts ++ [right.1]) = .ok c) ∧
      Token.tokenize "(" = .ok [t] ∧ (∀ d : Disjunction, d.tokens ≠ [t]) ∧
      (∃ e : ParseError, ofTokens [t] = .error e) ∧
      c.Writable ∧ ∀ l : Layout, (do ofTokens (← Token.tokenize (l.text c.texts))) = .ok c := by
  let text := "a == 1 OR b == 'x' AND c LIKE d"
  let ts := ((Token.tokenize text).toOption).getD []
  let t := Token.ofFixed (.symbol .open_)
  let c : Condition := .or (.comparison "a" .equal "1")
    (.and (.comparison "b" .equal "x") (.comparison "c" .like "d"))
  obtain ⟨hiff, hnone, hunique, hgroup, hwritten⟩ := ofTokens_grammar
  have htokens : Token.tokenize text = .ok ts := by decide +kernel
  have hread : ofTokens ts = .ok c := by decide +kernel
  have hlone : ∀ d : Disjunction, d.tokens ≠ [t] := by
    intro d hd
    cases (hiff [t] d.condition).2 ⟨d, hd, rfl⟩
  have hwritable : c.Writable :=
    ⟨⟨by decide +kernel, by decide⟩, ⟨by decide +kernel, by decide⟩, by decide +kernel, by decide⟩
  obtain ⟨d, hd, hcondition⟩ := (hiff ts c).1 hread
  exact ⟨ts, t, c, htokens, rfl, hread, ⟨d, hd, hcondition, hunique d⟩, hgroup ts c hread,
    by decide +kernel, hlone, hnone [t] hlone, hwritable, hwritten c hwritable⟩

end Condition

end Tabular
