import Tabular.Proofs.Token.Names
import Tabular.Proofs.Token.Scanning

/-! The tokens that fixed words, names and quoted texts are, and how they are scanned. -/
namespace Tabular

def quote (value : String) : String := String.ofList ('\'' :: (value.toList ++ ['\'']))

@[simp] theorem toList_quote (value : String) :
    (quote value).toList = '\'' :: (value.toList ++ ['\'']) := by
  rw [quote, String.toList_ofList]

@[simp] theorem unquote_quote (value : String) : unquote (quote value) = value := by
  rw [unquote, toList_quote]
  simp

section Lexemes
variable {rest : List Char}

theorem isNameChar_plain {c : Char} (h : isNameChar c = true) :
    Text.isBlank c = false ∧ c ≠ '\'' ∧ isMark c = false := by
  obtain ⟨hmem, hblank⟩ := isNameChar_ordinary h
  simp only [List.mem_cons, not_or] at hmem
  simp [hblank, isMark, hmem]

/-- Characters of identifiers are a whole token where a word can end. -/
theorem Lexeme.of_isNameChar {w : List Char} (hne : w ≠ []) (hw : ∀ c ∈ w, isNameChar c = true)
    (ends : EndsWord rest) : Lexeme w rest := by
  refine .word hne (fun c hc => isNameChar_plain (hw c hc)) (fun hlast => ?_) ends
  exact absurd (hw '!' (List.mem_of_getLast? hlast)) (by decide)

theorem lexeme_identifier {n : String} (h : Kind.ofText? n = some .identifier)
    (ends : EndsWord rest) : Lexeme n.toList rest := by
  obtain ⟨hne, hchars⟩ := isIdentifier_iff.1 (ofText?_eq_identifier.1 h).2.2.2.1
  exact .of_isNameChar hne hchars ends

theorem Fixed.lexeme_text (f : Fixed) : Lexeme f.text.toList [] := by
  have hword {text : String} (hne : text.toList ≠ []) (h : text.toList.all isNameChar = true) :
      Lexeme text.toList [] :=
    .of_isNameChar hne (List.all_eq_true.1 h) .nothing
  cases f with
  | keyword word => cases word <;> exact hword (by decide) (by decide)
  | connective word => cases word <;> exact hword (by decide) (by decide)
  | symbol sign =>
    cases sign with
    | open_ => exact .mark (c := '(') (by decide) nofun
    | close => exact .mark (c := ')') (by decide) nofun
    | comma => exact .mark (c := ',') (by decide) nofun
    | semicolon => exact .mark (c := ';') (by decide) nofun
    | star => exact .mark (c := '*') (by decide) nofun
    | equals => exact .mark (c := '=') (by decide) nofun

theorem Comparison.lexeme_text (op : Comparison) : Lexeme op.text.toList [] := by
  cases op with
  | equal => exact .compound (c := '=') (by decide)
  | notEqual => exact .compound (c := '!') (by decide)
  | greaterEqual => exact .compound (c := '>') (by decide)
  | lessEqual => exact .compound (c := '<') (by decide)
  | greater => exact .mark (c := '>') (by decide) nofun
  | less => exact .mark (c := '<') (by decide) nofun
  | like => exact .of_isNameChar (by decide) (List.all_eq_true.1 (by decide)) .nothing

theorem lexeme_quote {value : String} (h : '\'' ∉ value.toList) :
    Lexeme (quote value).toList rest := by
  rw [toList_quote]
  exact .quoted h

end Lexemes

theorem Fixed.ofText?_text (f : Fixed) : Kind.ofText? f.text = some f.kind := by
  cases f with
  | keyword word => cases word <;> decide
  | symbol sign => cases sign <;> decide
  | connective word => cases word <;> decide

section Literals

/-- A character that no word, mark or sign of the language begins with, in either case. -/
def BeginsLiteral (c : Char) : Prop :=
  Text.upperChar c = [c] ∧ (∀ k ∈ Keyword.all, k.text.toList.head? ≠ some c) ∧
    (∀ m ∈ Symbol.all, m.text.toList.head? ≠ some c) ∧
    (∀ w ∈ [Connective.and, .or], w.text.toList.head?.map Char.toLower ≠ some c.toLower) ∧
    ∀ op ∈ Comparison.all, op.text.toList.head?.map Char.toLower ≠ some c.toLower

instance (c : Char) : Decidable (BeginsLiteral c) :=
  inferInstanceAs (Decidable (_ ∧ _ ∧ _ ∧ _ ∧ _))

theorem beginsLiteral_quote : BeginsLiteral '\'' := by decide +kernel

theorem beginsLiteral_of_isDigit {c : Char} (h : c.isDigit = true) : BeginsLiteral c :=
  forall_isNameChar (P := fun c => c.isDigit = true → BeginsLiteral c) (by decide +kernel)
    (isNameChar_of_isDigit h) h

/-- What begins like a literal is a number, a string or an identifier, or no token. -/
theorem Kind.ofText?_of_beginsLiteral {s : String} {c : Char} (hs : s.toList.head? = some c)
    (hc : BeginsLiteral c) :
    ofText? s = if Decimal.isWritten s then some .number
      else if isQuoted s then some .string
      else if isIdentifier s then some .identifier
      else none := by
  obtain ⟨hupper, hkeywords, hsymbols, hconnectives, hcomparisons⟩ := hc
  obtain ⟨rest, hrest⟩ := List.head?_eq_some_iff.1 hs
  have hcaseless {word : String} (h : Text.eqCaseless s word = true) :
      word.toList.head?.map Char.toLower = some c.toLower := by
    rw [Text.eqCaseless, beq_iff_eq] at h
    rw [← List.head?_map, ← h, hrest]
    rfl
  have hkeyword : Keyword.ofText? s = none := by
    rw [Keyword.ofText?, List.find?_eq_none]
    intro k hk he
    refine hkeywords k hk ?_
    rw [beq_iff_eq.1 he, Text.upper, String.toList_ofList, hrest, List.flatMap_cons, hupper]
    rfl
  have hsymbol : Symbol.ofText? s = none := by
    rw [Symbol.ofText?, List.find?_eq_none]
    intro m hm he
    exact hsymbols m hm (beq_iff_eq.1 he ▸ hs)
  have hconnective : Connective.ofToken? s = none := by
    rw [Connective.ofToken?, List.find?_eq_none]
    exact fun w hw he => hconnectives w hw (hcaseless he)
  have hcomparison : Comparison.ofToken? s = none := by
    rw [Comparison.ofToken?, List.find?_eq_none]
    exact fun op hop he => hcomparisons op hop (hcaseless he)
  exact ofText?_of_none hkeyword hsymbol hconnective hcomparison

theorem isWritten_quote (value : String) : Decimal.isWritten (quote value) = false := by
  have hsign : Decimal.splitSign ('\'' :: (value.toList ++ ['\''])) =
      (false, '\'' :: (value.toList ++ ['\''])) := rfl
  rw [Decimal.isWritten, Decimal.ofText?, toList_quote, hsign]
  dsimp only
  split <;> rfl

/-- A text between quotes is a string. -/
theorem ofText?_quote (value : String) : Kind.ofText? (quote value) = some .string := by
  have hhead : (quote value).toList.head? = some '\'' := by
    rw [toList_quote]
    rfl
  have hquoted : isQuoted (quote value) = true := by
    have hlast : ('\'' :: (value.toList ++ ['\''])).getLast? = some '\'' := by
      rw [← List.cons_append, List.getLast?_concat]
    rw [isQuoted, toList_quote, hlast]
    simp
  rw [Kind.ofText?_of_beginsLiteral hhead beginsLiteral_quote, isWritten_quote, hquoted]
  rfl

theorem ofText?_toString (n : Nat) : Kind.ofText? (toString n) = some .number := by
  have hwritten : Decimal.isWritten (toString n) = true := by
    rw [Decimal.isWritten, Decimal.ofText?_toString]
    rfl
  obtain ⟨c, rest, hrest⟩ := List.exists_cons_of_ne_nil (toList_toString_ne_nil n)
  have hhead : (toString n).toList.head? = some c := by
    rw [hrest]
    rfl
  have hdigit : c.isDigit = true := isDigit_of_mem_toString (hrest ▸ List.mem_cons_self)
  rw [Kind.ofText?_of_beginsLiteral hhead (beginsLiteral_of_isDigit hdigit), hwritten]
  rfl

end Literals

namespace Token

def ofFixed (f : Fixed) : Token := ⟨f.text, f.kind, f.ofText?_text⟩

@[simp] theorem text_ofFixed (f : Fixed) : (ofFixed f).text = f.text := rfl

def ofComparison (op : Comparison) : Token := ⟨op.text, .comparison op, by cases op <;> decide⟩

def ofIdentifier (name : String) (h : Kind.ofText? name = some .identifier) : Token :=
  ⟨name, .identifier, h⟩

def ofQuote (value : String) : Token := ⟨quote value, .string, ofText?_quote value⟩

def ofNumber (n : Nat) : Token := ⟨toString n, .number, ofText?_toString n⟩

def ofName (name : String) (h : IsName name) : Token :=
  if hs : name = "*" then ⟨name, .symbol .star, hs ▸ Fixed.ofText?_text (.symbol .star)⟩
  else ⟨name, .identifier, (h.resolve_left hs).1⟩

@[simp] theorem text_ofName (name : String) (h : IsName name) : (ofName name h).text = name := by
  unfold ofName
  split <;> rfl

theorem tokenize_of_scan {s : String} {ts : List Token} (h : scan s = ⟨ts.map Token.text, true⟩) :
    tokenize s = .ok ts := by
  have hmap : (ts.map Token.text).mapM ofText = .ok ts := by
    clear h
    induction ts with
    | nil => rfl
    | cons t rest ih =>
      have ht : ofText t.text = .ok t := by rw [ofText, ofText?_text]
      rw [List.map_cons, List.mapM_cons, ht, ih]
      rfl
  rw [tokenize, h, hmap]
  rfl

end Token

end Tabular
