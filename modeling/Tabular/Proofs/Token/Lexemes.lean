import Mathlib.Algebra.Ring.Parity
import Tabular.Proofs.Token.Scanning

/-! Scanning loses nothing: the tokens of a text are whole tokens of it in their order, with white
space between them, and only a quoted span without an end is left over. -/
namespace Tabular

/-- Whole tokens at the start of a text, white space around them, and what is left after them. -/
inductive Lexed : List Char → List String → List Char → Prop
  | nothing {rest : List Char} : Lexed rest [] rest
  | blank {c : Char} {cs rest : List Char} {texts : List String} (h : Text.isBlank c = true)
      (hrest : Lexed cs texts rest) : Lexed (c :: cs) texts rest
  | token {token cs rest : List Char} {texts : List String} (h : Lexeme token cs)
      (hrest : Lexed cs texts rest) : Lexed (token ++ cs) (String.ofList token :: texts) rest

/-- What a scan leaves: nothing, or a quoted span that is not closed. -/
inductive Leaves : Bool → List Char → Prop
  | nothing : Leaves true []
  | unclosed {span : List Char} (h : '\'' ∉ span) : Leaves false ('\'' :: span)

section Reading

theorem exists_word (cs : List Char) :
    ∃ w rest, cs = w ++ rest ∧
      (∀ c ∈ w, Text.isBlank c = false ∧ c ≠ '\'' ∧ isMark c = false) ∧
      (w.getLast? = some '!' → rest.head? ≠ some '=') ∧ EndsWord rest := by
  induction cs with
  | nil => exact ⟨[], [], rfl, by simp, by simp, .nothing⟩
  | cons c cs ih =>
    by_cases hends : EndsWord (c :: cs)
    · exact ⟨[], c :: cs, rfl, by simp, by simp, hends⟩
    obtain ⟨w, rest, rfl, hinside, hwhole, hrest⟩ := ih
    have hc : Text.isBlank c = false ∧ c ≠ '\'' ∧ isMark c = false := by
      refine ⟨Bool.eq_false_iff.2 fun h => hends (.blank h), ?_,
        Bool.eq_false_iff.2 fun h => hends (.mark h)⟩
      rintro rfl
      exact hends .quote
    refine ⟨c :: w, rest, rfl, List.forall_mem_cons.2 ⟨hc, hinside⟩, fun hlast he => ?_, hrest⟩
    cases w with
    | nil =>
      obtain rfl : c = '!' := by simpa using hlast
      obtain ⟨rest, rfl⟩ := List.head?_eq_some_iff.1 he
      exact hends .unequal
    | cons d w => exact hwhole (by simpa using hlast) he

/-- A text starts with white space or a whole token, unless it ends or opens its last span. -/
theorem cases_of_text (cs : List Char) :
    (∃ closed, Leaves closed cs) ∨ (∃ c rest, cs = c :: rest ∧ Text.isBlank c = true) ∨
      ∃ token rest, cs = token ++ rest ∧ token ≠ [] ∧ Lexeme token rest := by
  by_cases hends : EndsWord cs
  · cases hends with
    | nothing => exact .inl ⟨true, .nothing⟩
    | blank h => exact .inr (.inl ⟨_, _, rfl, h⟩)
    | @quote rest =>
      by_cases hm : '\'' ∈ rest
      · obtain ⟨span, rest, rfl, hspan⟩ := List.eq_append_cons_of_mem hm
        exact .inr (.inr ⟨'\'' :: (span ++ ['\'']), rest, by simp, by simp, .quoted hspan⟩)
      · exact .inl ⟨false, .unclosed hm⟩
    | unequal => exact .inr (.inr ⟨['!', '='], _, rfl, by simp, .compound (by decide)⟩)
    | @mark c rest h =>
      by_cases ho : opensCompound c = true ∧ rest.head? = some '='
      · obtain ⟨rest, rfl⟩ := List.head?_eq_some_iff.1 ho.2
        exact .inr (.inr ⟨[c, '='], rest, rfl, by simp, .compound ho.1⟩)
      · exact .inr (.inr ⟨[c], rest, rfl, by simp, .mark h (not_and.1 ho)⟩)
  · obtain ⟨w, rest, rfl, hinside, hwhole, hrest⟩ := exists_word cs
    have hne : w ≠ [] := by
      rintro rfl
      exact hends hrest
    exact .inr (.inr ⟨w, rest, rfl, hne, .word hne hinside hwhole hrest⟩)

/-- Every text is read to its end or to a quoted span without an end. -/
theorem exists_lexed (cs : List Char) :
    ∃ texts rest closed, Lexed cs texts rest ∧ Leaves closed rest := by
  rcases cases_of_text cs with ⟨closed, h⟩ | ⟨c, rest, rfl, h⟩ | ⟨token, rest, rfl, hne, h⟩
  · exact ⟨[], cs, closed, .nothing, h⟩
  · obtain ⟨texts, left, closed, hlexed, hleaves⟩ := exists_lexed rest
    exact ⟨texts, left, closed, .blank h hlexed, hleaves⟩
  · have hshorter : rest.length < (token ++ rest).length := by
      have hpos : 0 < token.length := List.length_pos_iff.2 hne
      rw [List.length_append]
      omega
    obtain ⟨texts, left, closed, hlexed, hleaves⟩ := exists_lexed rest
    exact ⟨_, left, closed, .token h hlexed, hleaves⟩
  termination_by cs.length

theorem Lexed.scanWord_eq {cs rest : List Char} {texts : List String} (h : Lexed cs texts rest) :
    scanWord [] cs = ⟨texts ++ (scanWord [] rest).texts, (scanWord [] rest).closed⟩ := by
  induction h with
  | nothing => rfl
  | blank h _ ih =>
    rw [scanWord_blank [] _ h, ih]
    rfl
  | token h _ ih =>
    rw [scanWord_lexeme h, ih]
    rfl

theorem Leaves.scanWord_eq {closed : Bool} {cs : List Char} (h : Leaves closed cs) :
    scanWord [] cs = ⟨[], closed⟩ := by
  cases h with
  | nothing => rfl
  | @unclosed span h =>
    have hspan : ∀ read, scanQuoted read span = Scan.unclosed := by
      induction span with
      | nil => exact fun _ => rfl
      | cons c span ih =>
        intro read
        rw [List.mem_cons, not_or] at h
        rw [scanQuoted_cons, if_neg (Ne.symm h.1), ih h.2]
    rw [scanWord_quote, hspan]
    rfl

theorem scan_eq_iff {s : String} {texts : List String} {closed : Bool} :
    scan s = ⟨texts, closed⟩ ↔ ∃ rest, Lexed s.toList texts rest ∧ Leaves closed rest := by
  have hscan {texts : List String} {closed : Bool} {rest : List Char}
      (hlexed : Lexed s.toList texts rest) (hleaves : Leaves closed rest) :
      scan s = ⟨texts, closed⟩ := by
    rw [scan, hlexed.scanWord_eq, hleaves.scanWord_eq, List.append_nil]
  constructor
  · intro h
    obtain ⟨texts', rest, closed', hlexed, hleaves⟩ := exists_lexed s.toList
    obtain ⟨rfl, rfl⟩ := Scan.mk.inj ((hscan hlexed hleaves).symm.trans h)
    exact ⟨rest, hlexed, hleaves⟩
  · rintro ⟨rest, hlexed, hleaves⟩
    exact hscan hlexed hleaves

theorem lexed_scan (s : String) : ∃ rest, Lexed s.toList (scan s).texts rest := by
  obtain ⟨rest, hlexed, -⟩ := scan_eq_iff.1 (Eq.refl (Scan.mk (scan s).texts (scan s).closed))
  exact ⟨rest, hlexed⟩

end Reading

/-- The text from outside or inside of a quoted span, without the white space outside of them. -/
def withoutBlanks (quoted : Bool) : List Char → List Char
  | [] => []
  | c :: cs =>
    if c = '\'' then c :: withoutBlanks (!quoted) cs
    else if !quoted && Text.isBlank c then withoutBlanks quoted cs
    else c :: withoutBlanks quoted cs

theorem withoutBlanks_span {span : List Char} (rest : List Char) (h : '\'' ∉ span) :
    withoutBlanks true (span ++ '\'' :: rest) = span ++ '\'' :: withoutBlanks false rest := by
  induction span with
  | nil => rfl
  | cons c span ih =>
    rw [List.mem_cons, not_or] at h
    rw [List.cons_append, withoutBlanks, if_neg (Ne.symm h.1), ih h.2]
    rfl

theorem withoutBlanks_append {w : List Char} (rest : List Char)
    (h : ∀ c ∈ w, Text.isBlank c = false ∧ c ≠ '\'') :
    withoutBlanks false (w ++ rest) = w ++ withoutBlanks false rest := by
  induction w with
  | nil => rfl
  | cons c w ih =>
    obtain ⟨hb, hq⟩ := h c (by simp)
    have hkept : ¬(!false && Text.isBlank c) = true := by simp [hb]
    rw [List.cons_append, withoutBlanks, if_neg hq, if_neg hkept,
      ih fun d hd => h d (by simp [hd])]
    rfl

namespace Lexeme
variable {token rest : List Char}

theorem cases_quoted (h : Lexeme token rest) :
    (∃ span, token = '\'' :: (span ++ ['\'']) ∧ '\'' ∉ span) ∨
      ∀ c ∈ token, Text.isBlank c = false ∧ c ≠ '\'' := by
  cases h with
  | quoted h => exact .inl ⟨_, rfl, h⟩
  | compound h =>
    refine .inr (List.forall_mem_cons.2 ⟨opensCompound_ordinary h, ?_⟩)
    exact List.forall_mem_singleton.2 (by decide)
  | mark h => exact .inr (List.forall_mem_singleton.2 (isMark_ordinary h))
  | word _ inside => exact .inr fun c hc => ⟨(inside c hc).1, (inside c hc).2.1⟩

theorem withoutBlanks_eq (h : Lexeme token rest) (cs : List Char) :
    withoutBlanks false (token ++ cs) = token ++ withoutBlanks false cs := by
  rcases h.cases_quoted with ⟨span, rfl, hspan⟩ | hplain
  · rw [List.cons_append, List.append_assoc, List.singleton_append, withoutBlanks, if_pos rfl,
      Bool.not_false, withoutBlanks_span _ hspan]
    simp
  · exact withoutBlanks_append cs hplain

/-- A token opens no quoted span that it does not close. -/
theorem even_count (h : Lexeme token rest) : Even (token.count '\'') := by
  rcases h.cases_quoted with ⟨span, rfl, hspan⟩ | hplain
  · have hcount : ('\'' :: (span ++ ['\''])).count '\'' = 2 := by
      rw [List.count_cons_self, List.count_append, List.count_eq_zero.2 hspan]
      rfl
    exact hcount ▸ ⟨1, rfl⟩
  · rw [List.count_eq_zero.2 fun hm => (hplain _ hm).2 rfl]
    exact Even.zero

theorem of_quote {cs span : List Char} (h : Lexeme token (cs ++ '\'' :: span)) :
    Lexeme token cs := by
  have hhead (hne : (cs ++ '\'' :: span).head? ≠ some '=') : cs.head? ≠ some '=' := by
    cases cs with
    | nil => simp
    | cons c cs => exact hne
  cases h with
  | quoted h => exact .quoted h
  | compound h => exact .compound h
  | mark h alone => exact .mark h fun ho => hhead (alone ho)
  | word nonempty inside whole ends =>
    refine .word nonempty inside (fun hlast => hhead (whole hlast)) ?_
    cases cs with
    | nil => exact .nothing
    | cons c cs =>
      generalize hs : c :: cs ++ '\'' :: span = s at ends
      cases ends with
      | nothing => cases hs
      | blank h => exact .blank ((List.cons.inj hs).1 ▸ h)
      | quote => exact (List.cons.inj hs).1 ▸ .quote
      | mark h => exact .mark ((List.cons.inj hs).1 ▸ h)
      | unequal =>
        cases cs with
        | nil => cases hs
        | cons d cs =>
          cases hs
          exact .unequal

end Lexeme

namespace Lexed
variable {cs rest : List Char} {texts : List String}

/-- What stands before the rest is the tokens, but for white space outside of quoted spans. -/
theorem exists_before (h : Lexed cs texts rest) :
    ∃ before, cs = before ++ rest ∧ Even (before.count '\'') ∧
      texts.flatMap String.toList = withoutBlanks false before := by
  induction h with
  | nothing => exact ⟨[], rfl, Even.zero, rfl⟩
  | @blank c cs rest texts h _ ih =>
    obtain ⟨before, rfl, heven, hlaw⟩ := ih
    have hq : c ≠ '\'' := by
      rintro rfl
      exact absurd h (by decide)
    refine ⟨c :: before, rfl, ?_, ?_⟩
    · rwa [List.count_cons_of_ne hq]
    · rw [withoutBlanks, if_neg hq, if_pos (by simpa using h), hlaw]
  | @token token cs rest texts h _ ih =>
    obtain ⟨before, rfl, heven, hlaw⟩ := ih
    refine ⟨token ++ before, (List.append_assoc ..).symm, ?_, ?_⟩
    · rw [List.count_append]
      exact h.even_count.add heven
    · rw [h.withoutBlanks_eq, List.flatMap_cons, String.toList_ofList, hlaw]

theorem of_quote {span : List Char} (h : Lexed cs texts ('\'' :: span)) :
    ∃ before, cs = before ++ '\'' :: span ∧ Lexed before texts [] := by
  generalize hleft : '\'' :: span = left at h
  induction h with
  | nothing => exact ⟨[], rfl, .nothing⟩
  | blank h _ ih =>
    obtain ⟨before, rfl, hbefore⟩ := ih hleft
    exact ⟨_ :: before, rfl, .blank h hbefore⟩
  | token h _ ih =>
    obtain ⟨before, rfl, hbefore⟩ := ih hleft
    subst hleft
    exact ⟨_ ++ before, (List.append_assoc ..).symm, .token h.of_quote hbefore⟩

theorem exists_after {earlier later : List String} {text : String}
    (h : Lexed cs (earlier ++ text :: later) rest) :
    ∃ after, Lexed cs earlier (text.toList ++ after) ∧ Lexeme text.toList after := by
  generalize htexts : earlier ++ text :: later = texts at h
  induction h generalizing earlier with
  | nothing => simp at htexts
  | blank h _ ih =>
    obtain ⟨after, hlexed, hafter⟩ := ih htexts
    exact ⟨after, .blank h hlexed, hafter⟩
  | @token token cs rest texts h _ ih =>
    cases earlier with
    | nil =>
      obtain ⟨rfl, -⟩ := List.cons.inj htexts
      rw [String.toList_ofList]
      exact ⟨cs, .nothing, h⟩
    | cons first earlier =>
      obtain ⟨rfl, hrest⟩ := List.cons.inj htexts
      obtain ⟨after, hlexed, hafter⟩ := ih hrest
      exact ⟨after, .token h hlexed, hafter⟩

end Lexed

/-- What is found in a text, one after another: its tokens, and the complaint about its end. -/
def Scan.items (s : Scan) : List (Except ParseError String) :=
  s.texts.map .ok ++ if s.closed then [] else [.error .unclosedString]

/-- The tokens of a text are its items that are classified, up to the first that fails. -/
theorem tokenize_eq_mapM_items (s : String) :
    Token.tokenize s = (scan s).items.mapM (· >>= Token.ofText) := by
  have htexts : ((scan s).texts.map Except.ok).mapM (· >>= Token.ofText) =
      (scan s).texts.mapM Token.ofText := by
    rw [List.mapM_map]
    rfl
  rw [Token.tokenize, Scan.items, List.mapM_append, htexts]
  cases (scan s).closed with
  | false => rfl
  | true => cases (scan s).texts.mapM Token.ofText <;> simp [pure, Except.pure, bind, Except.bind]

theorem Scan.exists_of_items {s : Scan} {earlier later : List (Except ParseError String)}
    {text : String} (h : s.items = earlier ++ .ok text :: later) :
    ∃ texts rest, earlier = texts.map .ok ∧ s.texts = texts ++ text :: rest := by
  have hend : .ok text ∉ (if s.closed then [] else [.error .unclosedString] :
      List (Except ParseError String)) := by
    split <;> simp
  rcases List.append_eq_append_iff.1 h with ⟨between, -, hright⟩ | ⟨between, hleft, hright⟩
  · exact absurd (hright ▸ List.mem_append_right _ List.mem_cons_self) hend
  · cases between with
    | nil =>
      rw [List.nil_append] at hright
      exact absurd (hright ▸ List.mem_cons_self) hend
    | cons first between =>
      obtain ⟨rfl, -⟩ := List.cons.inj hright
      obtain ⟨texts, found, htexts, rfl, hfound⟩ := List.map_eq_append_iff.1 hleft
      obtain ⟨text', rest, rfl, he, -⟩ := List.map_eq_cons_iff.1 hfound
      cases he
      exact ⟨texts, rest, rfl, htexts⟩

section Quotes
variable {s : String}

theorem Lexed.law {cs : List Char} {texts : List String} (h : Lexed cs texts []) :
    Even (cs.count '\'') ∧ texts.flatMap String.toList = withoutBlanks false cs := by
  obtain ⟨before, rfl, heven, hlaw⟩ := h.exists_before
  rw [List.append_nil]
  exact ⟨heven, hlaw⟩

/-- A text is read to its end, or up to its last quote. -/
theorem scan_cases (s : String) :
    (∃ texts, scan s = ⟨texts, true⟩ ∧ Lexed s.toList texts []) ∨
      ∃ texts before after, scan s = ⟨texts, false⟩ ∧ s.toList = before ++ '\'' :: after ∧
        '\'' ∉ after ∧ Lexed before texts [] := by
  cases hscan : scan s with
  | mk texts closed =>
    obtain ⟨rest, hlexed, hleaves⟩ := scan_eq_iff.1 hscan
    cases hleaves with
    | nothing => exact .inl ⟨texts, rfl, hlexed⟩
    | @unclosed after h =>
      obtain ⟨before, hs, hbefore⟩ := hlexed.of_quote
      exact .inr ⟨texts, before, after, rfl, hs, h, hbefore⟩

theorem odd_count {before after : List Char} {texts : List String} (h : Lexed before texts [])
    (ha : '\'' ∉ after) : Odd ((before ++ '\'' :: after).count '\'') := by
  rw [List.count_append, List.count_cons_self, List.count_eq_zero.2 ha]
  exact h.law.1.add_one

theorem scan_of_even (h : Even (s.toList.count '\'')) :
    ∃ texts, scan s = ⟨texts, true⟩ ∧ Lexed s.toList texts [] := by
  rcases scan_cases s with hclosed | ⟨texts, before, after, -, hs, ha, hbefore⟩
  · exact hclosed
  · rw [hs] at h
    exact absurd (odd_count hbefore ha) (Nat.not_odd_iff_even.2 h)

theorem scan_of_odd (h : Odd (s.toList.count '\'')) :
    ∃ texts before after, scan s = ⟨texts, false⟩ ∧ s.toList = before ++ '\'' :: after ∧
      '\'' ∉ after ∧ Lexed before texts [] := by
  rcases scan_cases s with ⟨texts, -, hlexed⟩ | hopen
  · exact absurd h (Nat.not_odd_iff_even.2 hlexed.law.1)
  · exact hopen

end Quotes

/-- The items of a text with closed quotes are its characters but for white space outside of quoted
spans; with an open one they are those of the text before it, and a complaint. Each token is whole
where it stands. -/
theorem scan_items (s : String) :
    (Even (s.toList.count '\'') →
      ∃ texts : List String, (scan s).items = texts.map .ok ∧
        texts.flatMap String.toList = withoutBlanks false s.toList) ∧
    (Odd (s.toList.count '\'') →
      ∃ (before after : List Char) (texts : List String),
        s.toList = before ++ '\'' :: after ∧ '\'' ∉ after ∧
        (scan s).items = texts.map .ok ++ [.error .unclosedString] ∧
        (scan (String.ofList before)).items = texts.map .ok ∧
        texts.flatMap String.toList = withoutBlanks false before) ∧
    ParseError.unclosedString.message = "unterminated string literal" ∧
    ∀ earlier text later, (scan s).items = earlier ++ .ok text :: later →
      ∃ (texts : List String) (before after : List Char),
        earlier = texts.map .ok ∧ s.toList = before ++ text.toList ++ after ∧
        Even (before.count '\'') ∧ texts.flatMap String.toList = withoutBlanks false before ∧
        Lexeme text.toList after := by
  refine ⟨fun h => ?even, fun h => ?odd, rfl, fun earlier text later h => ?token⟩
  case even =>
    obtain ⟨texts, hscan, hlexed⟩ := scan_of_even h
    refine ⟨texts, ?_, hlexed.law.2⟩
    rw [hscan, Scan.items, if_pos rfl, List.append_nil]
  case odd =>
    obtain ⟨texts, before, after, hscan, hs, ha, hbefore⟩ := scan_of_odd h
    have hfirst : scan (String.ofList before) = ⟨texts, true⟩ := by
      rw [scan_eq_iff, String.toList_ofList]
      exact ⟨[], hbefore, .nothing⟩
    refine ⟨before, after, texts, hs, ha, ?_, ?_, hbefore.law.2⟩
    · rw [hscan]
      rfl
    · rw [hfirst, Scan.items, if_pos rfl, List.append_nil]
  case token =>
    obtain ⟨texts, later, rfl, htexts⟩ := Scan.exists_of_items h
    obtain ⟨rest, hlexed⟩ := lexed_scan s
    rw [htexts] at hlexed
    obtain ⟨after, hbefore, hlexeme⟩ := hlexed.exists_after
    obtain ⟨before, hs, heven, hlaw⟩ := hbefore.exists_before
    exact ⟨texts, before, after, rfl, by rw [hs, List.append_assoc], heven, hlaw, hlexeme⟩

/-- White space is kept within quotes only, and an operator ends the word before it. -/
theorem scan_items_open_span :
    let closed := "a!='b  c' "
    let unclosed := "a!='b  c' 'd "
    Even (closed.toList.count '\'') ∧ Odd (unclosed.toList.count '\'') ∧
      (∃ texts : List String, (scan closed).items = texts.map .ok ∧
        texts.flatMap String.toList = "a!='b  c'".toList) ∧
      (∃ (before after : List Char) (texts : List String),
        unclosed.toList = before ++ '\'' :: after ∧ '\'' ∉ after ∧
        (scan unclosed).items = texts.map .ok ++ [.error .unclosedString] ∧
        (scan (String.ofList before)).items = texts.map .ok ∧
        texts.flatMap String.toList = withoutBlanks false before) ∧
      (scan unclosed).items = [.ok "a"] ++ .ok "!=" :: [.ok "'b  c'", .error .unclosedString] ∧
      ∃ (texts : List String) (before after : List Char),
        [.ok "a"] = texts.map (Except.ok (ε := ParseError)) ∧
        unclosed.toList = before ++ "!=".toList ++ after ∧ Even (before.count '\'') ∧
        texts.flatMap String.toList = withoutBlanks false before ∧ Lexeme "!=".toList after := by
  intro closed unclosed
  have heven : Even (closed.toList.count '\'') := by decide
  have hodd : Odd (unclosed.toList.count '\'') := by decide
  have hitems : (scan unclosed).items =
      [.ok "a"] ++ .ok "!=" :: [.ok "'b  c'", .error .unclosedString] := by
    decide +kernel
  have hlaw : withoutBlanks false closed.toList = "a!='b  c'".toList := by decide
  refine ⟨heven, hodd, ?_, (scan_items unclosed).2.1 hodd, hitems,
    (scan_items unclosed).2.2.2 _ _ _ hitems⟩
  rw [← hlaw]
  exact (scan_items closed).1 heven

end Tabular
