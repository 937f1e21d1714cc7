import Mathlib.Data.List.TakeWhile
import Tabular.Proofs.Text.Trimming
import Tabular.Token.Tokenize

/-! What is scanned at the start of a text, by its first character. -/
namespace Tabular

theorem scanWord_nil (word : List Char) : scanWord word [] = Scan.nothing.beforeWord word := rfl

theorem scanQuoted_cons (span : List Char) (c : Char) (rest : List Char) :
    scanQuoted span (c :: rest) =
      if c = '\'' then (scanWord [] rest).before (c :: span).reverse
      else scanQuoted (c :: span) rest :=
  rfl

theorem isMark_ordinary {c : Char} (h : isMark c = true) :
    Text.isBlank c = false ∧ c ≠ '\'' := by
  simp only [isMark, List.mem_cons, List.not_mem_nil, or_false, decide_eq_true_eq] at h
  rcases h with rfl | rfl | rfl | rfl | rfl | rfl | rfl | rfl <;> decide

theorem opensCompound_ordinary {c : Char} (h : opensCompound c = true) :
    Text.isBlank c = false ∧ c ≠ '\'' := by
  simp only [opensCompound, List.mem_cons, List.not_mem_nil, or_false, decide_eq_true_eq] at h
  rcases h with rfl | rfl | rfl | rfl <;> decide

theorem isMark_of_opensCompound {c : Char} (h : opensCompound c = true) (hne : c ≠ '!') :
    isMark c = true := by
  simp only [opensCompound, List.mem_cons, List.not_mem_nil, or_false, decide_eq_true_eq] at h
  rcases h with rfl | rfl | rfl | rfl
  · decide
  · decide
  · decide
  · exact absurd rfl hne

section Characters
variable {c : Char} (word rest : List Char)

theorem scanWord_blank (h : Text.isBlank c = true) :
    scanWord word (c :: rest) = (scanWord [] rest).beforeWord word := by
  delta scanWord
  exact if_pos h

theorem scanWord_quote :
    scanWord word ('\'' :: rest) = (scanQuoted ['\''] rest).beforeWord word := by
  delta scanWord scanQuoted
  rfl

theorem scanWord_compound (ho : opensCompound c = true) :
    scanWord word (c :: '=' :: rest) =
      ((scanWord [] rest).before [c, '=']).beforeWord word := by
  obtain ⟨hb, hq⟩ := opensCompound_ordinary ho
  have hblank : ¬Text.isBlank c = true := by simp [hb]
  delta scanWord
  exact (if_neg hblank).trans ((if_neg hq).trans (if_pos ho))

/-- A character that makes no compound operator with what follows is a mark or part of a word. -/
theorem scanWord_cons (hb : Text.isBlank c = false) (hq : c ≠ '\'')
    (ho : opensCompound c = true → rest.head? ≠ some '=') :
    scanWord word (c :: rest) =
      if isMark c then ((scanWord [] rest).before [c]).beforeWord word
      else scanWord (c :: word) rest := by
  have hblank : ¬Text.isBlank c = true := by simp [hb]
  delta scanWord
  refine (if_neg hblank).trans ((if_neg hq).trans ?_)
  split
  · exact if_neg fun h => ho h rfl
  · rfl

theorem scanWord_mark (hm : isMark c = true)
    (ho : opensCompound c = true → rest.head? ≠ some '=') :
    scanWord word (c :: rest) = ((scanWord [] rest).before [c]).beforeWord word := by
  obtain ⟨hb, hq⟩ := isMark_ordinary hm
  rw [scanWord_cons word rest hb hq ho, if_pos hm]

end Characters

theorem scanWord_of_isBlank {cs : List Char} (h : ∀ c ∈ cs, Text.isBlank c = true) :
    scanWord [] cs = Scan.nothing := by
  induction cs with
  | nil => rfl
  | cons c rest ih =>
    rw [scanWord_blank [] rest (h c (by simp)), ih fun d hd => h d (by simp [hd])]
    rfl

inductive EndsWord : List Char → Prop
  | nothing : EndsWord []
  | blank {c : Char} {rest : List Char} (h : Text.isBlank c = true) : EndsWord (c :: rest)
  | quote {rest : List Char} : EndsWord ('\'' :: rest)
  | mark {c : Char} {rest : List Char} (h : isMark c = true) : EndsWord (c :: rest)
  | unequal {rest : List Char} : EndsWord ('!' :: '=' :: rest)

/-- The characters of one whole token, before what follows it: a closed quoted span, a compound
operator, a mark that the next character does not make one, or a word that cannot be longer. -/
inductive Lexeme : List Char → List Char → Prop
  | quoted {span rest : List Char} (h : '\'' ∉ span) : Lexeme ('\'' :: (span ++ ['\''])) rest
  | compound {c : Char} {rest : List Char} (h : opensCompound c = true) : Lexeme [c, '='] rest
  | mark {c : Char} {rest : List Char} (h : isMark c = true)
      (alone : opensCompound c = true → rest.head? ≠ some '=') : Lexeme [c] rest
  | word {w rest : List Char} (nonempty : w ≠ [])
      (inside : ∀ c ∈ w, Text.isBlank c = false ∧ c ≠ '\'' ∧ isMark c = false)
      (whole : w.getLast? = some '!' → rest.head? ≠ some '=') (ends : EndsWord rest) : Lexeme w rest

theorem scanWord_of_endsWord {rest : List Char} (word : List Char) (h : EndsWord rest) :
    scanWord word rest = (scanWord [] rest).beforeWord word := by
  cases h with
  | nothing => rfl
  | blank h =>
    rw [scanWord_blank word _ h, scanWord_blank [] _ h]
    rfl
  | quote =>
    rw [scanWord_quote, scanWord_quote]
    rfl
  | unequal =>
    rw [scanWord_compound word _ (by decide), scanWord_compound [] _ (by decide)]
    rfl
  | @mark c rest h =>
    by_cases ho : opensCompound c = true ∧ rest.head? = some '='
    · obtain ⟨ho, he⟩ := ho
      obtain ⟨rest, rfl⟩ := List.head?_eq_some_iff.1 he
      rw [scanWord_compound word rest ho, scanWord_compound [] rest ho]
      rfl
    · have halone : opensCompound c = true → rest.head? ≠ some '=' := not_and.1 ho
      rw [scanWord_mark word rest h halone, scanWord_mark [] rest h halone]
      rfl

/-- Characters of a word go on with it, if no equals sign follows an exclamation mark at its end. -/
theorem scanWord_inside {w rest : List Char} (word : List Char)
    (inside : ∀ c ∈ w, Text.isBlank c = false ∧ c ≠ '\'' ∧ isMark c = false)
    (whole : w.getLast? = some '!' → rest.head? ≠ some '=') :
    scanWord word (w ++ rest) = scanWord (w.reverse ++ word) rest := by
  induction w generalizing word with
  | nil => rfl
  | cons c w ih =>
    obtain ⟨hb, hq, hm⟩ := inside c (by simp)
    have halone : opensCompound c = true → (w ++ rest).head? ≠ some '=' := by
      intro ho
      obtain rfl : c = '!' := Decidable.by_contra fun hne => by
        simp [isMark_of_opensCompound ho hne] at hm
      cases w with
      | nil => exact whole rfl
      | cons d w =>
        have hd : isMark d = false := (inside d (by simp)).2.2
        intro he
        cases he
        exact absurd hd (by decide)
    have hmark : ¬isMark c = true := by simp [hm]
    have hlast : w.getLast? = some '!' → rest.head? ≠ some '=' := fun h =>
      whole (by rw [List.getLast?_cons, h, Option.getD_some])
    rw [List.cons_append, scanWord_cons word _ hb hq halone, if_neg hmark,
      ih _ (fun d hd => inside d (by simp [hd])) hlast, List.reverse_cons, List.append_assoc,
      List.singleton_append]

theorem scanQuoted_span {cs : List Char} (span rest : List Char) (h : '\'' ∉ cs) :
    scanQuoted span (cs ++ '\'' :: rest) =
      (scanWord [] rest).before (span.reverse ++ (cs ++ ['\''])) := by
  induction cs generalizing span with
  | nil =>
    rw [List.nil_append, scanQuoted_cons, if_pos rfl, List.reverse_cons]
    rfl
  | cons c cs ih =>
    rw [List.mem_cons, not_or] at h
    rw [List.cons_append, scanQuoted_cons, if_neg (Ne.symm h.1), ih _ h.2, List.reverse_cons,
      List.append_assoc]
    rfl

/-- A whole token is scanned as one. -/
theorem scanWord_lexeme {token rest : List Char} (h : Lexeme token rest) :
    scanWord [] (token ++ rest) = (scanWord [] rest).before token := by
  cases h with
  | quoted h =>
    rw [List.cons_append, List.append_assoc, scanWord_quote, List.singleton_append,
      scanQuoted_span _ _ h]
    rfl
  | compound h => exact scanWord_compound [] rest h
  | mark h alone => exact scanWord_mark [] rest h alone
  | word nonempty inside whole ends =>
    have hword : (token.reverse ++ []).isEmpty = false := by simpa using nonempty
    rw [scanWord_inside [] inside whole, scanWord_of_endsWord _ ends, Scan.beforeWord, hword,
      List.append_nil, List.reverse_reverse]
    rfl

/-- Characters that are scanned as whole tokens, whatever comes after them. -/
def Scans (cs : List Char) (texts : List String) : Prop :=
  ∀ rest, scanWord [] (cs ++ rest) =
    { scanWord [] rest with texts := texts ++ (scanWord [] rest).texts }

namespace Scans
variable {cs cs' : List Char} {texts texts' : List String}

theorem append (h : Scans cs texts) (h' : Scans cs' texts') :
    Scans (cs ++ cs') (texts ++ texts') := by
  intro rest
  rw [List.append_assoc, h, h']
  simp

theorem cons {token : List Char} (h : ∀ rest, Lexeme token (cs ++ rest)) (hcs : Scans cs texts) :
    Scans (token ++ cs) (String.ofList token :: texts) := by
  intro rest
  rw [List.append_assoc, scanWord_lexeme (h rest), hcs]
  rfl

theorem scan_eq {s : String} (h : Scans s.toList texts) : scan s = ⟨texts, true⟩ := by
  have := h []
  rw [List.append_nil, scanWord_nil] at this
  rw [scan, this]
  simp [Scan.beforeWord, Scan.nothing]

theorem lexeme {token : List Char} (h : ∀ rest, Lexeme token rest) :
    Scans token [String.ofList token] :=
  fun rest => scanWord_lexeme (h rest)

theorem blank {c : Char} (h : Text.isBlank c = true) : Scans [c] [] :=
  fun rest => scanWord_blank [] rest h

theorem mark {c : Char} (hm : isMark c = true) (ho : opensCompound c = false) :
    Scans [c] [String.ofList [c]] :=
  lexeme fun _ => .mark hm fun h => by simp [ho] at h

theorem compound {c : Char} (ho : opensCompound c = true) :
    Scans [c, '='] [String.ofList [c, '=']] :=
  lexeme fun _ => .compound ho

theorem quoted {cs : List Char} (h : '\'' ∉ cs) :
    Scans ('\'' :: (cs ++ ['\''])) [String.ofList ('\'' :: (cs ++ ['\'']))] :=
  lexeme fun _ => .quoted h

end Scans

end Tabular
