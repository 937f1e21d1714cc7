import Tabular.Error
import Tabular.Proofs.Table.RowIds

/-! Messages of one line: what an error message quotes decides whether the message has line feeds. -/
namespace Tabular

def OneLine (s : String) : Prop := '\n' ∉ s.toList

instance (s : String) : Decidable (OneLine s) := inferInstanceAs (Decidable (¬_))

theorem oneLine_append {s t : String} : OneLine (s ++ t) ↔ OneLine s ∧ OneLine t := by
  rw [OneLine, String.toList_append, List.mem_append, not_or]
  rfl

theorem oneLine_toString (n : Nat) : OneLine (toString n) := by
  intro hm
  have hdigit := isDigit_of_mem_toString hm
  simp at hdigit

theorem toString_string (s : String) : toString s = s := rfl

section Wording

theorem Fixed.oneLine_text (f : Fixed) : OneLine f.text := by
  cases f with
  | keyword word => cases word <;> decide
  | symbol sign => cases sign <;> decide
  | connective word => cases word <;> decide

theorem Kind.oneLine_name (k : Kind) : OneLine k.name := by
  delta name
  cases k <;> dsimp only <;> decide

theorem ConditionPart.oneLine_text (p : ConditionPart) : OneLine p.text := by
  cases p <;> decide

theorem Method.oneLine_name (m : Method) : OneLine m.name := by
  cases m <;> decide

theorem FileFault.oneLine_message (f : FileFault) : OneLine f.message := by
  cases f <;> decide

theorem MarksFault.oneLine_message (f : MarksFault) : OneLine f.message := by
  cases f with
  | truncated | overlong => decide
  | badName fault =>
    delta message Text.Utf8.Fault.message
    cases fault <;>
      simp only [toString_string, oneLine_append, oneLine_toString, and_true] <;> decide

end Wording

section Quotes

/-- The texts that the message of a parse error quotes. -/
def ParseError.quotes : ParseError → List String
  | invalidToken text => [text]
  | unexpectedToken t | wrongKind _ t | unexpectedValue t | afterSemicolon t | afterCondition t
  | wrongPart _ t => [t.text]
  | _ => []

def SchemaError.quotes : SchemaError → List String
  | noDatabase s | databaseExists s | noTable s | tableExists s | emptyTable s | duplicateColumn s
  | invalidColumn s | badLiteral s | noIdsLeft s => [s]
  | noColumn column table | columnExists column table => [column, table]
  | updateOfId | alterOfId | countMismatch _ _ => []

def StorageFault.quotes : StorageFault → List String
  | noDatabase s | databaseExists s | databaseNotEmpty s | tableExists s | noTable s
  | filesLeft s => [s]
  | file _ | notText | marks _ | injected _ => []

def Error.quotes : Error → List String
  | parse cause => cause.quotes
  | schema cause => cause.quotes
  | noActiveDatabase => []
  | storage cause => cause.quotes

/-- An error quotes texts of one line alone. -/
def Error.Plain (e : Error) : Prop := ∀ q ∈ e.quotes, OneLine q

section Plain
variable {e : Error} {s t : String}

theorem Error.plain_of_no_quotes (h : e.quotes = []) : e.Plain := by
  rw [Plain, h]
  exact nofun

theorem Error.plain_of_quotes_one (h : e.quotes = [s]) (hs : OneLine s) : e.Plain := by
  rw [Plain, h]
  exact fun q hq => List.mem_singleton.1 hq ▸ hs

theorem Error.plain_of_quotes_two (h : e.quotes = [s, t]) (hs : OneLine s) (ht : OneLine t) :
    e.Plain := by
  rw [Plain, h]
  exact List.forall_mem_cons.2 ⟨hs, fun q hq => List.mem_singleton.1 hq ▸ ht⟩

end Plain

theorem ParseError.oneLine_message {e : ParseError} (h : ∀ q ∈ e.quotes, OneLine q) :
    OneLine e.message := by
  delta message
  cases e with
  | invalidToken | unexpectedToken | unexpectedValue | afterSemicolon | afterCondition | wrongKind
  | wrongPart =>
    have h := h _ (List.mem_singleton_self _)
    simp only [toString_string, oneLine_append, Kind.oneLine_name, ConditionPart.oneLine_text, h,
      and_true]
    decide
  | endInsteadOf | missingPart =>
    simp only [toString_string, oneLine_append, Fixed.oneLine_text, ConditionPart.oneLine_text]
    decide
  | _ => decide

theorem SchemaError.oneLine_message {e : SchemaError} (h : ∀ q ∈ e.quotes, OneLine q) :
    OneLine e.message := by
  delta message
  cases e with
  | noColumn column table | columnExists column table =>
    have hc := h column (by simp [quotes])
    have ht := h table (by simp [quotes])
    simp only [toString_string, oneLine_append, hc, ht, and_true]
    decide
  | countMismatch =>
    simp only [toString_string, oneLine_append, oneLine_toString, and_true]
    decide
  | updateOfId | alterOfId => decide
  | _ =>
    have h := h _ (List.mem_singleton_self _)
    simp only [toString_string, oneLine_append, h, and_true]
    decide

theorem StorageFault.oneLine_message {e : StorageFault} (h : ∀ q ∈ e.quotes, OneLine q) :
    OneLine e.message := by
  delta message
  cases e with
  | file fault => exact fault.oneLine_message
  | notText => decide
  | marks fault => exact fault.oneLine_message
  | injected method =>
    simp only [toString_string, oneLine_append, method.oneLine_name]
    decide
  | _ =>
    have h := h _ (List.mem_singleton_self _)
    simp only [toString_string, oneLine_append, h, and_true]
    decide

/-- A message is one line if all that it quotes is. -/
theorem Error.Plain.oneLine_message {e : Error} (h : e.Plain) : OneLine e.message := by
  cases e with
  | parse cause => exact cause.oneLine_message h
  | schema cause => exact cause.oneLine_message h
  | noActiveDatabase => decide
  | storage cause =>
    have hcause : OneLine cause.message := cause.oneLine_message h
    delta message
    simp only [toString_string, oneLine_append, hcause]
    decide

end Quotes

end Tabular
