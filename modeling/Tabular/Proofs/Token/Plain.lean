import Tabular.Proofs.Table.WellFormed
import Tabular.Proofs.Text.Messages
import Tabular.Proofs.Token.Kinds
import Tabular.Proofs.Token.Lexemes

/-! Texts of one line: their tokens are of one line, and so is what is quoted of them if they are
not split. -/
namespace Tabular

/-- The tokens of a text of one line are of one line. -/
theorem oneLine_of_mem_scan {s text : String} (hs : OneLine s) (h : text ∈ (scan s).texts) :
    OneLine text := by
  obtain ⟨earlier, later, htexts⟩ := List.append_of_mem h
  obtain ⟨rest, hlexed⟩ := lexed_scan s
  rw [htexts] at hlexed
  obtain ⟨after, hearlier, -⟩ := hlexed.exists_after
  obtain ⟨before, hparts, -⟩ := hearlier.exists_before
  intro hm
  refine hs ?_
  rw [hparts]
  simp [hm]

def PlainTokens (ts : List Token) : Prop := ∀ t ∈ ts, OneLine t.text

/-- A text of one line is split into tokens of one line, or refused with a plain error. -/
theorem plain_tokenize {s : String} (hs : OneLine s) : match Token.tokenize s with
    | .ok ts => PlainTokens ts
    | .error cause => (Error.parse cause).Plain := by
  have htexts : ∀ text ∈ (scan s).texts, OneLine text := fun _ => oneLine_of_mem_scan hs
  unfold Token.tokenize
  dsimp only
  cases htokens : (scan s).texts.mapM Token.ofText with
  | error cause =>
    obtain ⟨text, hm, htext⟩ := exists_of_mapM_error htokens
    obtain ⟨-, rfl⟩ := Token.ofText_eq_error.1 htext
    exact Error.plain_of_quotes_one rfl (htexts text hm)
  | ok ts =>
    cases (scan s).closed with
    | false => exact nofun
    | true =>
      intro t ht
      obtain ⟨text, hm, htext⟩ := exists_of_mem_mapM htokens ht
      exact Token.ofText_eq_ok.1 htext ▸ htexts text hm

theorem oneLine_value {t : Token} (h : OneLine t.text) : OneLine t.value := by
  unfold Token.value
  split
  · decide
  · split
    · decide
    · exact h

theorem oneLine_lowerAscii {s : String} (h : OneLine s) : OneLine (Text.lowerAscii s) := by
  intro hm
  rw [Text.toList_lowerAscii] at hm
  obtain ⟨c, hc, hlower⟩ := List.mem_map.1 hm
  have hname : isNameChar c = false := by
    rw [← isNameChar_toLower, hlower]
    decide
  rw [toLower_of_not_isNameChar hname] at hlower
  exact h (hlower ▸ hc)

end Tabular
