/-! Occurrence of one text in another. -/
namespace Tabular.Text

def occursIn (cs : List Char) : List Char → Bool
  | [] => cs.isEmpty
  | c :: rest => cs.isPrefixOf (c :: rest) || occursIn cs rest

theorem occursIn_iff {cs ds : List Char} : occursIn cs ds = true ↔ cs <:+: ds := by
  induction ds with
  | nil => simp [occursIn]
  | cons c rest ih => rw [occursIn, Bool.or_eq_true, ih, List.isPrefixOf_iff_prefix, List.infix_cons_iff]

end Tabular.Text
