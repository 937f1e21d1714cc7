/-! Equality of texts up to the case of ASCII letters. -/
namespace Tabular.Text

def lowerAscii (s : String) : String := String.ofList (s.toList.map Char.toLower)

/-- Two texts differ at most in the case of ASCII letters. -/
def eqCaseless (a b : String) : Bool := a.toList.map Char.toLower == b.toList.map Char.toLower

@[simp] theorem toList_lowerAscii (s : String) : (lowerAscii s).toList = s.toList.map Char.toLower := by
  simp [lowerAscii]

theorem eqCaseless_iff {a b : String} : eqCaseless a b = true ↔ lowerAscii a = lowerAscii b := by
  rw [eqCaseless, beq_iff_eq, lowerAscii, lowerAscii, String.ofList_inj]

@[simp] theorem eqCaseless_refl (a : String) : eqCaseless a a = true := by simp [eqCaseless]

theorem eqCaseless_symm {a b : String} (h : eqCaseless a b = true) : eqCaseless b a = true :=
  eqCaseless_iff.2 (eqCaseless_iff.1 h).symm

theorem eqCaseless_trans {a b c : String} (hab : eqCaseless a b = true) (hbc : eqCaseless b c = true) :
    eqCaseless a c = true :=
  eqCaseless_iff.2 ((eqCaseless_iff.1 hab).trans (eqCaseless_iff.1 hbc))

end Tabular.Text
