import Mathlib.Data.List.Basic
import Tabular.Proofs.Text.Trimming
import Tabular.Text.LowerCase

/-! Texts in lower case: their length, and how a part of a text reads in the whole. A part reads as it
does alone unless a sigma of it ends a word in the one and not in the other. -/
namespace Tabular.Text

section Lengths

theorem length_lowerChar_pos (c : Char) : 1 ≤ (lowerChar c).length := by
  unfold lowerChar
  repeat' split
  all_goals simp

/-- The number of characters of a text in lower case; it does not depend on what stands around. -/
def lowerLength : List Char → Nat
  | [] => 0
  | c :: rest => (if c = 'Σ' then 1 else (lowerChar c).length) + lowerLength rest

theorem length_lowerFrom (before cs : List Char) :
    (lowerFrom before cs).length = lowerLength cs := by
  induction cs generalizing before with
  | nil => rfl
  | cons c rest ih =>
    rw [lowerFrom, List.length_append, ih, lowerLength]
    split <;> rfl

/-- What is left out makes a text shorter in lower case. -/
theorem lowerLength_add_le {cs cs' : List Char} (h : cs.Sublist cs') :
    lowerLength cs + cs'.length ≤ lowerLength cs' + cs.length := by
  induction h with
  | slnil => exact Nat.le_refl _
  | cons c _ ih =>
    have hpos := length_lowerChar_pos c
    simp only [lowerLength, List.length_cons]
    split <;> omega
  | cons_cons c _ ih =>
    simp only [lowerLength, List.length_cons]
    omega

theorem lower_trim_eq_iff {s : String} : lower (trim s) = lower s ↔ trim s = s := by
  constructor
  · intro h
    have hsub := trim_sublist s
    have hlower : lowerFrom [] (trim s).toList = lowerFrom [] s.toList := String.ofList_inj.1 h
    have hsum := congrArg List.length hlower
    rw [length_lowerFrom, length_lowerFrom] at hsum
    have hle := lowerLength_add_le hsub
    exact String.toList_injective (hsub.eq_of_length_le (by omega))
  · intro h
    rw [h]

end Lengths

section Parts
variable (before after : List Char)

/-- The lower case of characters that stand between `before` (nearest first) and `after`. -/
def lowerWithin (before after : List Char) : List Char → List Char
  | [] => []
  | c :: rest =>
    (if c = 'Σ' then [lowerSigma before (rest ++ after)] else lowerChar c) ++
      lowerWithin (c :: before) after rest

theorem lowerWithin_nil (cs : List Char) : lowerWithin before [] cs = lowerFrom before cs := by
  induction cs generalizing before with
  | nil => rfl
  | cons c rest ih => rw [lowerWithin, lowerFrom, ih, List.append_nil]

theorem lowerWithin_append (xs ys : List Char) :
    lowerWithin before after (xs ++ ys) =
      lowerWithin before (ys ++ after) xs ++ lowerWithin (xs.reverse ++ before) after ys := by
  induction xs generalizing before with
  | nil => rfl
  | cons c rest ih =>
    rw [List.cons_append, lowerWithin, ih, lowerWithin, List.append_assoc, List.append_assoc,
      List.reverse_cons, List.append_assoc, List.singleton_append]

/-- A text in lower case is its parts, each between the others. -/
theorem lowerFrom_nil_append (xs cs ys : List Char) :
    lowerFrom [] (xs ++ cs ++ ys) =
      lowerWithin [] (cs ++ ys) xs ++ lowerWithin xs.reverse ys cs ++
        lowerWithin (cs.reverse ++ xs.reverse) [] ys := by
  simp [← lowerWithin_nil, lowerWithin_append]

theorem length_lowerWithin (cs : List Char) :
    (lowerWithin before after cs).length = lowerLength cs := by
  induction cs generalizing before with
  | nil => rfl
  | cons c rest ih =>
    rw [lowerWithin, List.length_append, ih, lowerLength]
    split <;> rfl

/-- Each sigma of `cs` has the form that it has in `cs` alone where `cs` stands between `before`
(nearest first) and `after`. -/
def SigmasAlike (before cs after : List Char) : Prop :=
  ∀ left right, cs = left ++ 'Σ' :: right →
    lowerSigma (left.reverse ++ before) (right ++ after) = lowerSigma left.reverse right

theorem lowerWithin_eq_lowerFrom_iff (read cs : List Char) :
    lowerWithin (read ++ before) after cs = lowerFrom read cs ↔
      ∀ left right, cs = left ++ 'Σ' :: right →
        lowerSigma (left.reverse ++ (read ++ before)) (right ++ after) =
          lowerSigma (left.reverse ++ read) right := by
  induction cs generalizing read with
  | nil => simp [lowerWithin, lowerFrom]
  | cons c rest ih =>
    have hrest := ih (c :: read)
    rw [List.cons_append] at hrest
    have hsplit : (∀ left right, c :: rest = left ++ 'Σ' :: right →
        lowerSigma (left.reverse ++ (read ++ before)) (right ++ after) =
          lowerSigma (left.reverse ++ read) right) ↔
        (c = 'Σ' → lowerSigma (read ++ before) (rest ++ after) = lowerSigma read rest) ∧
          ∀ left right, rest = left ++ 'Σ' :: right →
            lowerSigma (left.reverse ++ c :: (read ++ before)) (right ++ after) =
              lowerSigma (left.reverse ++ c :: read) right := by
      constructor
      · intro h
        refine ⟨fun hc => h [] rest (by rw [hc, List.nil_append]), fun left right hr => ?_⟩
        have hleft := h (c :: left) right (by rw [hr, List.cons_append])
        simpa using hleft
      · intro h left right hcs
        rcases List.cons_eq_append_iff.1 hcs with ⟨rfl, hright⟩ | ⟨left, rfl, hr⟩
        · obtain ⟨hc, rfl⟩ := List.cons.inj hright
          exact h.1 hc.symm
        · simpa using h.2 left right hr
    rw [hsplit, lowerWithin, lowerFrom, ← hrest]
    by_cases hc : c = 'Σ'
    · simp [hc]
    · simp [hc]

theorem lowerWithin_eq_iff {before cs after : List Char} :
    lowerWithin before after cs = lowerFrom [] cs ↔ SigmasAlike before cs after := by
  have hread := lowerWithin_eq_lowerFrom_iff before after [] cs
  simpa [SigmasAlike] using hread

end Parts

section Words
variable {xs ys left right : List Char}

def Shows (cs : List Char) : Prop := ∃ c ∈ cs, inRanges ignorableRanges c.toNat = false

theorem casedAhead_append_of_shows (h : Shows xs) : casedAhead (xs ++ ys) = casedAhead xs := by
  have hne : xs.dropWhile (fun c => inRanges ignorableRanges c.toNat) ≠ [] := by
    intro hnil
    obtain ⟨c, hc, hshows⟩ := h
    rw [List.dropWhile_eq_nil_iff.1 hnil c hc] at hshows
    cases hshows
  obtain ⟨c, rest, hrest⟩ := List.exists_cons_of_ne_nil hne
  rw [casedAhead, casedAhead, List.dropWhile_append, hrest]
  rfl

theorem casedAhead_append_of_not_shows (h : ¬Shows xs) :
    casedAhead (xs ++ ys) = casedAhead ys := by
  have hall : ∀ c ∈ xs, inRanges ignorableRanges c.toNat = true := by
    intro c hc
    by_contra hn
    exact h ⟨c, hc, by simpa using hn⟩
  rw [casedAhead, casedAhead, List.dropWhile_append_of_pos hall]

theorem casedAhead_of_not_shows (h : ¬Shows xs) : casedAhead xs = false := by
  have hnil : casedAhead (xs ++ []) = casedAhead [] := casedAhead_append_of_not_shows h
  rw [List.append_nil] at hnil
  exact hnil

/-- What stands around a sigma (nearest first to its left) tells its form, whatever follows. -/
def SigmaSettled (left right : List Char) : Prop :=
  (Shows left ∧ casedAhead left = false) ∨ casedAhead right = true ∨ (Shows left ∧ Shows right)

theorem shows_of_casedAhead (h : casedAhead xs = true) : Shows xs := by
  by_contra hn
  rw [casedAhead_of_not_shows hn] at h
  cases h

theorem SigmaSettled.lowerSigma_eq (h : SigmaSettled left right) (before after : List Char) :
    lowerSigma (left ++ before) (right ++ after) = lowerSigma left right := by
  rcases h with ⟨hshows, hfalse⟩ | htrue | ⟨hleft, hright⟩
  · simp [lowerSigma, casedAhead_append_of_shows hshows, hfalse]
  · simp [lowerSigma, casedAhead_append_of_shows (shows_of_casedAhead htrue), htrue]
  · rw [lowerSigma, casedAhead_append_of_shows hleft, casedAhead_append_of_shows hright, lowerSigma]

def Settled (cs : List Char) : Prop :=
  ∀ left right, cs = left ++ 'Σ' :: right → SigmaSettled left.reverse right

instance : DecidablePred Shows := fun cs => List.decidableBEx _ cs

instance : Decidable (SigmaSettled left right) := inferInstanceAs (Decidable (_ ∨ _ ∨ _))

theorem settled_iff {cs : List Char} :
    Settled cs ↔ ∀ i < cs.length, cs[i]? = some 'Σ' →
      SigmaSettled (cs.take i).reverse (cs.drop (i + 1)) := by
  constructor
  · intro h i hi hsigma
    have hsplit : cs = cs.take i ++ 'Σ' :: cs.drop (i + 1) := by
      rw [List.getElem?_eq_getElem hi] at hsigma
      rw [← Option.some.inj hsigma, ← List.drop_eq_getElem_cons hi, List.take_append_drop]
    exact h _ _ hsplit
  · rintro h left right rfl
    simpa using h left.length (by simp) (by simp)

instance : DecidablePred Settled := fun _ => decidable_of_iff _ settled_iff.symm

theorem Settled.sigmasAlike {cs : List Char} (h : Settled cs) (before after : List Char) :
    SigmasAlike before cs after :=
  fun left right hcs => (h left right hcs).lowerSigma_eq before after

end Words

section Unsettled
variable {cs left right : List Char} {c : Char}

theorem eq_of_ofNat_eq_a {n : Nat} (h : Char.ofNat n = 'a') : n = 0x61 := by
  by_cases hn : n.isValidChar
  · have hvalue := congrArg Char.toNat h
    rw [Char.ofNat, dif_pos hn] at hvalue
    exact hvalue
  · rw [Char.ofNat, dif_neg hn] at h
    cases h

theorem notMem_lowerChar (h : inRanges ignorableRanges c.toNat = true) : 'a' ∉ lowerChar c := by
  intro ha
  unfold lowerChar at ha
  split at ha
  · next hlt =>
    have hascii : ∀ n < 0x80, (Char.ofNat n).toLower = 'a' →
        inRanges ignorableRanges n = false := by decide +kernel
    have hlower : c.toLower = 'a' := (List.mem_singleton.1 ha).symm
    have hshows := hascii c.toNat hlt (by rwa [Char.ofNat_toNat])
    rw [h] at hshows
    cases hshows
  · next hle =>
    split at ha
    · simp at ha
    · split at ha
      · next r hr =>
        have habove : ∀ r ∈ lowerRuns, 0x61 < (r.first : Int) + r.shift := by decide +kernel
        have hshift := habove r (List.mem_of_find?_eq_some hr)
        have hcovers : r.first ≤ c.toNat := by
          have hfound := List.find?_some hr
          simp only [CaseRun.covers, Bool.and_eq_true, decide_eq_true_eq] at hfound
          exact hfound.1.1
        have hchar := eq_of_ofNat_eq_a (List.mem_singleton.1 ha).symm
        omega
      · rw [← List.mem_singleton.1 ha] at hle
        exact hle (by decide)

theorem notMem_lowerWithin (h : c = 'Σ' ∨ inRanges ignorableRanges c.toNat = true)
    (before after : List Char) : 'a' ∉ lowerWithin before after [c] := by
  unfold lowerWithin
  rw [lowerWithin, List.append_nil]
  split
  · unfold lowerSigma
    split <;> simp
  · next hc => exact notMem_lowerChar (h.resolve_left hc)

theorem lowerWithin_singleton_ne_nil (before after : List Char) :
    lowerWithin before after [c] ≠ [] := by
  have hlength := length_lowerWithin before after [c]
  have hpos := length_lowerChar_pos c
  intro hnil
  rw [hnil] at hlength
  simp only [lowerLength, List.length_nil] at hlength
  split at hlength <;> omega

/-- Nothing but what is left of the first sigma, or the sigma itself, comes first in lower case. -/
theorem head?_lowerFrom_ne (hleft : ¬Shows left) :
    (lowerFrom [] (left ++ 'Σ' :: right)).head? ≠ some 'a' := by
  obtain ⟨c, rest, hcs, hc⟩ : ∃ c rest, left ++ 'Σ' :: right = c :: rest ∧
      (c = 'Σ' ∨ inRanges ignorableRanges c.toNat = true) := by
    cases left with
    | nil => exact ⟨_, _, rfl, .inl rfl⟩
    | cons c left =>
      refine ⟨c, _, List.cons_append, .inr ?_⟩
      by_contra hn
      exact hleft ⟨c, List.mem_cons_self, by simpa using hn⟩
  have hparts : lowerFrom [] (c :: rest) = lowerWithin [] rest [c] ++ lowerWithin [c] [] rest := by
    have happend := lowerFrom_nil_append [] [c] rest
    simpa [lowerWithin] using happend
  intro hhead
  rw [hcs, hparts, List.head?_append_of_ne_nil _ (lowerWithin_singleton_ne_nil _ _)] at hhead
  exact notMem_lowerWithin hc _ _ (List.mem_of_head? hhead)

theorem getLast?_lowerFrom_ne (hright : ¬Shows right) :
    (lowerFrom [] (left ++ 'Σ' :: right)).getLast? ≠ some 'a' := by
  obtain ⟨c, rest, hcs, hc⟩ : ∃ c rest, left ++ 'Σ' :: right = rest ++ [c] ∧
      (c = 'Σ' ∨ inRanges ignorableRanges c.toNat = true) := by
    rcases List.eq_nil_or_concat right with rfl | ⟨rest, c, rfl⟩
    · exact ⟨_, _, rfl, .inl rfl⟩
    · refine ⟨c, left ++ 'Σ' :: rest, by simp, .inr ?_⟩
      by_contra hn
      exact hright ⟨c, by simp, by simpa using hn⟩
  have hparts : lowerFrom [] (rest ++ [c]) =
      lowerWithin [] [c] rest ++ lowerWithin rest.reverse [] [c] := by
    have happend := lowerFrom_nil_append rest [c] []
    simpa [lowerWithin] using happend
  intro hlast
  rw [hcs, hparts, List.getLast?_append_of_ne_nil _ (lowerWithin_singleton_ne_nil _ _)] at hlast
  exact notMem_lowerWithin hc _ _ (List.mem_of_getLast? hlast)

theorem eq_of_infix_between {xs ys : List Char} {a b : Char} (h : xs <:+: a :: (ys ++ [b]))
    (hlength : xs.length = ys.length) (hfirst : xs.head? ≠ some a)
    (hlast : xs.getLast? ≠ some b) : xs = ys := by
  rcases List.infix_cons_iff.1 h with hprefix | hinfix
  · rcases List.prefix_cons_iff.1 hprefix with rfl | ⟨rest, rfl, -⟩
    · exact (List.eq_nil_of_length_eq_zero hlength.symm).symm
    · exact absurd rfl hfirst
  · rcases List.infix_concat_iff.1 hinfix with hsuffix | hinfix
    · rcases List.suffix_concat_iff.1 hsuffix with rfl | ⟨rest, rfl, -⟩
      · exact (List.eq_nil_of_length_eq_zero hlength.symm).symm
      · exact absurd (by simp) hlast
    · exact hinfix.eq_of_length hlength

/-- A text with a sigma that is not all alike is not found between two characters in lower case. -/
theorem not_infix_between {first last first' last' : Char} (hf : first ≠ 'Σ') (hl : last ≠ 'Σ')
    (hfirst : lowerChar first = [first']) (hlast : lowerChar last = [last'])
    (hhead : (lowerFrom [] cs).head? ≠ some first')
    (hgetLast : (lowerFrom [] cs).getLast? ≠ some last') (h : ¬SigmasAlike [first] cs [last]) :
    ¬lowerFrom [] cs <:+: lowerFrom [] (first :: (cs ++ [last])) := by
  have hparts : lowerFrom [] (first :: (cs ++ [last])) =
      first' :: (lowerWithin [first] [last] cs ++ [last']) := by
    have happend := lowerFrom_nil_append [first] cs [last]
    simpa [lowerWithin, hf, hl, hfirst, hlast] using happend
  intro hinfix
  rw [hparts] at hinfix
  have hlength : (lowerFrom [] cs).length = (lowerWithin [first] [last] cs).length := by
    rw [length_lowerFrom, length_lowerWithin]
  exact h (lowerWithin_eq_iff.1 (eq_of_infix_between hinfix hlength hhead hgetLast).symm)

theorem exists_digit_ne (c? : Option Char) : ∃ d ∈ ['0', '1'], c? ≠ some d := by
  by_cases h : c? = some '0'
  · exact ⟨'1', by simp, by rw [h]; decide⟩
  · exact ⟨'0', by simp, h⟩

/-- A text with a sigma that is not settled is hidden, in lower case, between a letter and a digit. -/
theorem exists_hidden (h : ¬Settled cs) :
    ∃ first last, 'A' ∈ [first, last] ∧ isBlank first = false ∧ isBlank last = false ∧
      ¬lowerFrom [] cs <:+: lowerFrom [] (first :: (cs ++ [last])) := by
  unfold Settled at h
  push Not at h
  obtain ⟨left, right, rfl, hsigma⟩ := h
  simp only [SigmaSettled, not_or, not_and, Bool.not_eq_false, Bool.not_eq_true] at hsigma
  obtain ⟨hcased, hafter, hshows⟩ := hsigma
  have hdigit : ∀ d ∈ ['0', '1'], d ≠ 'Σ' ∧ isBlank d = false ∧ lowerChar d = [d] ∧
      casedAhead [d] = false := by
    intro d hd
    obtain rfl | rfl : d = '0' ∨ d = '1' := by simpa using hd
    · decide +kernel
    · decide +kernel
  have hletter : casedAhead ['A'] = true := by decide +kernel
  by_cases hleft : Shows left.reverse
  · -- The sigma ends the word in the text alone, and does not before a letter.
    have hright := hshows hleft
    obtain ⟨d, hd, hhead⟩ := exists_digit_ne (lowerFrom [] (left ++ 'Σ' :: right)).head?
    obtain ⟨hne, hblank, hlower, -⟩ := hdigit d hd
    refine ⟨d, 'A', by simp, hblank, by decide, ?_⟩
    refine not_infix_between hne (by decide) hlower (by decide) hhead
      (getLast?_lowerFrom_ne hright) fun halike => ?_
    have hform := halike left right rfl
    simp [lowerSigma, casedAhead_append_of_shows hleft, casedAhead_append_of_not_shows hright,
      hletter, hcased hleft, hafter] at hform
  · -- The sigma is no part of a word in the text alone, and ends one after a letter.
    have hreverse : ¬Shows left := by simpa [Shows] using hleft
    obtain ⟨d, hd, hlast⟩ := exists_digit_ne (lowerFrom [] (left ++ 'Σ' :: right)).getLast?
    obtain ⟨hne, hblank, hlower, huncased⟩ := hdigit d hd
    refine ⟨'A', d, by simp, by decide, hblank, ?_⟩
    refine not_infix_between (by decide) hne (by decide) hlower (head?_lowerFrom_ne hreverse)
      hlast fun halike => ?_
    have hend : casedAhead (right ++ [d]) = false := by
      by_cases hright : Shows right
      · rw [casedAhead_append_of_shows hright, hafter]
      · rw [casedAhead_append_of_not_shows hright, huncased]
    have hform := halike left right rfl
    simp [lowerSigma, casedAhead_append_of_not_shows hleft, casedAhead_of_not_shows hleft, hletter,
      hend] at hform

end Unsettled

end Tabular.Text
