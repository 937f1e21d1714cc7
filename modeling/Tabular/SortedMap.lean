/-! Finite maps kept in the order of their keys, so that equal contents are equal maps. -/
namespace Tabular

/-- Entries whose keys strictly increase. -/
structure SortedMap (κ α : Type) [LT κ] where
  entries : List (κ × α)
  sorted : entries.Pairwise fun a b => a.1 < b.1

namespace SortedMap
variable {κ α : Type}

section Find
variable [DecidableEq κ]

def find (k : κ) : List (κ × α) → Option α
  | [] => none
  | e :: rest => if e.1 = k then some e.2 else find k rest

theorem find_eq_none {k : κ} {l : List (κ × α)} (h : ∀ e ∈ l, e.1 ≠ k) : find k l = none := by
  induction l with
  | nil => rfl
  | cons a rest ih =>
    rw [find, if_neg (h a (by simp)), ih fun e he => h e (by simp [he])]

theorem mem_of_find {k : κ} {v : α} {l : List (κ × α)} (h : find k l = some v) : (k, v) ∈ l := by
  induction l with
  | nil => simp [find] at h
  | cons a rest ih =>
    rw [find] at h
    split at h
    · next hk => simp only [Option.some.injEq] at h; simp [← hk, ← h]
    · exact List.mem_cons_of_mem _ (ih h)

theorem find_filter (p : κ → Bool) (k : κ) (l : List (κ × α)) :
    find k (l.filter fun e => p e.1) = if p k then find k l else none := by
  induction l with
  | nil => simp [find]
  | cons a rest ih =>
    by_cases hk : a.1 = k
    · subst hk
      by_cases hp : p a.1
      · simp [hp, find]
      · simp [hp, ih]
    · by_cases hp : p a.1
      · simp [hp, find, hk, ih]
      · simp [hp, find, hk, ih]

end Find

section Put
variable [LT κ] [DecidableLT κ]

def put (k : κ) (v : α) : List (κ × α) → List (κ × α)
  | [] => [(k, v)]
  | e :: rest =>
    if k < e.1 then (k, v) :: e :: rest
    else if e.1 < k then e :: put k v rest
    else (k, v) :: rest

theorem mem_put {k : κ} {v : α} {l : List (κ × α)} {e : κ × α} (h : e ∈ put k v l) :
    e = (k, v) ∨ e ∈ l := by
  induction l with
  | nil => simpa [put] using h
  | cons a rest ih =>
    simp only [put] at h
    split at h
    · simpa using h
    · split at h
      · rcases List.mem_cons.1 h with rfl | h
        · simp
        · exact (ih h).imp_right (List.mem_cons_of_mem _)
      · exact (List.mem_cons.1 h).imp_right (List.mem_cons_of_mem _)

end Put

section Order
variable [LE κ] [LT κ] [Std.IsLinearOrder κ] [Std.LawfulOrderLT κ]

theorem sorted_put [DecidableLT κ] (k : κ) (v : α) {l : List (κ × α)} (h : l.Pairwise fun a b => a.1 < b.1) :
    (put k v l).Pairwise fun a b => a.1 < b.1 := by
  induction l with
  | nil => simp [put]
  | cons a rest ih =>
    have hrest := List.pairwise_cons.1 h
    simp only [put]
    split
    · next hlt =>
      refine List.pairwise_cons.2 ⟨fun e he => ?_, h⟩
      rcases List.mem_cons.1 he with rfl | he
      · exact hlt
      · exact Std.lt_trans hlt (hrest.1 e he)
    · split
      · next hgt =>
        refine List.pairwise_cons.2 ⟨fun e he => ?_, ih hrest.2⟩
        rcases mem_put he with rfl | he
        · exact hgt
        · exact hrest.1 e he
      · next hlt hgt =>
        have hk : k = a.1 := by
          rcases Std.lt_trichotomy k a.1 with h | h | h
          · exact absurd h hlt
          · exact h
          · exact absurd h hgt
        exact List.pairwise_cons.2 ⟨fun e he => hk ▸ hrest.1 e he, hrest.2⟩

theorem find_put [DecidableLT κ] [DecidableEq κ] (k k' : κ) (v : α) (l : List (κ × α)) :
    find k' (put k v l) = if k' = k then some v else find k' l := by
  induction l with
  | nil => simp [put, find, eq_comm]
  | cons a rest ih =>
    simp only [put]
    split
    · simp [find, eq_comm]
    · split
      · next hgt =>
        have hne : a.1 ≠ k := fun h => Std.lt_irrefl (h ▸ hgt)
        by_cases hk : k' = k
        · subst hk; simp [find, hne, ih]
        · simp [find, ih, hk]
      · next hlt hgt =>
        have hk : k = a.1 := by
          rcases Std.lt_trichotomy k a.1 with h | h | h
          · exact absurd h hlt
          · exact h
          · exact absurd h hgt
        subst hk
        by_cases hk' : k' = a.1
        · simp [find, hk']
        · simp [find, hk', Ne.symm hk']

omit [Std.IsLinearOrder κ] in
theorem find_eq_some_of_mem [DecidableEq κ] {k : κ} {v : α} {l : List (κ × α)} (hs : l.Pairwise fun a b => a.1 < b.1)
    (h : (k, v) ∈ l) : find k l = some v := by
  induction l with
  | nil => simp at h
  | cons a rest ih =>
    have hrest := List.pairwise_cons.1 hs
    rcases List.mem_cons.1 h with rfl | h
    · simp [find]
    · have hne : a.1 ≠ k := fun he => Std.lt_irrefl (he ▸ hrest.1 _ h)
      rw [find, if_neg hne, ih hrest.2 h]

theorem eq_of_find [DecidableEq κ] {l m : List (κ × α)} (hl : l.Pairwise fun a b => a.1 < b.1)
    (hm : m.Pairwise fun a b => a.1 < b.1) (h : ∀ k, find k l = find k m) : l = m := by
  induction l generalizing m with
  | nil =>
    cases m with
    | nil => rfl
    | cons b _ => simpa [find] using h b.1
  | cons a rest ih =>
    cases m with
    | nil => simpa [find] using h a.1
    | cons b rest' =>
      have hl' := List.pairwise_cons.1 hl
      have hm' := List.pairwise_cons.1 hm
      have ha : a ∈ b :: rest' := mem_of_find ((h a.1).symm.trans (by simp [find]))
      have hb : b ∈ a :: rest := mem_of_find ((h b.1).trans (by simp [find]))
      have hab : a = b := by
        rcases List.mem_cons.1 ha with hab | ha
        · exact hab
        · rcases List.mem_cons.1 hb with hba | hb
          · exact hba.symm
          · exact absurd (Std.lt_trans (hm'.1 a ha) (hl'.1 b hb)) Std.lt_irrefl
      subst hab
      congr 1
      refine ih hl'.2 hm'.2 fun k => ?_
      by_cases hk : a.1 = k
      · rw [find_eq_none fun e he => hk ▸ fun h => Std.lt_irrefl (h ▸ hl'.1 e he),
          find_eq_none fun e he => hk ▸ fun h => Std.lt_irrefl (h ▸ hm'.1 e he)]
      · simpa [find, hk] using h k

end Order

section Basic
variable [LT κ]

def empty : SortedMap κ α := ⟨[], .nil⟩

instance : EmptyCollection (SortedMap κ α) := ⟨empty⟩

instance : Inhabited (SortedMap κ α) := ⟨empty⟩

def keys (m : SortedMap κ α) : List κ := m.entries.map (·.1)

def isEmpty (m : SortedMap κ α) : Bool := m.entries.isEmpty

def filterKeys (m : SortedMap κ α) (p : κ → Bool) : SortedMap κ α :=
  ⟨m.entries.filter fun e => p e.1, m.sorted.filter _⟩

variable [DecidableEq κ]

def get? (m : SortedMap κ α) (k : κ) : Option α := find k m.entries

def contains (m : SortedMap κ α) (k : κ) : Bool := (m.get? k).isSome

def erase (m : SortedMap κ α) (k : κ) : SortedMap κ α := m.filterKeys fun k' => k' ≠ k

@[simp] theorem get?_empty (k : κ) : (∅ : SortedMap κ α).get? k = none := rfl

theorem get?_filterKeys (m : SortedMap κ α) (p : κ → Bool) (k : κ) :
    (m.filterKeys p).get? k = if p k then m.get? k else none :=
  find_filter p k m.entries

theorem get?_erase (m : SortedMap κ α) (k k' : κ) :
    (m.erase k).get? k' = if k' = k then none else m.get? k' := by
  rw [erase, get?_filterKeys]
  by_cases h : k' = k <;> simp [h]

end Basic

section Ordered
variable [LE κ] [LT κ] [DecidableLT κ] [Std.IsLinearOrder κ] [Std.LawfulOrderLT κ]

def insert (m : SortedMap κ α) (k : κ) (v : α) : SortedMap κ α := ⟨put k v m.entries, sorted_put k v m.sorted⟩

/-- The map of entries in any order; of two with one key the later stays. -/
def ofList (l : List (κ × α)) : SortedMap κ α := l.foldl (fun m e => m.insert e.1 e.2) ∅

theorem get?_insert [DecidableEq κ] (m : SortedMap κ α) (k k' : κ) (v : α) :
    (m.insert k v).get? k' = if k' = k then some v else m.get? k' :=
  find_put k k' v m.entries

end Ordered

section Ext
variable [LE κ] [LT κ] [DecidableEq κ] [Std.IsLinearOrder κ] [Std.LawfulOrderLT κ]

omit [Std.IsLinearOrder κ] in
theorem mem_keys_iff {m : SortedMap κ α} {k : κ} : k ∈ m.keys ↔ m.contains k = true := by
  simp only [keys, contains, get?, List.mem_map, Option.isSome_iff_exists]
  constructor
  · rintro ⟨e, he, rfl⟩
    exact ⟨e.2, find_eq_some_of_mem m.sorted he⟩
  · rintro ⟨v, hv⟩
    exact ⟨(k, v), mem_of_find hv, rfl⟩

/-- Maps with the same values at all keys are equal. -/
@[ext] theorem ext {m n : SortedMap κ α} (h : ∀ k, m.get? k = n.get? k) : m = n := by
  cases m with
  | mk l hl =>
    cases n with
    | mk l' hl' =>
      have : l = l' := eq_of_find hl hl' h
      subst this
      rfl

end Ext

end SortedMap

end Tabular
