/-! Outcomes of steps that may fail: of two steps in a row, and of the steps over a list. -/
namespace Tabular

namespace Except
variable {ε α β : Type} {e : ε}

theorem bind_eq_ok {x : Except ε α} {f : α → Except ε β} {b : β} :
    (x >>= f) = .ok b ↔ ∃ a, x = .ok a ∧ f a = .ok b := by
  cases x with
  | error e => exact ⟨nofun, fun ⟨_, hx, _⟩ => nomatch hx⟩
  | ok a =>
    refine ⟨fun h => ⟨a, rfl, h⟩, ?_⟩
    rintro ⟨_, hx, h⟩
    cases hx
    exact h

theorem bind_eq_error {x : Except ε α} {f : α → Except ε β} :
    (x >>= f) = .error e ↔ x = .error e ∨ ∃ a, x = .ok a ∧ f a = .error e := by
  cases x with
  | error e' =>
    constructor
    · intro h
      cases h
      exact .inl rfl
    · rintro (h | ⟨_, hx, -⟩)
      · cases h
        rfl
      · cases hx
  | ok a =>
    refine ⟨fun h => .inr ⟨a, rfl, h⟩, ?_⟩
    rintro (h | ⟨_, hx, h⟩)
    · cases h
    · cases hx
      exact h

theorem map_eq_ok {x : Except ε α} {f : α → β} {b : β} :
    x.map f = .ok b ↔ ∃ a, x = .ok a ∧ f a = b := by
  cases x with
  | error e => exact ⟨nofun, fun ⟨_, hx, _⟩ => nomatch hx⟩
  | ok a =>
    refine ⟨fun h => ⟨a, rfl, Except.ok.inj h⟩, ?_⟩
    rintro ⟨_, hx, rfl⟩
    cases hx
    rfl

theorem map_eq_error {x : Except ε α} {f : α → β} : x.map f = .error e ↔ x = .error e := by
  cases x with
  | error e' =>
    constructor <;>
      · intro h
        cases h
        rfl
  | ok a => exact ⟨nofun, nofun⟩

theorem pure_eq_ok {a b : α} : (pure a : Except ε α) = .ok b ↔ a = b :=
  ⟨Except.ok.inj, congrArg Except.ok⟩

end Except

section Lists
variable {ε α β : Type} {e : ε} {xs : List α}

theorem mapM_cons_eq_ok {f : α → Except ε β} {x : α} {ys : List β} :
    (x :: xs).mapM f = .ok ys ↔ ∃ z zs, f x = .ok z ∧ xs.mapM f = .ok zs ∧ z :: zs = ys := by
  rw [List.mapM_cons]
  simp only [Except.bind_eq_ok, Except.pure_eq_ok, exists_and_left]

theorem foldlM_cons_eq_ok {f : β → α → Except ε β} {x : α} {b b' : β} :
    (x :: xs).foldlM f b = .ok b' ↔ ∃ b₁, f b x = .ok b₁ ∧ xs.foldlM f b₁ = .ok b' := by
  rw [List.foldlM_cons, Except.bind_eq_ok]

theorem mapM_eq_ok {f : α → Except ε β} {g : α → β} (h : ∀ x ∈ xs, f x = .ok (g x)) :
    xs.mapM f = .ok (xs.map g) := by
  induction xs with
  | nil => rfl
  | cons x rest ih =>
    have hrest := ih fun y hy => h y (List.mem_cons_of_mem _ hy)
    exact mapM_cons_eq_ok.2 ⟨g x, rest.map g, h x List.mem_cons_self, hrest, rfl⟩

theorem mapM_eq_map_mapM {γ : Type} {f : α → Except ε β} {f' : α → Except ε γ} {g : β → γ}
    (h : ∀ x ∈ xs, f' x = (f x).map g) : xs.mapM f' = (xs.mapM f).map (List.map g) := by
  induction xs with
  | nil => rfl
  | cons x rest ih =>
    obtain ⟨hx, hrest⟩ := List.forall_mem_cons.1 h
    rw [List.mapM_cons, List.mapM_cons, hx, ih hrest]
    cases f x with
    | error e => rfl
    | ok y => cases rest.mapM f <;> rfl

theorem exists_of_mem_mapM {f : α → Except ε β} {ys : List β} (h : xs.mapM f = .ok ys) {y : β}
    (hy : y ∈ ys) : ∃ x ∈ xs, f x = .ok y := by
  induction xs generalizing ys with
  | nil =>
    cases h
    cases hy
  | cons x rest ih =>
    obtain ⟨z, zs, hx, hrest, rfl⟩ := mapM_cons_eq_ok.1 h
    rcases List.mem_cons.1 hy with rfl | hy
    · exact ⟨x, List.mem_cons_self, hx⟩
    · obtain ⟨x', hm, hx'⟩ := ih hrest hy
      exact ⟨x', List.mem_cons_of_mem _ hm, hx'⟩

theorem exists_getElem?_of_mapM {f : α → Except ε β} {ys : List β} (h : xs.mapM f = .ok ys)
    {i : Nat} {x : α} (hx : xs[i]? = some x) : ∃ y, ys[i]? = some y ∧ f x = .ok y := by
  induction xs generalizing ys i with
  | nil => cases hx
  | cons first rest ih =>
    obtain ⟨y, zs, hfirst, hrest, rfl⟩ := mapM_cons_eq_ok.1 h
    cases i with
    | zero =>
      cases hx
      exact ⟨y, rfl, hfirst⟩
    | succ i => exact ih hrest hx

/-- A list of steps fails as one of them does. -/
theorem exists_of_mapM_error {f : α → Except ε β} (h : xs.mapM f = .error e) :
    ∃ x ∈ xs, f x = .error e := by
  induction xs with
  | nil => cases h
  | cons x rest ih =>
    rw [List.mapM_cons] at h
    rcases Except.bind_eq_error.1 h with hx | ⟨z, -, h⟩
    · exact ⟨x, List.mem_cons_self, hx⟩
    · rcases Except.bind_eq_error.1 h with hrest | ⟨zs, -, h⟩
      · obtain ⟨x', hm, hx'⟩ := ih hrest
        exact ⟨x', List.mem_cons_of_mem _ hm, hx'⟩
      · cases h

/-- What each step of a run over a list keeps, the run keeps. -/
theorem of_foldlM_ok {P : β → Prop} {f : β → α → Except ε β} {b b' : β}
    (hstep : ∀ x ∈ xs, ∀ b b', P b → f b x = .ok b' → P b') (hb : P b)
    (h : xs.foldlM f b = .ok b') : P b' := by
  induction xs generalizing b with
  | nil =>
    cases h
    exact hb
  | cons x rest ih =>
    obtain ⟨b₁, hx, hrest⟩ := foldlM_cons_eq_ok.1 h
    have hfirst := hstep x List.mem_cons_self b b₁ hb hx
    exact ih (fun y hy => hstep y (List.mem_cons_of_mem _ hy)) hfirst hrest

theorem exists_of_foldlM_error {f : β → α → Except ε β} {b : β} (h : xs.foldlM f b = .error e) :
    ∃ x ∈ xs, ∃ b', f b' x = .error e := by
  induction xs generalizing b with
  | nil => cases h
  | cons x rest ih =>
    rw [List.foldlM_cons] at h
    rcases Except.bind_eq_error.1 h with hx | ⟨b₁, -, h⟩
    · exact ⟨x, List.mem_cons_self, b, hx⟩
    · obtain ⟨x', hm, hx'⟩ := ih h
      exact ⟨x', List.mem_cons_of_mem _ hm, hx'⟩

end Lists

end Tabular
