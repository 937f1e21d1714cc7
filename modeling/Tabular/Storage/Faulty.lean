import Tabular.Storage.Basic

/-! Storage whose operations can be made to fail. -/
namespace Tabular

/-- An operation that fails, always or only on one table or database. -/
structure InjectedFault where
  method : Method
  subject : Option String := none
  deriving DecidableEq, Repr

namespace InjectedFault

/-- The fault that `method` or `method:subject` names. -/
def ofText? (s : String) : Option InjectedFault :=
  match s.toList.span (· ≠ ':') with
  | (name, []) => (Method.ofName? (String.ofList name)).map (⟨·, none⟩)
  | (name, _ :: subject) => (Method.ofName? (String.ofList name)).map (⟨·, some (String.ofList subject)⟩)

def hits (f : InjectedFault) (method : Method) (subject : String) : Bool :=
  f.method == method && f.subject.all (· == subject)

end InjectedFault

/-- Storage together with the faults it has. -/
structure Faulty (σ : Type) where
  faults : List InjectedFault := []
  base : σ

/-- An operation that has a fault does nothing but fail. -/
instance {σ : Type} [Storage σ] : Storage (Faulty σ) where
  ask q s :=
    if s.faults.any (·.hits q.method q.subject) then .error (.storage (.injected q.method))
    else Storage.ask q s.base
  change c := fun s =>
    if s.faults.any (·.hits c.method c.subject) then .error (.storage (.injected c.method)) s
    else match Storage.change c s.base with
      | .ok _ base => .ok () { s with base }
      | .error e base => .error e { s with base }

end Tabular
