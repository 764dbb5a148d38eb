import ShaderComposition.Role

/-!
# Bindings

Bindings say which snippet does the job of a role, by the snippet's name.
-/

namespace ShaderComposition

/-- The name that is bound to each role, if there is one. -/
@[ext]
structure Bindings where
  name? : Role → Option String

namespace Bindings

def empty : Bindings :=
  ⟨fun _ => none⟩

def bind (b : Bindings) (role : Role) (name : String) : Bindings :=
  ⟨fun r => if r = role then some name else b.name? r⟩

def unbind (b : Bindings) (role : Role) : Bindings :=
  ⟨fun r => if r = role then none else b.name? r⟩

/-- Binds several roles to one name. -/
def bindAll (b : Bindings) (roles : List Role) (name : String) : Bindings :=
  roles.foldl (·.bind · name) b

def unbindAll (b : Bindings) (roles : List Role) : Bindings :=
  roles.foldl unbind b

/-- The bindings of both, where those of the second come first. -/
def override (b replacement : Bindings) : Bindings :=
  ⟨fun r => (replacement.name? r).or (b.name? r)⟩

/-- The roles that are bound, in vocabulary order, with their names. -/
def toList (b : Bindings) : List (Role × String) :=
  (Vocabulary.all Role).filterMap fun r => (b.name? r).map (r, ·)

@[simp] theorem name?_empty (r : Role) : empty.name? r = none := rfl

@[simp] theorem name?_bind (b : Bindings) (role r : Role) (name : String) :
    (b.bind role name).name? r = if r = role then some name else b.name? r := rfl

@[simp] theorem name?_unbind (b : Bindings) (role r : Role) :
    (b.unbind role).name? r = if r = role then none else b.name? r := rfl

@[simp] theorem name?_override (b replacement : Bindings) (r : Role) :
    (b.override replacement).name? r = (replacement.name? r).or (b.name? r) := rfl

end Bindings

end ShaderComposition
