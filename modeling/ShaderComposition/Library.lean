import ShaderComposition.Snippet

/-!
# Libraries of snippets

A library holds the snippets that were accepted, in the order of acceptance. The first snippet for a
role, name, stage, dialect and packing keeps its place: a later one that covers any of the same cases
is refused as a whole.
-/

namespace ShaderComposition

/-- The accepted snippets, oldest first. -/
structure Library where
  snippets : List Snippet := []

namespace Library

/-- The first stage and dialect, in vocabulary order, that two snippets are both written for. -/
def overlap? (s t : Snippet) : Option (Stage × Dialect) :=
  match (s.stages.inter t.stages).toList, (s.dialects.inter t.dialects).toList with
  | stage :: _, dialect :: _ => some (stage, dialect)
  | _, _ => none

/-- The snippets that are looked up under the same role, name and packing. -/
def siblings (library : Library) (s : Snippet) : List Snippet :=
  library.snippets.filter fun t => t.role = s.role && t.name = s.name && t.packing = s.packing

/--
Accepts a snippet unless it covers a case that is taken. One that is written for no stage or no
dialect could never be found, so it is left out without complaint.
-/
def register (library : Library) (s : Snippet) : Except BuildError Library :=
  if s.stages.isEmpty || s.dialects.isEmpty then .ok library
  else match (library.siblings s).findSome? (overlap? s) with
    | some (stage, dialect) =>
      .error (.duplicateVariant s.role s.name stage dialect s.packing)
    | none => .ok ⟨library.snippets ++ [s]⟩

/-- The snippet that is packed exactly as asked. -/
def find? (library : Library) (role : Role) (name : String) (stage : Stage) (dialect : Dialect)
    (packing : Packing) : Option Snippet :=
  library.snippets.find? fun s =>
    s.role = role && s.name = name && s.packing = packing && s.supports stage dialect

/-- The snippet for a case; where merged packing is asked for, a plainly packed one will do. -/
def lookup (library : Library) (role : Role) (name : String) (stage : Stage) (dialect : Dialect) :
    Packing → Option Snippet
  | .default => library.find? role name stage dialect .default
  | .merged =>
    (library.find? role name stage dialect .merged).or
      (library.find? role name stage dialect .default)

/-- Puts a name at its place in a strictly increasing list. -/
def insertName (name : String) : List String → List String
  | [] => [name]
  | other :: rest =>
    if name < other then name :: other :: rest
    else if name = other then other :: rest
    else other :: insertName name rest

/-- The names under which a role has snippets, in increasing order. -/
def names (library : Library) (role : Role) : List String :=
  ((library.snippets.filter (·.role = role)).map (·.name)).foldr insertName []

def size (library : Library) : Nat :=
  library.snippets.length

end Library

end ShaderComposition
