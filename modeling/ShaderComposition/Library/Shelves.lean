import ShaderComposition.Snippet.Definition

/-!
# Shelves

How the snippets of a library are kept by role and name: on one shelf for each role and name, oldest first,
where the shelves stand in increasing order. A shelf is put up for a snippet before it is known whether the
snippet is taken; that none is empty in the end is due to what a refusal needs, a snippet on that shelf.
-/

namespace ShaderComposition

/-- The snippets of one role and name, oldest first. -/
structure Shelf where
  role : Role
  name : String
  variants : List Snippet

namespace Shelf

/-- The shelf is the one of a role and name. -/
def IsOf (shelf : Shelf) (role : Role) (name : String) : Prop :=
  shelf.role = role ∧ shelf.name = name

/-- The shelf has its place behind that of a role and name; roles are in vocabulary order. -/
def IsBehind (shelf : Shelf) (role : Role) (name : String) : Prop :=
  Vocabulary.position role < Vocabulary.position shelf.role ∨ role = shelf.role ∧ name < shelf.name

instance (shelf : Shelf) (role : Role) (name : String) : Decidable (shelf.IsOf role name) :=
  inferInstanceAs (Decidable (_ ∧ _))

instance (shelf : Shelf) (role : Role) (name : String) : Decidable (shelf.IsBehind role name) :=
  inferInstanceAs (Decidable (_ ∨ _))

/-- Changes what stands on the shelf of a role and name, which is put up at its place if there is none. -/
def alter (role : Role) (name : String) (change : List Snippet → List Snippet) :
    List Shelf → List Shelf
  | [] => [⟨role, name, change []⟩]
  | shelf :: rest =>
    if shelf.IsOf role name then ⟨role, name, change shelf.variants⟩ :: rest
    else if shelf.IsBehind role name then ⟨role, name, change []⟩ :: shelf :: rest
    else shelf :: alter role name change rest

/-- What stands on the shelf of a role and name; nothing where there is no such shelf. -/
def contents (role : Role) (name : String) : List Shelf → List Snippet
  | [] => []
  | shelf :: rest => if shelf.IsOf role name then shelf.variants else contents role name rest

end Shelf

/-- The shelves of a library, in increasing order of role and name. -/
structure Shelves where
  shelves : List Shelf := []

namespace Shelves

/-- Puts a snippet on its shelf, unless it covers a case that is taken there, or no case at all. -/
def register (s : Shelves) (snippet : Snippet) : Shelves × Except BuildError Unit :=
  if snippet.stages.isEmpty || snippet.dialects.isEmpty then (s, .ok ())
  else
    let opened := Shelf.alter snippet.role snippet.name id s.shelves
    let variants := Shelf.contents snippet.role snippet.name opened
    let rivals := variants.filter (·.packing = snippet.packing)
    match rivals.findSome? (Library.overlap? snippet) with
    | some (stage, dialect) =>
      (⟨opened⟩,
        .error (.duplicateVariant snippet.role snippet.name stage dialect snippet.packing))
    | none => (⟨Shelf.alter snippet.role snippet.name (· ++ [snippet]) opened⟩, .ok ())

/-- Registers what definitions describe, in order; those that are refused are left out. -/
def registerDefinitions (s : Shelves) (ds : List Snippet.Definition) : Shelves :=
  ds.foldl (fun s d => match d.resolve with
    | .ok snippet => (s.register snippet).1
    | .error _ => s) s

/-- The names that a role has a shelf for. -/
def names (s : Shelves) (role : Role) : List String :=
  (s.shelves.filter (·.role = role)).map (·.name)

/-- The number of snippets on all shelves. -/
def size (s : Shelves) : Nat :=
  (s.shelves.flatMap (·.variants)).length

/-- There is no shelf, not even an empty one. -/
def isEmpty (s : Shelves) : Bool :=
  s.shelves.isEmpty

end Shelves

end ShaderComposition
