import ShaderComposition.Parameter

/-!
# Catalogs of well-known parameters

A catalog is a vocabulary whose symbols are parameter names of a fixed shape.
-/

namespace ShaderComposition

/-- A vocabulary of parameter names, each with the shape of the parameter. -/
class Catalog (α : Type) [DecidableEq α] [Vocabulary α] where
  shape : α → Shape

namespace Catalog

variable {α : Type} [DecidableEq α] [Vocabulary α] [Catalog α]

/-- The parameter that a symbol names, as a value that is read. -/
def parameter (a : α) : Parameter :=
  { name := Vocabulary.spelling a, shape := shape a }

/-- The parameter as `source` reads it. -/
def readBy (a : α) (source : String) : Parameter :=
  (parameter a).withSource source

/-- The parameter as `source` produces it. -/
def producedBy (a : α) (source : String) : Parameter :=
  ((parameter a).withQualifier .output).withSource source

end Catalog

end ShaderComposition
