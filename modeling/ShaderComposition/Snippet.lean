import ShaderComposition.BuildError

/-!
# Snippets

A snippet is a piece of shading language text that does one job in a program. It says for which
stages, dialects and packing it is written, and which parameters its text reads and produces.
-/

namespace ShaderComposition

/-- A piece of program text, with what it is written for and the parameters that it declares. -/
structure Snippet where
  role : Role
  name : String
  stages : SymbolSet Stage
  dialects : SymbolSet Dialect
  packing : Packing
  parameters : List Parameter
  body : String
deriving DecidableEq

namespace Snippet

/-- A snippet for the usual stages of its role, all dialects and plain packing. -/
def plain (role : Role) (name body : String) : Snippet where
  role
  name
  stages := role.defaultStages
  dialects := .full
  packing := .default
  parameters := []
  body

/-- How comments and reports refer to a snippet of this role and name. -/
def labelFor (role : Role) (name : String) : String :=
  Vocabulary.spelling role ++ ": " ++ name

def label (s : Snippet) : String :=
  labelFor s.role s.name

/-- Adds a parameter, as declared by this snippet. -/
def declaring (s : Snippet) (p : Parameter) : Snippet :=
  { s with parameters := s.parameters ++ [p.withSource s.label] }

/-- The snippet is written for the stage and the dialect. -/
def supports (s : Snippet) (stage : Stage) (dialect : Dialect) : Bool :=
  s.stages.contains stage && s.dialects.contains dialect

/-- The first declaration of a name. -/
def declaration? (s : Snippet) (name : String) : Option Parameter :=
  s.parameters.find? (·.name == name)

/-- The snippet reads the value of that name, whether or not it changes it. -/
def reads (s : Snippet) (name : String) : Bool :=
  (s.declaration? name).any (·.qualifier ≠ .output)

end Snippet

end ShaderComposition
