import ShaderComposition.Scope
import ShaderComposition.Catalog.Input

/-!
# The interface of a program

Once both stages are put together, their globals are sorted by how a program is linked: values that
the vertex stage produces under a name that the fragment stage has too are handed over as varyings,
values that the vertex stage reads are attributes or uniforms, values that the fragment stage reads
are uniforms, and all else is temporary.
-/

namespace ShaderComposition

/-- A parameter of the vertex stage that an attribute supplies. -/
structure AttributeBinding where
  channel : VertexAttribute
  parameter : Parameter
deriving DecidableEq

/-- The parameters of a program, sorted by where their values come from. -/
structure Interface where
  attributes : List AttributeBinding := []
  varyings : List Parameter := []
  vertexUniforms : List Parameter := []
  fragmentUniforms : List Parameter := []
  vertexTemporaries : List Parameter := []
  fragmentTemporaries : List Parameter := []
deriving DecidableEq

namespace Interface

/-- The attribute that supplies a parameter that the vertex stage reads. -/
def attribute? (p : Parameter) : Option AttributeBinding :=
  (Vocabulary.symbol? p.name).map (⟨·, p⟩)

/-- A name is declared in a list. -/
def declares (parameters : List Parameter) (name : String) : Bool :=
  parameters.any (·.name == name)

def ofScopes (vertex fragment : Scope) : Interface :=
  let read := vertex.globals.filter (·.qualifier = .input)
  let produced := vertex.globals.filter (·.qualifier ≠ .input)
  let varyings := produced.filter fun p => declares fragment.globals p.name
  let own := fragment.globals.filter fun p => !declares varyings p.name
  { attributes := read.filterMap attribute?
    varyings
    vertexUniforms := read.filter fun p => (attribute? p).isNone
    fragmentUniforms := own.filter (·.qualifier = .input)
    vertexTemporaries :=
      (produced.filter fun p => !declares fragment.globals p.name) ++ vertex.locals
    fragmentTemporaries := own.filter (·.qualifier ≠ .input) ++ fragment.locals }

/-- The uniforms of both stages; one that both read is listed twice. -/
def uniforms (i : Interface) : List Parameter :=
  i.vertexUniforms ++ i.fragmentUniforms

/-- What the text of a stage declares outside the light block. -/
def declared (i : Interface) : Stage → List Parameter
  | .vertex =>
    i.attributes.map (·.parameter) ++ i.vertexUniforms ++ i.varyings ++ i.vertexTemporaries
  | .fragment => i.fragmentUniforms ++ i.varyings ++ i.fragmentTemporaries

end Interface

end ShaderComposition
