import ShaderComposition.Library
import ShaderComposition.Catalog.Input
import ShaderComposition.Catalog.SharedValue

/-!
# Definitions of snippets

A definition writes a snippet down in plain texts. Resolving it reads every text as a symbol; the
first that is unknown, in the order of the definition's parts, refuses the whole definition.
-/

namespace ShaderComposition

/-- A parameter as a definition writes it: by its name in a catalog, or in full. -/
inductive ParameterReference
  | engineUniform (name : String)
  | sharedValue (name : String) (qualifier : Option String)
  | vertexAttribute (name : String)
  | textureSlot (name : String) (type : Option String)
  | custom (name type : String) (qualifier size : Option String) (scale : Option UInt16)
deriving DecidableEq

/-- A symbol that may be left out. -/
def Vocabulary.parseOr {α : Type} [DecidableEq α] [Vocabulary α] (default : α) :
    Option String → Except BuildError α
  | none => .ok default
  | some text => parse α text

/-- A list of symbols, where the empty list stands for a default. -/
def SymbolSet.parseOr {α : Type} [DecidableEq α] [Vocabulary α] (default : SymbolSet α)
    (texts : List String) : Except BuildError (SymbolSet α) :=
  if texts.isEmpty then .ok default else ofList <$> texts.mapM (Vocabulary.parse α)

namespace ParameterReference

open Vocabulary Catalog

/-- The parameter that is meant. -/
def resolve : ParameterReference → Except BuildError Parameter
  | engineUniform name => parameter <$> parse EngineUniform name
  | sharedValue name qualifier => do
    let value ← parse SharedValue name
    let qualifier ← parseOr Qualifier.input qualifier
    return (parameter value).withQualifier qualifier
  | vertexAttribute name => parameter <$> parse VertexAttribute name
  | textureSlot name none => parameter <$> parse TextureSlot name
  | textureSlot name (some type) => do
    let slot ← parse TextureSlot name
    let type ← GlslType.parse type
    return (parameter slot).withType type
  | custom name type qualifier size scale => do
    let sizeClass ← parseOr SizeClass.one size
    let type ← GlslType.parse type
    let qualifier ← parseOr Qualifier.input qualifier
    let shape := { type, sizeClass, scale := .ofUInt16 (scale.getD 1) }
    return { name, shape, qualifier }

end ParameterReference

/-- A snippet written down in plain texts. -/
structure Snippet.Definition where
  role : String
  name : String
  /-- The empty list stands for the usual stages of the role. -/
  stages : List String := []
  /-- The empty list stands for every dialect. -/
  dialects : List String := []
  packing : Option String := none
  parameters : List ParameterReference := []
  body : String
deriving DecidableEq

/-- The snippet that a definition describes. -/
def Snippet.Definition.resolve (d : Definition) : Except BuildError Snippet := do
  let role ← Vocabulary.parse Role d.role
  let stages ← SymbolSet.parseOr role.defaultStages d.stages
  let dialects ← SymbolSet.parseOr .full d.dialects
  let packing ← Vocabulary.parseOr Packing.default d.packing
  let parameters ← d.parameters.mapM ParameterReference.resolve
  let label := labelFor role d.name
  return {
    role
    name := d.name
    stages
    dialects
    packing
    parameters := parameters.map (·.withSource label)
    body := d.body }

namespace Library

/-- Registers what a definition describes. -/
def registerDefinition (library : Library) (d : Snippet.Definition) : Except BuildError Library := do
  library.register (← d.resolve)

/-- Registers definitions in order; those that are refused are left out and their causes listed. -/
def registerDefinitions (library : Library) :
    List Snippet.Definition → Library × List BuildError
  | [] => (library, [])
  | d :: rest =>
    match library.registerDefinition d with
    | .ok library' => library'.registerDefinitions rest
    | .error e =>
      let (final, refused) := library.registerDefinitions rest
      (final, e :: refused)

end Library

end ShaderComposition
