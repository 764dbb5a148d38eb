import ShaderComposition.Parameter
import ShaderComposition.Role

/-!
# Why a build is refused

Every refusal names its cause, and `BuildError.message` is the one place where causes get words.
-/

namespace ShaderComposition

open Vocabulary (spelling)

/-- What two declarations of one name disagree on. -/
inductive Disagreement
  | type | size | qualifier
deriving DecidableEq

namespace Disagreement

def text : Disagreement → String
  | type => "value type"
  | size => "array size"
  | qualifier => "qualifier"

end Disagreement

/-- The causes for which a snippet or a program is refused. -/
inductive BuildError
  /-- A text spells no symbol of a catalog. -/
  | unknownSymbol (catalog text : String)
  /-- A snippet is registered already for one of the cases that a later one covers. -/
  | duplicateVariant (role : Role) (name : String) (stage : Stage) (dialect : Dialect)
      (packing : Packing)
  /-- A stage declares one name in two ways that cannot stand together. -/
  | parameterConflict (stage : Stage) (on : Disagreement) (existing candidate : Parameter)
  /-- A value is to be changed that nothing before has produced. -/
  | unsatisfiableInOut (stage : Stage) (source parameter : String)
deriving DecidableEq

namespace BuildError

def message : BuildError → String
  | unknownSymbol catalog text => "unknown " ++ catalog ++ " symbol '" ++ text ++ "'"
  | duplicateVariant role name stage dialect packing =>
    "duplicate " ++ spelling stage ++ " fragment '" ++ name ++ "' for role " ++ spelling role ++
      " (" ++ spelling dialect ++ ", " ++ spelling packing ++ " packing)"
  | parameterConflict stage on existing candidate =>
    spelling stage ++ " parameter '" ++ existing.name ++ "' " ++ on.text ++ " conflict: '" ++
      existing.source ++ "' declares " ++ existing.signature ++ " but '" ++ candidate.source ++
      "' declares " ++ candidate.signature
  | unsatisfiableInOut stage source parameter =>
    spelling stage ++ " parameter '" ++ parameter ++ "' declared inout by '" ++ source ++
      "' has no producer"

end BuildError

/-- The symbol that a text spells; a text that spells none is refused. -/
def Vocabulary.parse (α : Type) [DecidableEq α] [Vocabulary α] (text : String) :
    Except BuildError α :=
  match symbol? text with
  | some a => .ok a
  | none => .error (.unknownSymbol (catalog α) text)

/-- The type that a text spells; reports name the catalog of plain data types. -/
def GlslType.parse (text : String) : Except BuildError GlslType :=
  match ofSpelling? text with
  | some type => .ok type
  | none => .error (.unknownSymbol (Vocabulary.catalog DataType) text)

end ShaderComposition
