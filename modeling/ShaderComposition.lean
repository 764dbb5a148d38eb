import ShaderComposition.Program.Build
import ShaderComposition.Program.FrontEnd
import ShaderComposition.Settings.Json
import ShaderComposition.Material.Json
import ShaderComposition.Snippet.Json
import ShaderComposition.Json.Printer
import ShaderComposition.Proofs.Interface.NameSpaces
import ShaderComposition.Proofs.Scope.Permanence
import ShaderComposition.Proofs.Program.LightBounds
import ShaderComposition.Proofs.Library.FirstCome
import ShaderComposition.Proofs.Composition.Writing
import ShaderComposition.Proofs.Program.Producers
import ShaderComposition.Proofs.Interface.Accounting
import ShaderComposition.Proofs.Scope.Refusal
import ShaderComposition.Proofs.Composition.OwnParts
import ShaderComposition.Proofs.Program.DeclaredUses
import ShaderComposition.Proofs.Program.Unproduced
import ShaderComposition.Proofs.Program.VertexColor
import ShaderComposition.Proofs.Program.Optimizing
import ShaderComposition.Proofs.Program.ShadowSettings
import ShaderComposition.Proofs.Program.ColorSettings
import ShaderComposition.Proofs.Scope.Merging
import ShaderComposition.Proofs.Program.StaleFeatures
import ShaderComposition.Proofs.Program.ScratchValues
import ShaderComposition.Proofs.Program.Naming
import ShaderComposition.Proofs.Scope.Absorbing
import ShaderComposition.Proofs.Program.VaryingLocations
import ShaderComposition.Proofs.Permutation.LightSplit
import ShaderComposition.Proofs.Library.Verdicts
import ShaderComposition.Proofs.Snippet.UnknownSymbols
import ShaderComposition.Proofs.Program.SizeConstants
import ShaderComposition.Proofs.Program.TextureUnits
import ShaderComposition.Library.Shelves
import ShaderComposition.Proofs.Library.Bookkeeping
import ShaderComposition.Proofs.Scope.Placement
import ShaderComposition.Proofs.Program.LineSearch
import ShaderComposition.Proofs.Program.LooseUniforms
import ShaderComposition.Proofs.Json.Defaults
import ShaderComposition.Proofs.Parameter.Signature
import ShaderComposition.Proofs.Vocabulary.Collecting
import ShaderComposition.Proofs.Snippet.BodyLines
