import ShaderComposition.Vocabulary.SymbolSet

/-!
# Compilation targets

The language version, the stage, the texture packing and the render pass of a program.
-/

namespace ShaderComposition

/-- The language versions that programs are written for, oldest first. -/
inductive Dialect
  | glsl120 | glsl130 | glsl140 | glsl150 | glsl330 | glsl400 | glsl410 | glsl420 | glsl440
  | glsl450
deriving DecidableEq

instance : Vocabulary Dialect where
  catalog := "dialect"
  symbols := [
    .glsl120, .glsl130, .glsl140, .glsl150, .glsl330, .glsl400, .glsl410, .glsl420, .glsl440,
    .glsl450]
  spelling
    | .glsl120 => "120"
    | .glsl130 => "130"
    | .glsl140 => "140"
    | .glsl150 => "150"
    | .glsl330 => "330"
    | .glsl400 => "400"
    | .glsl410 => "410"
    | .glsl420 => "420"
    | .glsl440 => "440"
    | .glsl450 => "450"
  complete := by intro a; cases a <;> decide
  distinct := by decide

namespace Dialect

/-- The number after `#version`. -/
def version : Dialect → Nat
  | .glsl120 => 120
  | .glsl130 => 130
  | .glsl140 => 140
  | .glsl150 => 150
  | .glsl330 => 330
  | .glsl400 => 400
  | .glsl410 => 410
  | .glsl420 => 420
  | .glsl440 => 440
  | .glsl450 => 450

def ofVersion? (version : Nat) : Option Dialect :=
  (Vocabulary.all Dialect).find? (·.version == version)

/-- The storage words `in` and `out` take the place of `attribute` and `varying`. -/
def usesInOut (d : Dialect) : Bool :=
  130 ≤ d.version

/-- Vertex inputs and fragment outputs are given explicit locations. -/
def usesExplicitLocations (d : Dialect) : Bool :=
  330 ≤ d.version

/-- Values handed from stage to stage are given explicit locations. -/
def usesVaryingLocations (d : Dialect) : Bool :=
  410 ≤ d.version

/-- The variable that the fragment stage writes its color to. -/
def fragmentOutput (d : Dialect) : String :=
  if d.usesExplicitLocations then "FragColor" else "gl_FragColor"

end Dialect

/-- The stages of the pipeline that a program is written for. -/
inductive Stage
  | vertex | fragment
deriving DecidableEq

instance : Vocabulary Stage where
  catalog := "stage"
  symbols := [.vertex, .fragment]
  spelling
    | .vertex => "vertex"
    | .fragment => "fragment"
  complete := by intro a; cases a <;> decide
  distinct := by decide

/--
How the texture layers of a material are bound to samplers: one by one, or merged into array
samplers.
-/
inductive Packing
  | default | merged
deriving DecidableEq

instance : Vocabulary Packing where
  catalog := "packing mode"
  symbols := [.default, .merged]
  spelling
    | .default => "default"
    | .merged => "merged"
  complete := by intro a; cases a <;> decide
  distinct := by decide

/-- The render passes that a program is built for. -/
inductive Purpose
  | color | depth | shadow
deriving DecidableEq

instance : Vocabulary Purpose where
  catalog := "purpose"
  symbols := [.color, .depth, .shadow]
  spelling
    | .color => "color"
    | .depth => "depth"
    | .shadow => "shadow"
  complete := by intro a; cases a <;> decide
  distinct := by decide

end ShaderComposition
