import ShaderComposition.Glsl.ArrayLengths

/-!
# Parameters

A parameter is a named, typed value that a snippet reads or produces. Two parameters can stand for
the same value when their shapes agree; the name of whoever declared a parameter is carried along
for comments and reports and decides nothing.
-/

namespace ShaderComposition

/-- How many array elements there are for each one that the size class counts, at least one. -/
structure Scale where
  toUInt16 : UInt16
  ne_zero : toUInt16 ≠ 0
deriving DecidableEq

namespace Scale

def one : Scale :=
  ⟨1, by decide⟩

/-- The scale that a count asks for, where zero asks for one. -/
def ofUInt16 (count : UInt16) : Scale :=
  if h : count = 0 then one else ⟨count, h⟩

def toNat (s : Scale) : Nat :=
  s.toUInt16.toNat

theorem toNat_pos (s : Scale) : 0 < s.toNat :=
  Nat.pos_of_ne_zero fun zero => s.ne_zero (UInt16.toNat_inj.1 zero)

theorem toNat_inj {s t : Scale} : s.toNat = t.toNat ↔ s = t := by
  cases s; cases t; simp [toNat, UInt16.toNat_inj]

end Scale

/-- What a value looks like in memory: its type and how many of it there are. -/
structure Shape where
  type : GlslType
  sizeClass : SizeClass := .one
  scale : Scale := .one
deriving DecidableEq

namespace Shape

/-- Two shapes count the same number of elements. -/
def sameSize (s t : Shape) : Bool :=
  s.sizeClass = t.sizeClass && s.scale = t.scale

/-- A shape is an array unless it is one single value, whatever its length turns out to be. -/
def isArray (s : Shape) : Bool :=
  s.sizeClass ≠ .one || 1 < s.scale.toNat

def elementCount (s : Shape) (lengths : ArrayLengths) : Nat :=
  lengths.length s.sizeClass * s.scale.toNat

/-- The size as reports write it: `[lights]`, `[lights * 2]`, `[2]`, or nothing for one value. -/
def sizeText (s : Shape) : String :=
  let scaled := 1 < s.scale.toNat
  let scale := toString s.scale.toNat
  match s.sizeClass with
  | .one => if scaled then "[" ++ scale ++ "]" else ""
  | c => "[" ++ Vocabulary.spelling c ++ (if scaled then " * " ++ scale else "") ++ "]"

theorem elementCount_pos (s : Shape) (lengths : ArrayLengths) : 0 < s.elementCount lengths :=
  Nat.mul_pos (lengths.length_pos _) s.scale.toNat_pos

end Shape

/-- A named, typed value, as `source` declares it. -/
structure Parameter where
  name : String
  shape : Shape
  qualifier : Qualifier := .input
  source : String := ""
deriving DecidableEq

namespace Parameter

def withQualifier (p : Parameter) (qualifier : Qualifier) : Parameter :=
  { p with qualifier }

def withSource (p : Parameter) (source : String) : Parameter :=
  { p with source }

def withType (p : Parameter) (type : GlslType) : Parameter :=
  { p with shape := { p.shape with type } }

def withSize (p : Parameter) (sizeClass : SizeClass) (scale : Scale) : Parameter :=
  { p with shape := { p.shape with sizeClass, scale } }

/-- The text `type name` or `type name[length]`. -/
def declaration (p : Parameter) (lengths : ArrayLengths) : String :=
  p.shape.type.spelling ++ " " ++ p.name ++
    if p.shape.isArray then "[" ++ toString (p.shape.elementCount lengths) ++ "]" else ""

/-- Qualifier, type and size, as reports write them. -/
def signature (p : Parameter) : String :=
  Vocabulary.spelling p.qualifier ++ " " ++ p.shape.type.spelling ++ p.shape.sizeText

end Parameter

end ShaderComposition
