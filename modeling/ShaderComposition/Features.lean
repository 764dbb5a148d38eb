import ShaderComposition.Vocabulary

/-!
# Features of a permutation

Features are kept as a word of bits. Some bits have names; bits without a name are carried along
untouched. The features from `viewDirection` on are derived from what the bound snippets read, the
others are asked for by the material and the target.
-/

namespace ShaderComposition

/-- The features that have a name. -/
inductive Feature
  | transparent | alphaTest | alphaWrite | fog | lighting | dynamicLightsCount
  | viewDirection | shadowUvDdxDdy | tbnMatrix | viewPosition | normal | tangent
deriving DecidableEq

instance : Vocabulary Feature where
  catalog := "feature"
  symbols := [
    .transparent, .alphaTest, .alphaWrite, .fog, .lighting, .dynamicLightsCount,
    .viewDirection, .shadowUvDdxDdy, .tbnMatrix, .viewPosition, .normal, .tangent]
  spelling
    | .transparent => "TRANSPARENT"
    | .alphaTest => "ALPHA_TEST"
    | .alphaWrite => "ALPHA_WRITE"
    | .fog => "FOG"
    | .lighting => "LIGHTING"
    | .dynamicLightsCount => "DYNAMIC_LIGHTS_COUNT"
    | .viewDirection => "VIEW_DIRECTION"
    | .shadowUvDdxDdy => "SHADOW_UV_DDX_DDY"
    | .tbnMatrix => "TBN_MATRIX"
    | .viewPosition => "VIEW_POSITION"
    | .normal => "NORMAL"
    | .tangent => "TANGENT"
  complete := by intro a; cases a <;> decide
  distinct := by decide

namespace Feature

/-- The bit that stands for the feature. -/
def bit : Feature → Nat
  | .transparent => 0
  | .alphaTest => 1
  | .alphaWrite => 2
  | .fog => 3
  | .lighting => 4
  | .dynamicLightsCount => 5
  | .viewDirection => 8
  | .shadowUvDdxDdy => 9
  | .tbnMatrix => 10
  | .viewPosition => 11
  | .normal => 12
  | .tangent => 13

theorem bit_lt (f : Feature) : f.bit < 32 := by
  cases f <;> decide

theorem bit_injective {f g : Feature} (h : f.bit = g.bit) : f = g := by
  have distinct : ((Vocabulary.all Feature).map bit).Nodup := by decide
  exact eq_of_nodup_map distinct (Vocabulary.complete f) (Vocabulary.complete g) h

end Feature

/-- A set of features, with bits that have no name besides. -/
@[ext]
structure Features where
  bits : BitVec 32
deriving DecidableEq

namespace Features

def none : Features :=
  ⟨0⟩

/-- The set of one feature. -/
def only (f : Feature) : Features :=
  ⟨BitVec.twoPow 32 f.bit⟩

def has (s : Features) (f : Feature) : Bool :=
  s.bits.getLsbD f.bit

def union (s t : Features) : Features :=
  ⟨s.bits ||| t.bits⟩

def inter (s t : Features) : Features :=
  ⟨s.bits &&& t.bits⟩

def without (s t : Features) : Features :=
  ⟨s.bits &&& ~~~t.bits⟩

/-- Every bit of the other set is in this one. -/
def includes (s t : Features) : Bool :=
  s.inter t = t

def ofList (features : List Feature) : Features :=
  features.foldl (fun s f => s.union (only f)) none

/-- Switches a feature on or off. -/
def set (s : Features) (f : Feature) (on : Bool) : Features :=
  if on then s.union (only f) else s.without (only f)

/-- The features that follow from what the bound snippets read. -/
def derived : Features :=
  ofList [.viewDirection, .shadowUvDdxDdy, .tbnMatrix, .viewPosition, .normal, .tangent]

def toList (s : Features) : List Feature :=
  (Vocabulary.all Feature).filter s.has

/-- The bits that have no name. -/
def unnamed (s : Features) : Features :=
  s.without (ofList (Vocabulary.all Feature))

/-- The names in the order of their bits, and the bits without a name as one number. -/
def text (s : Features) : String :=
  let rest := s.unnamed.bits.toNat
  let number := if rest = 0 then [] else ["0x" ++ String.ofList (Nat.toDigits 16 rest)]
  " | ".intercalate (s.toList.map Vocabulary.spelling ++ number)

@[simp] theorem has_none (f : Feature) : none.has f = false := by
  simp [has, none]

@[simp] theorem has_only (f g : Feature) : (only f).has g = decide (f = g) := by
  have same : g.bit = f.bit ↔ f = g :=
    ⟨fun h => (Feature.bit_injective h).symm, fun h => congrArg _ h.symm⟩
  simp [has, only, Feature.bit_lt, same]

@[simp] theorem has_union (s t : Features) (f : Feature) :
    (s.union t).has f = (s.has f || t.has f) := by
  simp [has, union]

@[simp] theorem has_without (s t : Features) (f : Feature) :
    (s.without t).has f = (s.has f && !t.has f) := by
  simp [has, without, Feature.bit_lt]

@[simp] theorem has_set (s : Features) (f g : Feature) (on : Bool) :
    (s.set f on).has g = if f = g then on else s.has g := by
  cases on <;> by_cases h : f = g <;> simp [set, h]

end Features

end ShaderComposition
