import ShaderComposition.Proofs.Composition.Declarations
import ShaderComposition.Proofs.Composition.Derivation
import ShaderComposition.Proofs.Interface.Accounting

/-!
# The texture units of a program

A program comes with a value for each of its samplers that a texture slot is named after: the unit of
the slot, with the kind that the sampler is declared with. The values are taken from the uniforms of both
stages, the fragment stage last. Within a stage the names of uniforms are distinct, so one uniform at most
speaks for a slot there (`findSome?_valueFor`) and only the order of the stages is left to decide the kind
(`mem_valuesOf`). Other parameters never speak for a slot, and of these only a temporary of the fragment
stage can share the name of one that does (`Interface.shares_uniform_name`).
-/

namespace ShaderComposition

open Vocabulary (spelling)

/-- A sampler of the name and the kind is among the parameters. -/
def Samples (declared : List Parameter) (name : String) (kind : SamplerKind) : Prop :=
  ∃ d ∈ declared, d.name = name ∧ d.shape.type = .sampler kind

/--
The kind of the texture that a name is bound to: the fragment stage's, and the vertex stage's where the
fragment stage has no sampler uniform of the name.
-/
def Interface.BindsAs (i : Interface) (name : String) (kind : SamplerKind) : Prop :=
  Samples i.fragmentUniforms name kind ∨
    (¬ ∃ other, Samples i.fragmentUniforms name other) ∧ Samples i.vertexUniforms name kind

variable {slot other : TextureSlot} {value : Value} {name : String} {kind : SamplerKind}

theorem samples_append {ds es : List Parameter} :
    Samples (ds ++ es) name kind ↔ Samples ds name kind ∨ Samples es name kind := by
  simp only [Samples, List.mem_append, or_and_right, exists_or]

/-- A name is bound where a uniform of either stage samples it. -/
theorem Interface.exists_bindsAs_iff {i : Interface} :
    (∃ kind, i.BindsAs name kind) ↔ ∃ kind, Samples i.uniforms name kind := by
  simp only [uniforms, samples_append, exists_or]
  constructor
  · rintro ⟨kind, fragment | ⟨-, vertex⟩⟩
    · exact .inr ⟨kind, fragment⟩
    · exact .inl ⟨kind, vertex⟩
  · intro sampled
    by_cases fragment : ∃ kind, Samples i.fragmentUniforms name kind
    · obtain ⟨kind, fragment⟩ := fragment
      exact ⟨kind, .inl fragment⟩
    · obtain ⟨kind, vertex⟩ := sampled.resolve_right fragment
      exact ⟨kind, .inr ⟨fragment, vertex⟩⟩

/-! ## Units -/

namespace TextureSlot

theorem unit_lt (slot : TextureSlot) : slot.unit < 16 :=
  Vocabulary.position_lt slot

/-- The units are small enough for the values that hold them. -/
theorem toInt_unit (slot : TextureSlot) : (Int32.ofNat slot.unit).toInt = slot.unit :=
  Int32.toInt_ofNat_of_lt (Nat.lt_trans slot.unit_lt (by decide))

theorem unit_injective (same : Int32.ofNat slot.unit = Int32.ofNat other.unit) : slot = other := by
  have units : (slot.unit : Int) = other.unit := by
    rw [← toInt_unit, ← toInt_unit, same]
  exact Vocabulary.position_injective (Int.ofNat_inj.1 units)

/-- No slot has the name of an attribute. -/
theorem spelling_ne_attribute (slot : TextureSlot) (a : VertexAttribute) : spelling a ≠ spelling slot := by
  intro same
  have found := Vocabulary.symbol?_eq_some_iff.2 same
  have unknown : (Vocabulary.symbol? (spelling slot) : Option VertexAttribute) = none := by
    cases slot <;> decide
  simp [unknown] at found

end TextureSlot

/-! ## The values of an interface -/

namespace Emission

variable {ds : List Parameter} {d : Parameter} {i : Interface}

theorem valueFor_eq_some_iff :
    valueFor slot d = some value ↔ ∃ kind, (d.name = spelling slot ∧ d.shape.type = .sampler kind) ∧
      value = .sampler kind (.ofNat slot.unit) := by
  cases type : d.shape.type with
  | data type => simp [valueFor, type, TextureSlot.defaultValue]
  | sampler kind =>
    have set : valueFor slot d = some value ↔
        d.name = spelling slot ∧ value = .sampler kind (.ofNat slot.unit) := by
      simp [valueFor, type, TextureSlot.defaultValue, eq_comm]
    rw [set]
    constructor
    · rintro ⟨name, same⟩
      exact ⟨kind, ⟨name, rfl⟩, same⟩
    · rintro ⟨_, ⟨name, declared⟩, same⟩
      cases declared
      exact ⟨name, same⟩

/-- No uniform speaks for a slot whose name is not sampled. -/
theorem findSome?_valueFor_eq_none_iff : ds.reverse.findSome? (valueFor slot) = none ↔
    ¬ ∃ kind, Samples ds (spelling slot) kind := by
  simp only [List.findSome?_eq_none_iff, List.mem_reverse]
  constructor
  · rintro silent ⟨kind, d, hd, sampler⟩
    have set := valueFor_eq_some_iff.2 ⟨kind, sampler, rfl⟩
    rw [silent d hd] at set
    cases set
  · intro unsampled d hd
    cases set : valueFor slot d with
    | none => rfl
    | some value =>
      obtain ⟨kind, sampler, -⟩ := valueFor_eq_some_iff.1 set
      exact absurd ⟨kind, d, hd, sampler⟩ unsampled

/-- With distinct names one uniform at most speaks for a slot, whatever the order. -/
theorem findSome?_valueFor (distinct : DistinctNames ds) :
    ds.reverse.findSome? (valueFor slot) = some value ↔
      ∃ kind, Samples ds (spelling slot) kind ∧ value = .sampler kind (.ofNat slot.unit) := by
  constructor
  · intro found
    obtain ⟨d, hd, set⟩ := List.exists_of_findSome?_eq_some found
    obtain ⟨kind, ⟨name, type⟩, rfl⟩ := valueFor_eq_some_iff.1 set
    exact ⟨kind, ⟨d, List.mem_reverse.1 hd, name, type⟩, rfl⟩
  · rintro ⟨kind, ⟨d, hd, name, type⟩, same⟩
    have set : valueFor slot d = some value := valueFor_eq_some_iff.2 ⟨kind, ⟨name, type⟩, same⟩
    have answered : (ds.reverse.findSome? (valueFor slot)).isSome :=
      List.findSome?_isSome_iff.2 ⟨d, List.mem_reverse.2 hd, by simp [set]⟩
    obtain ⟨first, found⟩ := Option.isSome_iff_exists.1 answered
    obtain ⟨e, he, chosen⟩ := List.exists_of_findSome?_eq_some found
    obtain ⟨-, ⟨name', -⟩, -⟩ := valueFor_eq_some_iff.1 chosen
    have : e = d := distinct.eq_of_name (List.mem_reverse.1 he) hd (name'.trans name.symm)
    rw [found, ← chosen, this, set]

/-- A slot is set to its unit, and to the kind that its name is bound to. -/
theorem mem_valuesOf (vertex : DistinctNames i.vertexUniforms)
    (fragment : DistinctNames i.fragmentUniforms) :
    (slot, value) ∈ valuesOf i ↔
      ∃ kind, i.BindsAs (spelling slot) kind ∧ value = .sampler kind (.ofNat slot.unit) := by
  have member : (slot, value) ∈ valuesOf i ↔
      i.uniforms.reverse.findSome? (valueFor slot) = some value := by
    simp [valuesOf, Vocabulary.complete, -List.map_findSome?]
  rw [member, Interface.uniforms, List.reverse_append, List.findSome?_append, Option.or_eq_some_iff,
    findSome?_valueFor_eq_none_iff, findSome?_valueFor fragment, findSome?_valueFor vertex]
  simp only [Interface.BindsAs, or_and_right, exists_or, and_assoc, exists_and_left]

/-- The values are listed slot by slot, and no two slots have one name. -/
theorem valuesOf_once (i : Interface) : ((valuesOf i).map (spelling ·.1)).Nodup := by
  rw [List.Nodup, List.pairwise_map, valuesOf, List.pairwise_filterMap]
  refine Vocabulary.nodup_all.imp ?_
  rintro slot other differ _ first _ second same
  obtain ⟨value, -, rfl⟩ := Option.map_eq_some_iff.1 first
  obtain ⟨value', -, rfl⟩ := Option.map_eq_some_iff.1 second
  exact differ (Vocabulary.spelling_injective same)

/-- The name is set to the value before anything is drawn. -/
def Sets (e : Emission) (name : String) (value : Value) : Prop :=
  ∃ slot, spelling slot = name ∧ (slot, value) ∈ e.defaultValues

/-- What a program sets its samplers to. -/
structure SetsSamplers (e : Emission) : Prop where
  /-- No name is set twice. -/
  once : (e.defaultValues.map (spelling ·.1)).Nodup
  /-- The names are those of slots that a uniform of either stage samples. -/
  names : ∀ name, (∃ value, e.Sets name value) ↔
    (∃ slot : TextureSlot, spelling slot = name) ∧ ∃ kind, Samples e.interface.uniforms name kind
  /-- The value is the unit of the slot, and the kind that the name is bound to. -/
  values : ∀ name value, e.Sets name value ↔ ∃ slot : TextureSlot, spelling slot = name ∧
    ∃ kind, e.interface.BindsAs name kind ∧ value = .sampler kind (.ofNat slot.unit)
  /-- No unit is shared. -/
  units : ∀ name other kind kind' unit, e.Sets name (.sampler kind unit) →
    e.Sets other (.sampler kind' unit) → name = other
  /--
  Nothing but a uniform has a name that is set, a temporary of the fragment stage apart whose name is that
  of a sampler of the vertex stage.
  -/
  others : ∀ stage k, k ≠ .uniforms → ∀ d ∈ e.interface.listing stage k, ∀ value, e.Sets d.name value →
    stage = .fragment ∧ k = .temporaries ∧ ∃ kind, Samples e.interface.vertexUniforms d.name kind

section OfInterface

variable (p : Permutation) (vertexMain fragmentMain : String) (vertex : DistinctNames i.vertexUniforms)
  (fragment : DistinctNames i.fragmentUniforms)
include vertex fragment

theorem sets_iff :
    (ofInterface p i vertexMain fragmentMain).Sets name value ↔ ∃ slot : TextureSlot,
      spelling slot = name ∧ ∃ kind, i.BindsAs name kind ∧ value = .sampler kind (.ofNat slot.unit) := by
  constructor
  · rintro ⟨slot, rfl, member⟩
    exact ⟨slot, rfl, (mem_valuesOf vertex fragment).1 member⟩
  · rintro ⟨slot, rfl, bound⟩
    exact ⟨slot, rfl, (mem_valuesOf vertex fragment).2 bound⟩

theorem exists_sets_iff :
    (∃ value, (ofInterface p i vertexMain fragmentMain).Sets name value) ↔
      (∃ slot : TextureSlot, spelling slot = name) ∧ ∃ kind, Samples i.uniforms name kind := by
  rw [← Interface.exists_bindsAs_iff]
  constructor
  · rintro ⟨value, set⟩
    obtain ⟨slot, named, kind, bound, -⟩ := (sets_iff p vertexMain fragmentMain vertex fragment).1 set
    exact ⟨⟨slot, named⟩, kind, bound⟩
  · rintro ⟨⟨slot, named⟩, kind, bound⟩
    exact ⟨_, (sets_iff p vertexMain fragmentMain vertex fragment).2 ⟨slot, named, kind, bound, rfl⟩⟩

/-- Slots are told apart by their units, so names are. -/
theorem name_of_unit {kind' : SamplerKind} {name' : String} {unit : Int32}
    (first : (ofInterface p i vertexMain fragmentMain).Sets name (.sampler kind unit))
    (second : (ofInterface p i vertexMain fragmentMain).Sets name' (.sampler kind' unit)) :
    name = name' := by
  obtain ⟨slot, rfl, _, -, own⟩ := (sets_iff p vertexMain fragmentMain vertex fragment).1 first
  obtain ⟨slot', rfl, _, -, own'⟩ := (sets_iff p vertexMain fragmentMain vertex fragment).1 second
  cases own
  rw [TextureSlot.unit_injective (Value.sampler.inj own').2]

end OfInterface

end Emission

namespace Library

variable {library : Library} {settings : Settings} {p : Permutation} {e : Emission}

/--
A program sets the sampler uniforms that are named after texture slots, each to the unit of its slot, and
nothing else: each name once, no unit twice, and with the kind of the fragment stage's uniform where both
stages sample the name. No attribute, no varying and no temporary of the vertex stage has a name that is
set; a temporary of the fragment stage has one only where the vertex stage samples the name.
-/
theorem samplers_set_to_units (built : library.build settings p = .ok e) : e.SetsSamplers := by
  obtain ⟨pair, composed, rfl⟩ := build_eq_ok_iff.1 built
  obtain ⟨vertex, fragment⟩ := stages_hold composed
  let i := Interface.ofScopes pair.vertex.scope pair.fragment.scope
  have vertexNames : DistinctNames i.vertexUniforms :=
    vertex.distinct.sublist (Interface.listing_vertex_sublist (k := .uniforms) (by decide))
  have fragmentNames : DistinctNames i.fragmentUniforms :=
    (Interface.declared_distinct vertex.coherent fragment.coherent .fragment).left.left
  refine ⟨Emission.valuesOf_once i, ?names, ?values, ?units, ?others⟩
  case names => exact fun _ => Emission.exists_sets_iff _ _ _ vertexNames fragmentNames
  case values => exact fun _ _ => Emission.sets_iff _ _ _ vertexNames fragmentNames
  case units =>
    intro name other kind kind' unit
    exact Emission.name_of_unit _ _ _ vertexNames fragmentNames
  case others =>
    intro stage k other d hd value set
    obtain ⟨⟨slot, named⟩, kind, u, hu, same, type⟩ :=
      (Emission.exists_sets_iff _ _ _ vertexNames fragmentNames).1 ⟨value, set⟩
    rcases Interface.shares_uniform_name vertex.coherent fragment.coherent vertex.noLocals other hd hu
      same with ⟨rfl, rfl, -⟩ | ⟨fragmentStage, temporary, hu⟩
    · obtain ⟨-, -, a, supplied⟩ := Interface.mem_attributeParameters.1 hd
      exact absurd (supplied.trans named.symm) (slot.spelling_ne_attribute a)
    · exact ⟨fragmentStage, temporary, kind, u, hu, same, type⟩

/-- A sampler that is declared under the name of a slot. -/
def samplerFor (slot : TextureSlot) (kind : SamplerKind) : Parameter where
  name := spelling slot
  shape := { type := .sampler kind }

/--
Both stages sample the albedo, the fragment stage as an array, and the vertex stage samples a shadow map
by a name that the fragment stage has a value of its own under.
-/
def sampled : Library :=
  let shadow : Parameter :=
    { name := "shadow_sampler", shape := { type := .data .vec4 }, qualifier := .output }
  ⟨[(Snippet.plain .uv "default" "").declaring (samplerFor .albedoSampler0 .sampler2D)
      |>.declaring (samplerFor .shadowSampler .sampler2DShadow),
    (Snippet.plain .diffuseMapping "default" "").declaring (samplerFor .albedoSampler0 .sampler2DArray)
      |>.declaring shadow]⟩

/-- The array counts, and a value of the fragment stage does not keep the shadow map from its unit. -/
theorem sampled_sets :
    ∃ e, sampled.build {} plainColor = .ok e ∧ e.SetsSamplers ∧
      e.defaultValues = [(.albedoSampler0, .sampler .sampler2DArray 0),
        (.shadowSampler, .sampler .sampler2DShadow 15)] ∧
      e.interface.fragmentTemporaries.map (·.name) = ["shadow_sampler", "fragment_color"] := by
  obtain ⟨e, built, check⟩ : ∃ e, sampled.build {} plainColor = .ok e ∧
      decide (e.defaultValues = [(.albedoSampler0, .sampler .sampler2DArray 0),
          (.shadowSampler, .sampler .sampler2DShadow 15)] ∧
        e.interface.fragmentTemporaries.map (·.name) = ["shadow_sampler", "fragment_color"]) = true :=
    exists_of_any (by decide +kernel)
  obtain ⟨set, own⟩ := of_decide_eq_true check
  exact ⟨e, built, samplers_set_to_units built, set, own⟩

end Library

end ShaderComposition
