import ShaderComposition.Proofs.Composition.Declarations

/-!
# Names that both stages share

Each stage checks its own declarations against each other, but the stages meet by name alone. So a
varying or a uniform of both stages means the same to both just where the declarations of the one
agree with those of the other (`linked_iff_agree`); nothing in a build sees to that.
-/

namespace ShaderComposition

open Vocabulary (spelling)

/-- Both stages mean the same by the names that they share. -/
structure Linked (fragment : Scope) (i : Interface) : Prop where
  /-- The fragment stage reads every varying, and in the shape in which it is handed over. -/
  varyings : ∀ v ∈ i.varyings, ∃ d, fragment.find? v.name = some d ∧ d.shape = v.shape ∧
    d.qualifier = .input
  /-- A uniform of both stages has one shape. -/
  uniforms : ∀ u ∈ i.vertexUniforms, ∀ w ∈ i.fragmentUniforms, u.name = w.name → u.shape = w.shape

/-- No declaration of the name is more than a reading. -/
def ReadOnly (ds : List Parameter) (n : String) : Prop :=
  ∀ d ∈ ds, d.name = n → d.qualifier = .input

/-- The declarations of the vertex stage agree with those of the fragment stage. -/
structure Agree (vertex fragment : List Parameter) : Prop where
  /-- What the vertex stage produces, the fragment stage reads in the same shape. -/
  produced : ∀ d ∈ vertex, d.qualifier ≠ .input → ∀ c ∈ fragment, c.name = d.name →
    c.shape = d.shape ∧ c.qualifier = .input
  /-- What both only read has one shape, unless it comes from a vertex attribute. -/
  read : ∀ d ∈ vertex, ∀ c ∈ fragment, c.name = d.name → ReadOnly vertex d.name →
    ReadOnly fragment d.name → (∀ a : VertexAttribute, spelling a ≠ d.name) → c.shape = d.shape

instance (ds : List Parameter) (n : String) : Decidable (ReadOnly ds n) :=
  inferInstanceAs (Decidable (∀ d ∈ ds, d.name = n → d.qualifier = .input))

theorem not_readOnly {ds : List Parameter} {n : String} :
    ¬ ReadOnly ds n ↔ ∃ d ∈ ds, d.name = n ∧ d.qualifier ≠ .input := by
  simp [ReadOnly]

namespace StageSource

variable {v f : StageSource} {stage : Stage} {ds vertex fragment : List Parameter} {n : String}

/-- A name that is only read is not produced. -/
theorem Holds.not_produces (h : v.Holds stage ds) (read : ReadOnly ds n) : ¬ v.scope.Produces n := by
  rw [h.produces_iff, ← not_readOnly]
  exact not_not_intro read

theorem Holds.readOnly (h : v.Holds stage ds) {e : Parameter} (he : e ∈ v.scope.globals)
    (input : e.qualifier = .input) : ReadOnly ds e.name := by
  intro d hd same
  exact (h.summary.covers_of_name h.distinct he hd same.symm).input input

theorem linked_iff_agree (hv : v.Holds .vertex vertex) (hf : f.Holds .fragment fragment) :
    Linked f.scope (.ofScopes v.scope f.scope) ↔ Agree vertex fragment := by
  have entry {c : Parameter} (hc : c ∈ f.scope.globals) : f.scope.find? c.name = some c := by
    rw [Scope.find?_eq_firstNamed, hf.noLocals, List.append_nil]
    exact (firstNamed_eq_some_iff hf.distinct).2 ⟨hc, rfl⟩
  constructor
  · intro linked
    constructor
    · intro d hd produced c hc same
      obtain ⟨x, hx, nameX, coversD⟩ := hv.entry hd
      obtain ⟨y, hy, nameY, coversC⟩ := hf.entry hc
      have shared : y.name = x.name := nameY.trans (same.trans nameX.symm)
      have varying : x ∈ (Interface.ofScopes v.scope f.scope).varyings :=
        Interface.mem_varyings.2 ⟨hx, coversD.not_input produced, y, hy, shared⟩
      obtain ⟨y', found, shape, input⟩ := linked.varyings x varying
      rw [← shared, entry hy, Option.some.injEq] at found
      subst found
      exact ⟨coversC.shape.symm.trans (shape.trans coversD.shape), coversC.input input⟩
    · intro d hd c hc same readV readF noAttribute
      obtain ⟨x, hx, nameX, coversD⟩ := hv.entry hd
      obtain ⟨y, hy, nameY, coversC⟩ := hf.entry hc
      have shared : x.name = y.name := nameX.trans (same.symm.trans nameY.symm)
      have uniformX : x ∈ (Interface.ofScopes v.scope f.scope).vertexUniforms :=
        Interface.mem_vertexUniforms.2
          ⟨hx, readV x (hv.mem hx) nameX, fun a => nameX ▸ noAttribute a⟩
      have uniformY : y ∈ (Interface.ofScopes v.scope f.scope).fragmentUniforms :=
        Interface.mem_fragmentUniforms.2
          ⟨hy, readF y (hf.mem hy) (nameY.trans same), shared ▸ nameX ▸ hv.not_produces readV⟩
      have shape := linked.uniforms x uniformX y uniformY shared
      exact coversC.shape.symm.trans (shape.symm.trans coversD.shape)
  · intro agree
    constructor
    · intro x hx
      obtain ⟨hx, produced, y, hy, same⟩ := Interface.mem_varyings.1 hx
      obtain ⟨shape, input⟩ := agree.produced x (hv.mem hx) produced y (hf.mem hy) same
      exact ⟨y, same ▸ entry hy, shape, input⟩
    · intro x hx y hy same
      obtain ⟨hx, inputX, noAttribute⟩ := Interface.mem_vertexUniforms.1 hx
      obtain ⟨hy, inputY, -⟩ := Interface.mem_fragmentUniforms.1 hy
      exact (agree.read x (hv.mem hx) y (hf.mem hy) same.symm (hv.readOnly hx inputX)
        (same ▸ hf.readOnly hy inputY) noAttribute).symm

end StageSource

namespace Library

variable {library : Library} {settings : Settings} {p : Permutation} {e : Emission}

/--
The stages of a program that was built mean the same by the names that they share just where their
declarations agree.
-/
theorem linked_iff_declarations_agree (built : library.build settings p = .ok e) :
    ∃ pair, library.stages settings p = .ok pair ∧
      e.interface = .ofScopes pair.vertex.scope pair.fragment.scope ∧
      (Linked pair.fragment.scope e.interface ↔
        Agree (library.declarations settings p .vertex) (library.declarations settings p .fragment)) := by
  obtain ⟨pair, composed, rfl⟩ := build_eq_ok_iff.1 built
  obtain ⟨vertex, fragment⟩ := stages_hold composed
  exact ⟨pair, composed, rfl, StageSource.linked_iff_agree vertex fragment⟩

/-- A uniform of the program's own. -/
def tint (type : DataType) : Parameter where
  name := "tint"
  shape := { type := .data type }

/-- Both stages read a tint, and texture coordinates are handed over. -/
def tinted (vertex fragment : DataType) : Library :=
  let coordinates := Catalog.parameter SharedValue.worldUv
  ⟨[(Snippet.plain .uv "default" "").declaring (tint vertex)
      |>.declaring (coordinates.withQualifier .output),
    (Snippet.plain .diffuseMapping "default" "").declaring (tint fragment)
      |>.declaring coordinates]⟩

/-- A tint of one type links. -/
theorem tinted_linked :
    ∃ e pair, (tinted .vec3 .vec3).build {} plainColor = .ok e ∧
      (tinted .vec3 .vec3).stages {} plainColor = .ok pair ∧
      Linked pair.fragment.scope e.interface := by
  obtain ⟨e, built⟩ : ∃ e, (tinted .vec3 .vec3).build {} plainColor = .ok e :=
    exists_of_isOk (by decide +kernel)
  obtain ⟨pair, composed, -, agreement⟩ := linked_iff_declarations_agree built
  refine ⟨e, pair, built, composed, agreement.2 ⟨by decide +kernel, ?_⟩⟩
  have shapes : ∀ d ∈ (tinted .vec3 .vec3).declarations {} plainColor .vertex,
      ∀ c ∈ (tinted .vec3 .vec3).declarations {} plainColor .fragment,
        c.name = d.name → c.shape = d.shape := by
    decide +kernel
  exact fun d hd c hc same _ _ _ => shapes d hd c hc same

/-- A tint of two types is accepted and does not link. -/
theorem tinted_not_linked :
    ∃ e pair, (tinted .float .vec3).build {} plainColor = .ok e ∧
      (tinted .float .vec3).stages {} plainColor = .ok pair ∧
      ¬ Linked pair.fragment.scope e.interface := by
  obtain ⟨e, built⟩ : ∃ e, (tinted .float .vec3).build {} plainColor = .ok e :=
    exists_of_isOk (by decide +kernel)
  obtain ⟨pair, composed, rfl⟩ := build_eq_ok_iff.1 built
  obtain ⟨vertex, fragment⟩ := stages_hold composed
  refine ⟨_, pair, built, composed, fun linked => ?_⟩
  have agree := (StageSource.linked_iff_agree vertex fragment).1 linked
  have shape := agree.read ((tint .float).withSource "uv: default") (by decide +kernel)
    ((tint .vec3).withSource "diffuse_mapping: default") (by decide +kernel) rfl
    (by decide +kernel) (by decide +kernel) (fun a => by cases a <;> decide)
  exact absurd shape (by decide)

end Library

end ShaderComposition
