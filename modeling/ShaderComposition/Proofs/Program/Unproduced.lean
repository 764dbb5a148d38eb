import ShaderComposition.Proofs.Composition.OwnParts
import ShaderComposition.Proofs.Program.Producers
import ShaderComposition.Proofs.Scope.Refusal

/-!
# Changes of what nothing produces

A build is refused where a snippet changes a value that nothing has produced. What counts is what the
change can see: the parameters that its snippet declares before it, and what the stage has declared so
far. A light snippet is put together with its block first, so it sees the block and not the stage; and
the stage does not see what stays inside the block. `Library.unproduced_of_refused` says for a refused
build that nothing in sight of the change is more than a reading.
-/

namespace ShaderComposition

theorem ReadOnly.append {ds es : List Parameter} {n : String} (left : ReadOnly ds n)
    (right : ReadOnly es n) : ReadOnly (ds ++ es) n := by
  intro d hd name
  rcases List.mem_append.1 hd with first | second
  · exact left d first name
  · exact right d second name

/-- What a part declares itself before its snippet does. -/
def Part.ahead : Part → List Parameter
  | .snippet _ | .code _ _ => []
  | .lights block => block.scratch ++ block.inputs

/-- A part that stands behind others changes a value, and nothing in sight has produced it. -/
structure Unproduced (before : List Part) (part : Part) (source n : String) : Prop where
  /-- The snippet of the part changes the value; before that, the part at most reads it. -/
  change : ∃ snippet earlier d later, part.snippet? = some snippet ∧
    snippet.parameters = earlier ++ d :: later ∧
    d.name = n ∧ d.source = source ∧ d.qualifier = .inout ∧ ReadOnly (part.ahead ++ earlier) n
  /-- What was declared for the stage so far is in sight of all but the light snippet. -/
  before : (∀ b, part ≠ .lights b) → ReadOnly (Plan.declarations before) n

/-- A member that is not in front is in the part behind. -/
theorem exists_append_of_notMem {α : Type} {xs ys before after : List α} {d : α}
    (split : xs ++ ys = before ++ d :: after) (behind : d ∉ xs) :
    ∃ earlier, before = xs ++ earlier ∧ ys = earlier ++ d :: after := by
  rcases List.append_eq_append_iff.1 split with ⟨earlier, rfl, rest⟩ | ⟨front, rfl, rest⟩
  · exact ⟨earlier, rfl, rest⟩
  · cases front with
    | nil => exact ⟨[], by simp, rest.symm⟩
    | cons c front =>
      cases rest
      simp at behind

namespace LightBlock

variable {b : LightBlock} {stage : Stage} {source n : String}

/-- A block is refused for a change by its light snippet, of something that the block only reads. -/
theorem scope_unsatisfiable (settled : ∀ d ∈ (Part.lights b).own, d.qualifier ≠ .inout)
    (h : b.scope = .error (.unsatisfiableInOut stage source n)) :
    b.stage = stage ∧ ∃ earlier d later, b.light.parameters = earlier ++ d :: later ∧
      d.name = n ∧ d.source = source ∧ d.qualifier = .inout ∧
      ReadOnly (b.scratch ++ b.inputs ++ earlier) n := by
  unfold scope at h
  rcases bind_eq_error_iff.1 h with refused | ⟨own, scratch, h⟩
  · obtain ⟨d, hd, t, refused⟩ := Scope.extendLocals_eq_error refused
    obtain ⟨-, changed, -⟩ := Scope.needsEntry_unsatisfiable_iff.1 refused
    exact absurd changed (settled d (List.mem_append_left _ (List.mem_append_left _ hd)))
  rcases bind_eq_error_iff.1 h with refused | ⟨lit, inner, refused⟩
  · have run := (Scope.Run.refl { stage := b.stage }).extendLocals scratch
    obtain ⟨same, before, d, after, split, name, declared, changed, readings, entries⟩ :=
      Scope.extend_unsatisfiable refused
    have scratchRead : ReadOnly b.scratch n := by
      intro c hc named
      obtain ⟨e, found, covers⟩ := Scope.extendLocals_covers scratch hc
      exact covers.input (entries e (named ▸ found))
    have behind : d ∉ b.inputs := fun hd =>
      settled d (List.mem_append_left _ (List.mem_append_right _ hd)) changed
    obtain ⟨earlier, rfl, light⟩ := exists_append_of_notMem split behind
    refine ⟨run.stage_eq.symm.trans same, earlier, d, after, light, name, declared, changed, ?_⟩
    rw [List.append_assoc]
    exact scratchRead.append readings
  · obtain ⟨-, before, d, after, split, -, -, changed, -⟩ := Scope.extend_unsatisfiable refused
    have output : d ∈ b.outputs := split ▸ List.mem_append_right _ List.mem_cons_self
    exact absurd changed (settled d (List.mem_append_right _ output))

end LightBlock

namespace StageSource

variable {s t : StageSource} {lengths : ArrayLengths} {stage : Stage} {part : Part}
  {parts before : List Part} {ds : List Parameter} {refusal : BuildError} {source n : String}

/-- Parts are refused at the first of them that is refused. -/
theorem addAll_eq_error_iff :
    s.addAll lengths parts = .error refusal ↔
      ∃ before part after t, parts = before ++ part :: after ∧
        s.addAll lengths before = .ok t ∧ t.add lengths part = .error refusal := by
  induction parts generalizing s with
  | nil => simp [addAll]
  | cons first parts ih =>
    have step : s.addAll lengths (first :: parts) =
        (s.add lengths first >>= fun u => u.addAll lengths parts) := rfl
    simp only [step, bind_eq_error_iff, ih]
    constructor
    · rintro (here | ⟨u, added, before, part, after, t, rfl, rest, refused⟩)
      · exact ⟨[], first, parts, s, rfl, rfl, here⟩
      · exact ⟨first :: before, part, after, t, rfl, addAll_cons_eq_ok_iff.2 ⟨u, added, rest⟩, refused⟩
    · rintro ⟨before, part, after, t, split, rest, refused⟩
      cases before with
      | nil =>
        cases split
        cases rest
        exact .inl refused
      | cons b before =>
        cases split
        obtain ⟨u, added, rest⟩ := addAll_cons_eq_ok_iff.1 rest
        exact .inr ⟨u, added, before, part, after, t, rfl, rest, refused⟩

/-- A part is refused inside its light block, or by the scope of the stage. -/
theorem add_eq_error_iff :
    s.add lengths part = .error refusal ↔
      (∃ b, part = .lights b ∧ b.scope = .error refusal) ∨
        ∃ xs text, part.yields lengths = .ok (xs, text) ∧ s.scope.extend xs = .error refusal := by
  have inner : part.yields lengths = .error refusal ↔
      ∃ b, part = .lights b ∧ b.scope = .error refusal := by
    cases part with
    | snippet s => simp [Part.yields]
    | code parameters statements => simp [Part.yields]
    | lights b => cases inside : b.scope <;> simp [Part.yields, inside, Except.map]
  have outer (xs : List Parameter) (text : String) :
      (s.scope.extend xs >>= fun scope => pure (f := Except BuildError)
        (⟨scope, s.main ++ text⟩ : StageSource)) = .error refusal ↔
        s.scope.extend xs = .error refusal := by
    rw [bind_eq_error_iff]
    refine or_iff_left ?_
    rintro ⟨scope, -, impossible⟩
    cases impossible
  rw [add_eq, bind_eq_error_iff, inner, Prod.exists]
  simp only [outer]

/-- Where a part is refused for a change, nothing in sight of the change has produced the value. -/
theorem Holds.unproduced_of_add {p : Permutation} {scale : Float32} {select : Selection}
    {reported : Stage} (h : s.Holds stage (Plan.declarations before))
    (listed : Plan.Listed p scale select stage part)
    (refused : s.add lengths part = .error (.unsatisfiableInOut reported source n)) :
    reported = stage ∧ Unproduced before part source n := by
  rcases add_eq_error_iff.1 refused with ⟨b, rfl, inside⟩ | ⟨xs, text, yields, outside⟩
  · obtain ⟨same, earlier, d, later, split, name, declared, changed, readings⟩ :=
      LightBlock.scope_unsatisfiable (fun d hd => listed.settled hd) inside
    obtain ⟨-, light, -, rfl⟩ := listed.lights_eq
    refine ⟨same.symm, ⟨light, earlier, d, later, rfl, split, name, declared, changed, readings⟩, ?_⟩
    exact fun other => absurd rfl (other _)
  · obtain ⟨same, earlier, d, later, split, name, declared, changed, readings, entries⟩ :=
      Scope.extend_unsatisfiable outside
    have asked : d ∈ xs := split ▸ List.mem_append_right _ List.mem_cons_self
    refine ⟨same.symm.trans h.run.stage_eq, ?_⟩
    cases part with
    | snippet snippet =>
      cases yields
      refine ⟨⟨snippet, earlier, d, later, rfl, split, name, declared, changed, readings⟩, ?_⟩
      intro _ c hc named
      obtain ⟨e, he, shared, covers⟩ := h.entry hc
      have found : s.scope.find? e.name = some e := h.coherent.find?_eq (List.mem_append_left _ he)
      rw [shared, named] at found
      exact covers.input (entries e found)
    | code parameters statements =>
      cases yields
      exact absurd changed (listed.settled asked)
    | lights b =>
      -- what a block hands on has been accepted inside, where changes need a producer too
      obtain ⟨inner, inside, rfl, -⟩ := Part.yields_lights_iff.1 yields
      have settled := (LightBlock.scope_coherent inside).settled d (List.mem_append_left _ asked)
      exact absurd changed settled

/-- Where a stage is refused for a change, a part of it is, and the parts before it are not. -/
theorem unproduced_of_plan {p : Permutation} {scale : Float32} {select : Selection}
    {reported : Stage} (refused : ofParts lengths stage (Plan.stage p scale select stage) =
      .error (.unsatisfiableInOut reported source n)) :
    reported = stage ∧ ∃ before part after,
      Plan.stage p scale select stage = before ++ part :: after ∧ Unproduced before part source n := by
  obtain ⟨before, part, after, s, split, made, refused⟩ := addAll_eq_error_iff.1 refused
  have member {q : Part} (hq : q ∈ before ++ part :: after) : q ∈ Plan.stage p scale select stage :=
    split ▸ hq
  have holds : s.Holds stage (Plan.declarations before) := by
    have apart (b : LightBlock) (hb : Part.lights b ∈ before) :=
      (Plan.listed (member (List.mem_append_left _ hb))).outputs_apart
    simpa using (Holds.start stage "").addAll apart made
  have listed : Plan.Listed p scale select stage part :=
    Plan.listed (member (List.mem_append_right _ List.mem_cons_self))
  obtain ⟨same, unproduced⟩ := holds.unproduced_of_add listed refused
  exact ⟨same, before, part, after, split, unproduced⟩

end StageSource

namespace Library

variable {library : Library} {settings : Settings} {p : Permutation} {refusal : BuildError}
  {stage : Stage} {source n : String}

/-- A build is refused where one of the stages is. -/
theorem ofParts_eq_error_of_build (refused : library.build settings p = .error refusal) :
    ∃ stage, StageSource.ofParts (library.derived p).arrayLengths stage
      (library.parts settings p stage) = .error refusal := by
  have composed : library.stages settings p = .error refusal := by
    rcases bind_eq_error_iff.1 refused with composed | ⟨pair, -, impossible⟩
    · exact composed
    · cases impossible
  rcases bind_eq_error_iff.1 composed with vertex | ⟨vertex, -, composed⟩
  · exact ⟨.vertex, vertex⟩
  rcases bind_eq_error_iff.1 composed with fragment | ⟨fragment, -, impossible⟩
  · exact ⟨.fragment, fragment⟩
  · cases impossible

/--
A build that is refused for the change of a value comes from a snippet that changes it, where no
declaration that the change can see is more than a reading: none of the snippet's own before it, none
that a light block makes ahead of its light snippet, and, unless it is the light snippet, none that
the stage has made so far. What stays inside a light block the stage has not declared.
-/
theorem unproduced_of_refused
    (refused : library.build settings p = .error (.unsatisfiableInOut stage source n)) :
    ∃ before part after, library.parts settings p stage = before ++ part :: after ∧
      Unproduced before part source n := by
  obtain ⟨stage', refused⟩ := ofParts_eq_error_of_build refused
  obtain ⟨rfl, found⟩ := StageSource.unproduced_of_plan refused
  exact found

/-- A computation is refused for this reason. -/
def refusedFor (x : Except BuildError Emission) (refusal : BuildError) : Bool :=
  match x with
  | .ok _ => false
  | .error e => e = refusal

theorem eq_error_of_refusedFor {x : Except BuildError Emission} (h : refusedFor x refusal = true) :
    x = .error refusal := by
  cases x with
  | ok e => cases h
  | error e => exact congrArg _ (of_decide_eq_true h)

/-- A surface whose map changes the albedo, and nothing else. -/
def tintedAlbedo : Library :=
  ⟨[exchange .diffuseMapping "default" [] [] [.albedo]]⟩

/-- The albedo is changed, and nothing before the change is in sight. -/
theorem tintedAlbedo_unproduced :
    tintedAlbedo.build {} plainColor =
        .error (.unsatisfiableInOut .fragment "diffuse_mapping: default" "albedo") ∧
      ∃ before part after, tintedAlbedo.parts {} plainColor .fragment = before ++ part :: after ∧
        Unproduced before part "diffuse_mapping: default" "albedo" := by
  have refused : tintedAlbedo.build {} plainColor =
      .error (.unsatisfiableInOut .fragment "diffuse_mapping: default" "albedo") :=
    eq_error_of_refusedFor (by decide +kernel)
  exact ⟨refused, unproduced_of_refused refused⟩

/-- A snippet of the vertex stage changes the diffuse result of the vertex stage's light. -/
def glow : Library := ⟨[
  exchange .light "phong" [] [.diffuseColor] [],
  exchange .uv "default" [] [] [.diffuseColor]]⟩

/-- Settings that leave one light to the vertex stage. -/
def oneVertexLight : Settings :=
  { vertexLights := 1, fragmentLights := 0 }

/-- The color pass of a surface that one light falls on in the vertex stage. -/
def glowColor : Permutation :=
  .resolve oneVertexLight { lighting := some "phong" }
    { dialect := .glsl330, purpose := .color, lights := 1 }

/-- The stage does not see a result that stays inside the light block, though it is written before. -/
theorem glow_refused_behind_block :
    glow.build oneVertexLight glowColor =
        .error (.unsatisfiableInOut .vertex "uv: default" "diffuse_color") ∧
      ∃ light map, Plan.snippets (glow.parts oneVertexLight glowColor .vertex) = [light, map] ∧
        ∃ d ∈ light.parameters, d.name = "diffuse_color" ∧ d.qualifier = .output ∧
          ∃ c ∈ map.parameters, c.name = "diffuse_color" ∧ c.qualifier = .inout ∧
            c.source = "uv: default" ∧ c.shape = d.shape := by
  have written : Plan.snippets (glow.parts oneVertexLight glowColor .vertex) = glow.snippets := by
    decide +kernel
  refine ⟨eq_error_of_refusedFor (by decide +kernel), _, _, written, ?_⟩
  decide +kernel

end Library

end ShaderComposition
