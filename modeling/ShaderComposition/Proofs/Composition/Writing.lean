import ShaderComposition.Proofs.Composition.LightCounts
import ShaderComposition.Proofs.Composition.Pieces

/-!
# What a stage writes

The text of a stage ends with its main function, which is made of pieces. The snippets whose blocks are
among them are read off the parts of the stage (`Plan.snippets_of_pieces`). The parts of both stages are
laid out by their own control flow, and yet they write what the schedule lists, in its order
(`Plan.snippets_stages`).
-/

namespace ShaderComposition

/-! ## Plans -/

namespace Plan

variable {p : Permutation} {scale : Float32} {select : Selection} {role : Role} {stage : Stage}
  {needed shadowed : Bool} {parts : List Part}

/-- The snippets that parts write, in order. -/
def snippets (parts : List Part) : List Snippet :=
  parts.filterMap Part.snippet?

theorem snippets_of_pieces (lengths : ArrayLengths) (parts : List Part) :
    (parts.flatMap (Part.pieces lengths)).filterMap Piece.snippet? = snippets parts := by
  induction parts with
  | nil => rfl
  | cons part parts ih =>
    rw [List.flatMap_cons, List.filterMap_append, ih, Part.snippet?_of_pieces, snippets, snippets]
    cases written : part.snippet? <;> simp [written]

@[simp] theorem snippets_nil : snippets [] = [] := rfl

@[simp] theorem snippets_append (first second : List Part) :
    snippets (first ++ second) = snippets first ++ snippets second :=
  List.filterMap_append

@[simp] theorem snippets_job : snippets (job select role stage) = (select role stage).toList := by
  unfold job
  cases select role stage <;> rfl

@[simp] theorem snippets_when :
    snippets (when needed parts) = if needed then snippets parts else [] := by
  cases needed <;> rfl

theorem snippets_own {part : Part} (own : part ∈ ownCode p) : snippets [part] = [] := by
  obtain ⟨parameters, statements, rfl⟩ := exists_code_of_own own
  rfl

@[simp] theorem snippets_projection : snippets [projection] = [] := rfl

@[simp] theorem snippets_ambient : snippets [ambient p stage] = [] :=
  snippets_own ambient_mem_ownCode

@[simp] theorem snippets_colorOutput : snippets [colorOutput p] = [] :=
  snippets_own (p := p) (by simp [ownCode])

@[simp] theorem snippets_alphaOutput : snippets [alphaOutput p] = [] :=
  snippets_own (p := p) (by simp [ownCode])

/-- Lighting writes the light snippet, whether or not it is shadowed. -/
@[simp] theorem snippets_lighting :
    snippets (lighting p scale select stage shadowed) = (select .light stage).toList := by
  unfold lighting
  split
  next light found => rw [found]; rfl
  next none => rw [none, snippets_ambient]; rfl

/-- Without lights in the fragment stage there are no shadows either. -/
theorem no_shadows_of_dark (dark : p.fragmentLighting = false) : p.receivesShadows = false := by
  rw [Bool.eq_false_iff] at dark ⊢
  exact fun shadowed => dark (Permutation.receivesShadows_iff.1 shadowed).2

theorem snippets_colorLighting : snippets (colorLighting p scale select) =
    (if p.receivesShadows then (select .shadowMapping .fragment).toList else []) ++
      if p.fragmentLighting then (select .light .fragment).toList else [] := by
  unfold colorLighting
  cases lit : p.fragmentLighting with
  | true =>
    simp only [if_true, snippets_append, snippets_lighting]
    congr 1
    cases p.receivesShadows <;> simp
  | false =>
    simp only [no_shadows_of_dark lit, Bool.false_eq_true, if_false, List.append_nil]
    split
    · exact snippets_ambient
    · rfl

/-- The end of the fragment stage writes what is scheduled last. -/
theorem snippets_surface : snippets (surface p scale select) =
    (if p.purpose = .color then (select .specularMapping .fragment).toList else []) ++
      (if p.receivesShadows then (select .shadowMapping .fragment).toList else []) ++
      (if p.fragmentLighting then (select .light .fragment).toList else []) ++
      if p.purpose = .shadow then (select .shadowMap .fragment).toList else [] := by
  -- lights and shadows are scheduled in every pass, but only the color pass has any
  have dark (other : p.purpose ≠ .color) : p.fragmentLighting = false := by
    rw [Bool.eq_false_iff]
    exact fun lit => other (Permutation.fragmentLighting_iff.1 lit).1
  unfold surface
  cases pass : p.purpose with
  | color =>
    simp only [snippets_append, snippets_job, snippets_colorLighting, snippets_colorOutput]
    simp
  | depth =>
    have unlit := dark (by rw [pass]; decide)
    simp [unlit, no_shadows_of_dark unlit, snippets, depthOutput, Part.snippet?]
  | shadow =>
    have unlit := dark (by rw [pass]; decide)
    simp only [snippets_append, snippets_job, unlit, no_shadows_of_dark unlit]
    simp [snippets, shadowOutput, Part.snippet?]

/-- Both stages write the snippets of the scheduled roles, in the order of the schedule. -/
theorem snippets_stages (p : Permutation) (scale : Float32) (select : Selection) :
    snippets (vertex p scale select) ++ snippets (fragment p scale select) =
      p.schedule.filterMap fun job => select job.1 job.2 := by
  have always (role : Role) (stage : Stage) :
      [(role, stage)].filterMap (fun job => select job.1 job.2) = (select role stage).toList := by
    cases found : select role stage <;> simp [found]
  have scheduled {needed : Prop} [Decidable needed] (role : Role) (stage : Stage) :
      (if needed then [(role, stage)] else []).filterMap (fun job => select job.1 job.2) =
        if needed then (select role stage).toList else [] := by
    split
    · exact always role stage
    · rfl
  have alphaTested : snippets (when (p.has .alphaTest) [alphaTest]) = [] := by
    rw [snippets_when]
    split <;> rfl
  unfold vertex fragment Permutation.schedule
  simp only [snippets_append, snippets_job, snippets_projection, snippets_when, snippets_lighting,
    snippets_surface, snippets_alphaOutput, alphaTested, List.filterMap_append, scheduled, always,
    List.nil_append, List.append_nil, List.append_assoc, decide_eq_true_eq]

end Plan

/-! ## Programs -/

namespace Emission

/-- The text ends with a main function, which does what is to be done behind its locals. -/
def EndsInMain (main text : String) : Prop :=
  ∃ front locals, text = front ++ "void main()\n\x7b\n" ++ locals ++ main ++ "\x7d\n"

theorem EndsInMain.behind {main text : String} (h : EndsInMain main text) (before : String) :
    EndsInMain main (before ++ text) := by
  obtain ⟨front, locals, rfl⟩ := h
  exact ⟨before ++ front, locals, by simp only [String.append_assoc]⟩

theorem endsInMain_mainFunction (lengths : ArrayLengths) (temporaries : List Parameter)
    (main : String) : EndsInMain main (mainFunction lengths temporaries main) := by
  let declared := String.join (temporaries.map fun p => Text.line 1 (p.declarationLine "" lengths))
  let gap := if temporaries.isEmpty then "" else "\n"
  have locals : "void main()\n\x7b\n" ++ declared ++ gap =
      "" ++ "void main()\n\x7b\n" ++ (declared ++ gap) := by
    rw [String.empty_append, String.append_assoc]
  exact ⟨"", declared ++ gap, congrArg (· ++ main ++ "\x7d\n") locals⟩

/-- The text of a stage ends with its main function. -/
theorem endsInMain_text (p : Permutation) (i : Interface) (main : Stage → String) (stage : Stage) :
    EndsInMain (main stage) ((ofInterface p i (main .vertex) (main .fragment)).text stage) := by
  cases stage with
  | vertex => exact ((endsInMain_mainFunction ..).behind _).behind _
  | fragment => exact ((endsInMain_mainFunction ..).behind _).behind _

end Emission

namespace Library

variable {library : Library} {settings : Settings} {p : Permutation} {e : Emission}

/-- The snippets among the pieces of both stages are those of the scheduled roles. -/
theorem snippets_of_pieces (library : Library) (settings : Settings) (p : Permutation) :
    (library.pieces settings p .vertex ++ library.pieces settings p .fragment).filterMap
        Piece.snippet? =
      (library.derived p).schedule.filterMap fun job => library.select p job.1 job.2 := by
  rw [List.filterMap_append, pieces, pieces, Plan.snippets_of_pieces, Plan.snippets_of_pieces]
  exact Plan.snippets_stages (library.derived p) settings.shadowScale (library.select p)

/--
A program that was built writes just the snippets of the scheduled roles, the vertex stage first and in
order: for each role and stage the snippet that is looked up by the name that is bound to the role, and
nothing where there is none. In the text of a stage, the main function goes through the pieces of the
stage, one behind the other. The piece of a snippet is its block, with the lines of its body; no other
piece depends on the body of any snippet.
-/
theorem written_as_scheduled (built : library.build settings p = .ok e) :
    (∃ texts : Stage → List String,
      e = .ofInterface (library.derived p) e.interface (String.join (texts .vertex))
        (String.join (texts .fragment)) ∧
      ∀ stage, List.Forall₂ Piece.Writes (library.pieces settings p stage) (texts stage) ∧
        Emission.EndsInMain (String.join (texts stage)) (e.text stage)) ∧
      (library.pieces settings p .vertex ++ library.pieces settings p .fragment).filterMap
          Piece.snippet? =
        ((library.derived p).schedule.filterMap fun (role, stage) =>
          (p.bindings.name? role).bind fun name =>
            library.lookup role name stage p.dialect p.packing) ∧
      ∀ bodies stage, (library.withBodies bodies).pieces settings p stage =
        (library.pieces settings p stage).map (Piece.withBody bodies) := by
  obtain ⟨pair, composed, rfl⟩ := build_eq_ok_iff.1 built
  obtain ⟨vertex, fragment⟩ := stages_made composed
  let texts (stage : Stage) := (library.pieces settings p stage).map Piece.text
  have vertexMain : pair.vertex.main = String.join (texts .vertex) := main_eq_join vertex
  have fragmentMain : pair.fragment.main = String.join (texts .fragment) := main_eq_join fragment
  rw [vertexMain, fragmentMain]
  have scheduled := snippets_of_pieces library settings p
  simp only [select_eq_bind] at scheduled
  refine ⟨⟨texts, rfl, fun stage => ⟨Piece.forall₂_writes _, ?_⟩⟩, scheduled, fun bodies stage => ?_⟩
  · exact Emission.endsInMain_text _ _ (fun stage => String.join (texts stage)) stage
  · exact pieces_withBodies stage

/-- A snippet that reads, produces and changes values that it shares with others. -/
def exchange (role : Role) (name : String) (reads produces changes : List SharedValue) : Snippet :=
  let declared := reads.map Catalog.parameter ++
    produces.map (fun v => (Catalog.parameter v).withQualifier .output) ++
    changes.map fun v => (Catalog.parameter v).withQualifier .inout
  declared.foldl Snippet.declaring (.plain role name "")

/-- Snippets for a lit and shadowed surface. -/
def litSurface : Library := ⟨[
  exchange .worldNormalTransformation "default" [] [.worldPosition, .worldNormal] [],
  exchange .shadowUv "default" [.worldPosition] [.shadowUvs] [],
  exchange .uv "default" [] [.worldUv] [],
  exchange .viewDirection "default" [.worldPosition] [.worldViewDirection] [],
  exchange .normalDepthMapping "default" [.worldNormal] [.fragmentNormal] [],
  exchange .diffuseMapping "default" [.worldUv] [.albedo] [],
  exchange .specularMapping "default" [.worldViewDirection] [.specular] [.albedo],
  exchange .shadowMapping "default" [.shadowUvs] [.shadow] [],
  exchange .light "phong" [.lightColor] [.diffuseColor, .specularColor] []]⟩

/-- Settings that leave lights to both stages. -/
def twoAndTwo : Settings :=
  { vertexLights := 2, fragmentLights := 2 }

/-- The color pass of the surface, lit by four lights and shadowed. -/
def surfaceColor : Permutation :=
  .resolve twoAndTwo { lighting := some "phong" }
    { dialect := .glsl330, purpose := .color, lights := 4, shadowMaps := 1 }

/-- The snippets of the surface with a line in each body, as both stages write them. -/
theorem litSurface_written :
    let surface := litSurface.withBodies fun s => s.name ++ "();\r\n"
    ∃ e, ∃ texts : Stage → List String, surface.build twoAndTwo surfaceColor = .ok e ∧
      ((surface.pieces twoAndTwo surfaceColor .vertex ++
        surface.pieces twoAndTwo surfaceColor .fragment).filterMap Piece.snippet?).map
          (fun s => (s.role, s.body)) = [
            (.worldNormalTransformation, "default();\r\n"), (.light, "phong();\r\n"),
            (.shadowUv, "default();\r\n"), (.uv, "default();\r\n"),
            (.viewDirection, "default();\r\n"), (.normalDepthMapping, "default();\r\n"),
            (.diffuseMapping, "default();\r\n"), (.specularMapping, "default();\r\n"),
            (.shadowMapping, "default();\r\n"), (.light, "phong();\r\n")] ∧
      ∀ stage, List.Forall₂ Piece.Writes (surface.pieces twoAndTwo surfaceColor stage) (texts stage) ∧
        Emission.EndsInMain (String.join (texts stage)) (e.text stage) := by
  intro surface
  obtain ⟨e, built⟩ : ∃ e, surface.build twoAndTwo surfaceColor = .ok e :=
    exists_of_isOk (by decide +kernel)
  obtain ⟨⟨texts, -, main⟩, scheduled, -⟩ := written_as_scheduled built
  refine ⟨e, texts, built, ?_, main⟩
  rw [scheduled]
  decide +kernel

end Library

end ShaderComposition
