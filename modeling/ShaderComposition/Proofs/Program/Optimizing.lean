import ShaderComposition.Program.Optimizer
import ShaderComposition.Proofs.Composition.Writing

/-!
# Optimizing is all or nothing

The text of a stage is a preamble and a body. An attempt to optimize a program puts what the optimizer
answers in the place of both bodies, or it leaves both texts as they are and keeps the refusal
(`optimized_cases`). So a preamble is still in front of every text after any number of attempts, and the
next attempt finds the body that the one before it left (`Prefaced.attempted`).
-/

namespace ShaderComposition

/-- A refusal is reported under the stage that was to be optimized. -/
def Optimizer.ReportsStage (optimize : Optimizer) : Prop :=
  ∀ preamble source stage failure,
    optimize preamble source stage = .error failure → failure.stage = stage

namespace Emission

variable {e : Emission} {optimize : Optimizer} {stage : Stage}

/-! ## Preambles and bodies -/

/-- One text for each stage. -/
def perStage (vertex fragment : String) : Stage → String
  | .vertex => vertex
  | .fragment => fragment

/-- The text of each stage is the preamble followed by the body. -/
def Prefaced (e : Emission) : Prop :=
  ∀ stage, e.preamble stage ++ e.body stage = e.text stage

theorem body_eq_of_text {rest : String} (h : e.text stage = e.preamble stage ++ rest) :
    e.body stage = rest := by
  have front : (e.preamble stage).toList.isPrefixOf (e.text stage).toList = true := by
    rw [h, String.toList_append, List.isPrefixOf_iff_prefix]
    exact List.prefix_append _ _
  simp only [body, front, if_true]
  rw [h, String.toList_append, List.drop_left, String.ofList_toList]

/-- A program is prefaced if its texts start with the preambles, whatever comes after them. -/
theorem prefaced_of_text (rest : Stage → String)
    (h : ∀ stage, e.text stage = e.preamble stage ++ rest stage) : e.Prefaced := by
  intro stage
  rw [body_eq_of_text (h stage), h stage]

theorem prefaced_ofInterface (p : Permutation) (i : Interface) (vertexMain fragmentMain : String) :
    (ofInterface p i vertexMain fragmentMain).Prefaced := by
  refine prefaced_of_text (perStage (vertexBody p i vertexMain) (fragmentBody p i fragmentMain))
    fun stage => ?_
  cases stage <;> rfl

/-- What a program is bound by stays the same: preambles, default values and the interface. -/
structure BoundAlike (e f : Emission) : Prop where
  preamble : ∀ stage, f.preamble stage = e.preamble stage
  defaultValues : f.defaultValues = e.defaultValues
  interface : f.interface = e.interface

theorem BoundAlike.refl (e : Emission) : e.BoundAlike e :=
  ⟨fun _ => rfl, rfl, rfl⟩

theorem BoundAlike.trans {f g : Emission} (first : e.BoundAlike f) (second : f.BoundAlike g) :
    e.BoundAlike g where
  preamble stage := (second.preamble stage).trans (first.preamble stage)
  defaultValues := second.defaultValues.trans first.defaultValues
  interface := second.interface.trans first.interface

/-! ## One attempt -/

/-- What the optimizer answers when it is asked for a stage. -/
def answer (e : Emission) (optimize : Optimizer) (stage : Stage) :
    Except OptimizationFailure String :=
  optimize (e.preamble stage) (e.body stage) stage

/-- The optimizer refuses a stage, and none before it. -/
structure RefusedAt (e : Emission) (optimize : Optimizer) (stage : Stage)
    (failure : OptimizationFailure) : Prop where
  refused : e.answer optimize stage = .error failure
  first : ∀ earlier, Vocabulary.position earlier < Vocabulary.position stage →
    ∃ body, e.answer optimize earlier = .ok body

/-- The program with other bodies. -/
def withBodies (e : Emission) (bodies : Stage → String) : Emission :=
  { e with
    vertexText := e.preamble .vertex ++ bodies .vertex
    fragmentText := e.preamble .fragment ++ bodies .fragment
    optimization := .applied }

/-- The program with a refusal, which shows the texts of both stages. -/
def withRefusal (e : Emission) (failure : OptimizationFailure) : Emission :=
  { e with
    optimization := .failed
      { failure with vertexSource := e.text .vertex, fragmentSource := e.text .fragment } }

theorem text_withBodies (e : Emission) (bodies : Stage → String) (stage : Stage) :
    (e.withBodies bodies).text stage = e.preamble stage ++ bodies stage := by
  cases stage <;> rfl

theorem text_withRefusal (e : Emission) (failure : OptimizationFailure) (stage : Stage) :
    (e.withRefusal failure).text stage = e.text stage := by
  cases stage <;> rfl

theorem boundAlike_withBodies (e : Emission) (bodies : Stage → String) :
    e.BoundAlike (e.withBodies bodies) :=
  ⟨fun stage => by cases stage <;> rfl, rfl, rfl⟩

theorem boundAlike_withRefusal (e : Emission) (failure : OptimizationFailure) :
    e.BoundAlike (e.withRefusal failure) :=
  ⟨fun stage => by cases stage <;> rfl, rfl, rfl⟩

theorem optimizeStage_of_ok {body : String} (h : e.answer optimize stage = .ok body) :
    e.optimizeStage optimize stage = .ok (e.preamble stage ++ body) := by
  unfold answer at h
  rw [optimizeStage, h]

theorem optimizeStage_of_error {failure : OptimizationFailure}
    (h : e.answer optimize stage = .error failure) :
    e.optimizeStage optimize stage =
      .error { failure with vertexSource := e.text .vertex, fragmentSource := e.text .fragment } := by
  unfold answer at h
  rw [optimizeStage, h]
  rfl

/-- An attempt changes both bodies, or it changes neither and keeps the first refusal. -/
theorem optimized_cases (e : Emission) (optimize : Optimizer) :
    (∃ bodies, (∀ stage, e.answer optimize stage = .ok (bodies stage)) ∧
        e.optimized optimize = e.withBodies bodies) ∨
      ∃ stage failure, e.RefusedAt optimize stage failure ∧
        e.optimized optimize = e.withRefusal failure := by
  cases vertex : e.answer optimize .vertex with
  | error failure =>
    refine .inr ⟨.vertex, failure, ⟨vertex, fun earlier less => absurd less (Nat.not_lt_zero _)⟩, ?_⟩
    simp only [optimized, optimizeStages, optimizeStage_of_error vertex, bind, Except.bind,
      withRefusal]
  | ok vertexBody =>
    cases fragment : e.answer optimize .fragment with
    | error failure =>
      refine .inr ⟨.fragment, failure, ⟨fragment, fun earlier less => ?_⟩, ?_⟩
      · cases earlier with
        | vertex => exact ⟨vertexBody, vertex⟩
        | fragment => exact absurd less (Nat.lt_irrefl _)
      · simp only [optimized, optimizeStages, optimizeStage_of_ok vertex,
          optimizeStage_of_error fragment, bind, Except.bind, withRefusal]
    | ok fragmentBody =>
      refine .inl ⟨perStage vertexBody fragmentBody, fun stage => ?_, ?_⟩
      · cases stage with
        | vertex => exact vertex
        | fragment => exact fragment
      · simp only [optimized, optimizeStages, optimizeStage_of_ok vertex,
          optimizeStage_of_ok fragment, bind, Except.bind, pure, Except.pure, withBodies, perStage]

theorem boundAlike_optimized (e : Emission) (optimize : Optimizer) :
    e.BoundAlike (e.optimized optimize) := by
  rcases e.optimized_cases optimize with ⟨bodies, -, same⟩ | ⟨stage, failure, -, same⟩
  · rw [same]
    exact e.boundAlike_withBodies bodies
  · rw [same]
    exact e.boundAlike_withRefusal failure

/-- New bodies stand after the old preambles, and a refusal changes no text. -/
theorem Prefaced.optimized (h : e.Prefaced) (optimize : Optimizer) :
    (e.optimized optimize).Prefaced := by
  rcases e.optimized_cases optimize with ⟨bodies, -, same⟩ | ⟨stage, failure, -, same⟩
  · rw [same]
    refine prefaced_of_text bodies fun stage => ?_
    rw [text_withBodies, (e.boundAlike_withBodies bodies).preamble]
  · rw [same]
    refine prefaced_of_text e.body fun stage => ?_
    rw [text_withRefusal, (e.boundAlike_withRefusal failure).preamble, h stage]

/-! ## Any number of attempts -/

/-- The program after attempts with one optimizer after the other. -/
def attempted (e : Emission) (optimizers : List Optimizer) : Emission :=
  optimizers.foldl optimized e

theorem Prefaced.attempted (h : e.Prefaced) (optimizers : List Optimizer) :
    (e.attempted optimizers).Prefaced := by
  induction optimizers generalizing e with
  | nil => exact h
  | cons optimize optimizers ih => exact ih (h.optimized optimize)

theorem boundAlike_attempted (e : Emission) (optimizers : List Optimizer) :
    e.BoundAlike (e.attempted optimizers) := by
  induction optimizers generalizing e with
  | nil => exact .refl e
  | cons optimize optimizers ih => exact (e.boundAlike_optimized optimize).trans (ih _)

end Emission

namespace Library

open Emission

variable {library : Library} {settings : Settings} {p : Permutation} {e : Emission}

theorem prefaced_of_build (built : library.build settings p = .ok e) : e.Prefaced := by
  obtain ⟨pair, -, rfl⟩ := build_eq_ok_iff.1 built
  exact prefaced_ofInterface _ _ _ _

/--
An attempt to optimize a program is all or nothing, whatever was attempted before it. Either the
optimizer answers for both stages, and its answers replace the bodies; or both texts stay, and the first
stage that it refused is reported with its log and the texts of both stages, whatever texts the
optimizer itself put there. Before and after, each text is its preamble followed by its body, and
preambles, default values and interface are those of the program as it was built.
-/
theorem attempt_all_or_nothing (built : library.build settings p = .ok e)
    (earlier : List Optimizer) (optimize : Optimizer) :
    let before := e.attempted earlier
    let after := before.optimized optimize
    before.Prefaced ∧ after.Prefaced ∧ e.BoundAlike before ∧ e.BoundAlike after ∧
      ((∃ bodies : Stage → String,
          (∀ stage, optimize (e.preamble stage) (before.body stage) stage = .ok (bodies stage)) ∧
          (∀ stage, after.text stage = e.preamble stage ++ bodies stage) ∧
          after.optimization = .applied) ∨
        ∃ stage failure, before.RefusedAt optimize stage failure ∧
          (∀ stage, after.text stage = before.text stage) ∧
          after.optimization = .failed {
            stage := failure.stage
            log := failure.log
            vertexSource := before.text .vertex
            fragmentSource := before.text .fragment } ∧
          (optimize.ReportsStage → failure.stage = stage)) := by
  intro before after
  have prefaced : before.Prefaced := (prefaced_of_build built).attempted earlier
  have bound : e.BoundAlike before := e.boundAlike_attempted earlier
  refine ⟨prefaced, prefaced.optimized optimize, bound,
    bound.trans (before.boundAlike_optimized optimize), ?_⟩
  rcases before.optimized_cases optimize with ⟨bodies, answers, same⟩ | ⟨stage, failure, refusal, same⟩
  · refine .inl ⟨bodies, fun stage => ?_, fun stage => ?_, ?_⟩
    · rw [← bound.preamble]
      exact answers stage
    · rw [← bound.preamble, ← text_withBodies, ← same]
    · show (before.optimized optimize).optimization = _
      rw [same]
      rfl
  · refine .inr ⟨stage, failure, refusal, fun stage => ?_, ?_, fun reports => ?_⟩
    · rw [← text_withRefusal before failure, ← same]
    · show (before.optimized optimize).optimization = _
      rw [same]
      rfl
    · exact reports _ _ _ _ refusal.refused

/-- An optimizer that leaves nothing of a stage. -/
def emptying : Optimizer := fun _ _ _ => .ok ""

/-- An optimizer that passes the vertex stage and refuses the fragment stage. -/
def refusingFragment : Optimizer := fun _ source stage =>
  match stage with
  | .vertex => .ok source
  | .fragment => .error { stage, log := "0:1: syntax error", vertexSource := "made up" }

/-- Both stages are emptied, and then the fragment stage is refused. -/
theorem litSurface_emptied_refused :
    ∃ e, litSurface.build twoAndTwo surfaceColor = .ok e ∧
      let after := (e.attempted [emptying]).optimized refusingFragment
      (∀ stage, after.text stage = e.preamble stage) ∧
        after.optimization = .failed {
          stage := .fragment
          log := "0:1: syntax error"
          vertexSource := e.vertexPreamble
          fragmentSource := e.fragmentPreamble } := by
  obtain ⟨e, built⟩ : ∃ e, litSurface.build twoAndTwo surfaceColor = .ok e :=
    exists_of_isOk (by decide +kernel)
  have emptied (stage : Stage) : (e.attempted [emptying]).text stage = e.preamble stage := by
    obtain ⟨-, -, -, -, ⟨bodies, answers, texts, -⟩ | ⟨stage', failure, refusal, -⟩⟩ :=
      attempt_all_or_nothing built [] emptying
    · have empty : bodies stage = "" := (Except.ok.inj (answers stage)).symm
      have text := texts stage
      rw [empty, String.append_empty] at text
      exact text
    · cases refusal.refused
  obtain ⟨-, -, -, -, ⟨bodies, answers, -⟩ | ⟨stage, failure, refusal, texts, outcome, -⟩⟩ :=
    attempt_all_or_nothing built [emptying] refusingFragment
  · cases answers .fragment
  · refine ⟨e, built, fun stage => (texts stage).trans (emptied stage), ?_⟩
    cases stage with
    | vertex => cases refusal.refused
    | fragment =>
      cases refusal.refused
      rw [outcome, emptied, emptied]
      rfl

end Library

end ShaderComposition
