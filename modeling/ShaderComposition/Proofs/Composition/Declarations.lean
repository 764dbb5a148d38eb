import ShaderComposition.Composition.StageSource
import ShaderComposition.Program.Build
import ShaderComposition.Proofs.Composition.Derivation
import ShaderComposition.Proofs.Composition.OwnParts
import ShaderComposition.Proofs.Interface.Sorting

/-!
# What a stage declares

The declarations of a stage are those of its parts, in order. A stage that was put together holds one
entry for each name, which is the name's first declaration and covers all the others
(`StageSource.Holds`); a program that was built comes from two such stages (`stages_hold`).
-/

namespace ShaderComposition

open Vocabulary (spelling)

/-- What a part declares for its stage, in order. -/
def Part.declarations : Part → List Parameter
  | .snippet s => s.parameters
  | .code parameters _ => parameters
  | .lights block => block.declarations

/-- What a part has its stage declare, and the text that it adds. -/
def Part.yields (lengths : ArrayLengths) : Part → Except BuildError (List Parameter × String)
  | .snippet s => .ok (s.parameters, s.text 1)
  | .code parameters statements => .ok (parameters, Statement.lines 1 statements)
  | .lights block => block.scope.map fun inner => (inner.globals, block.text inner.locals lengths)

theorem Part.yields_lights_iff {lengths : ArrayLengths} {block : LightBlock} {xs : List Parameter}
    {text : String} : (Part.lights block).yields lengths = .ok (xs, text) ↔
      ∃ inner, block.scope = .ok inner ∧ inner.globals = xs ∧
        block.text inner.locals lengths = text := by
  cases inside : block.scope <;> simp [yields, inside, Except.map]

/-- A part has its stage declare a summary of its declarations. -/
theorem Part.yields_summarizes {lengths : ArrayLengths} {part : Part} {xs : List Parameter}
    {text : String}
    (apart : ∀ b, part = .lights b → ∀ d ∈ b.outputs, d.name ∉ LightBlock.resultNames)
    (h : part.yields lengths = .ok (xs, text)) : Summarizes xs part.declarations := by
  cases part with
  | snippet snippet =>
    cases h
    exact .refl _
  | code parameters statements =>
    cases h
    exact .refl _
  | lights block =>
    obtain ⟨inner, inside, rfl, -⟩ := yields_lights_iff.1 h
    exact LightBlock.scope_summarizes (apart block rfl) inside

/-- The declarations of a stage's parts, in order. -/
def Plan.declarations (parts : List Part) : List Parameter :=
  parts.flatMap Part.declarations

/-! ## Stages -/

namespace StageSource

variable {s t : StageSource} {lengths : ArrayLengths} {stage : Stage} {part : Part}
  {parts : List Part} {ds : List Parameter}

/-- A stage whose entries stand for the declarations made so far. -/
structure Holds (s : StageSource) (stage : Stage) (ds : List Parameter) : Prop where
  run : Scope.Run { stage } s.scope
  noLocals : s.scope.locals = []
  summary : Summarizes s.scope.globals ds

theorem Holds.coherent (h : s.Holds stage ds) : s.scope.Coherent :=
  h.run.coherent (.start stage)

theorem Holds.distinct (h : s.Holds stage ds) : DistinctNames s.scope.globals :=
  h.coherent.distinct.left

theorem Holds.start (stage : Stage) (main : String) : Holds ⟨{ stage }, main⟩ stage [] :=
  ⟨.refl _, rfl, .refl []⟩

theorem add_eq (s : StageSource) (lengths : ArrayLengths) (part : Part) :
    s.add lengths part = (part.yields lengths >>= fun (xs, text) =>
      s.scope.extend xs >>= fun scope => pure ⟨scope, s.main ++ text⟩) := by
  cases part with
  | snippet snippet => rfl
  | code parameters statements => rfl
  | lights block =>
    simp only [add, Part.yields]
    cases block.scope <;> rfl

/-- A part has its stage declare what it yields and adds the text to what is there. -/
theorem add_cases (h : s.add lengths part = .ok t) :
    ∃ xs text, part.yields lengths = .ok (xs, text) ∧ s.scope.extend xs = .ok t.scope ∧
      t.main = s.main ++ text := by
  rw [add_eq] at h
  obtain ⟨⟨xs, text⟩, yields, h⟩ := bind_eq_ok_iff.1 h
  obtain ⟨scope, extended, h⟩ := bind_eq_ok_iff.1 h
  cases h
  exact ⟨xs, text, yields, extended, rfl⟩

theorem addAll_cons_eq_ok_iff : s.addAll lengths (part :: parts) = .ok t ↔
    ∃ u, s.add lengths part = .ok u ∧ u.addAll lengths parts = .ok t :=
  bind_eq_ok_iff

theorem Holds.add (hs : s.Holds stage ds)
    (apart : ∀ b, part = .lights b → ∀ d ∈ b.outputs, d.name ∉ LightBlock.resultNames)
    (h : s.add lengths part = .ok t) : t.Holds stage (ds ++ part.declarations) := by
  obtain ⟨xs, text, yields, step, -⟩ := add_cases h
  have summary := Part.yields_summarizes apart yields
  exact ⟨hs.run.extend step, (Scope.extend_locals step).trans hs.noLocals,
    hs.summary.extend hs.noLocals summary step⟩

theorem Holds.addAll (hs : s.Holds stage ds)
    (apart : ∀ b, Part.lights b ∈ parts → ∀ d ∈ b.outputs, d.name ∉ LightBlock.resultNames)
    (h : s.addAll lengths parts = .ok t) : t.Holds stage (ds ++ Plan.declarations parts) := by
  induction parts generalizing s ds with
  | nil =>
    cases h
    simpa [Plan.declarations] using hs
  | cons part parts ih =>
    obtain ⟨u, step, rest⟩ := addAll_cons_eq_ok_iff.1 h
    have next := hs.add (fun b same => apart b (same ▸ List.mem_cons_self)) step
    simpa [Plan.declarations] using
      ih next (fun b member => apart b (List.mem_cons_of_mem _ member)) rest

/-- A stage that was put together holds what its plan declares. -/
theorem holds_of_plan {p : Permutation} {scale : Float32} {select : Selection}
    (h : ofParts lengths stage (Plan.stage p scale select stage) = .ok s) :
    s.Holds stage (Plan.declarations (Plan.stage p scale select stage)) := by
  simpa using (Holds.start stage "").addAll (fun b member => (Plan.listed member).outputs_apart) h

/-! ## Entries and declarations -/

variable {d e : Parameter} {n : String}

/-- Every declaration has an entry of its name and shape. -/
theorem Holds.entry (h : s.Holds stage ds) (hd : d ∈ ds) :
    ∃ e ∈ s.scope.globals, e.name = d.name ∧ e.Covers d :=
  h.summary.covers d hd

/-- Every entry is a declaration. -/
theorem Holds.mem (h : s.Holds stage ds) (he : e ∈ s.scope.globals) : e ∈ ds :=
  h.summary.mem_of_entry h.distinct he

/-- A stage produces a name if a declaration of it is more than a reading. -/
theorem Holds.produces_iff (h : s.Holds stage ds) :
    s.scope.Produces n ↔ ∃ d ∈ ds, d.name = n ∧ d.qualifier ≠ .input := by
  constructor
  · rintro ⟨e, he, same, produced⟩
    exact ⟨e, h.mem he, same, produced⟩
  · rintro ⟨d, hd, same, produced⟩
    obtain ⟨e, he, name, covers⟩ := h.entry hd
    exact ⟨e, he, name.trans same, covers.not_input produced⟩

end StageSource

/-! ## Built programs -/

theorem exists_of_isOk {ε α : Type} {x : Except ε α} (h : x.isOk = true) : ∃ a, x = .ok a := by
  cases x with
  | error e => cases h
  | ok a => exact ⟨a, rfl⟩

theorem exists_of_any {ε α : Type} {x : Except ε α} {check : α → Bool}
    (h : x.toOption.any check = true) : ∃ a, x = .ok a ∧ check a = true := by
  cases x with
  | error e => cases h
  | ok a => exact ⟨a, rfl, h⟩

namespace Library

/-- The parts of a stage of the program of a permutation. -/
def parts (library : Library) (settings : Settings) (p : Permutation) (stage : Stage) : List Part :=
  Plan.stage (library.derived p) settings.shadowScale (library.select p) stage

/-- What the parts of a stage declare. -/
def declarations (library : Library) (settings : Settings) (p : Permutation) (stage : Stage) :
    List Parameter :=
  Plan.declarations (library.parts settings p stage)

/-- Both stages of the program of a permutation, put together. -/
def stages (library : Library) (settings : Settings) (p : Permutation) :
    Except BuildError StagePair :=
  (library.derived p).compose settings.shadowScale (library.select p)

variable {library : Library} {settings : Settings} {p : Permutation} {e : Emission} {pair : StagePair}

/-- A program is built just where both stages can be put together. -/
theorem build_eq_ok_iff :
    library.build settings p = .ok e ↔ ∃ pair, library.stages settings p = .ok pair ∧
      e = .ofInterface (library.derived p)
        (.ofScopes pair.vertex.scope pair.fragment.scope) pair.vertex.main pair.fragment.main := by
  show (library.stages settings p >>= fun pair => pure _) = _ ↔ _
  rw [bind_eq_ok_iff]
  simp only [pure, Except.pure, Except.ok.injEq, eq_comm (b := e), derived]

/-- Each stage is made of its parts. -/
theorem stages_made (h : library.stages settings p = .ok pair) :
    StageSource.ofParts (library.derived p).arrayLengths .vertex (library.parts settings p .vertex) =
        .ok pair.vertex ∧
      StageSource.ofParts (library.derived p).arrayLengths .fragment
        (library.parts settings p .fragment) = .ok pair.fragment := by
  obtain ⟨vertex, first, h⟩ := bind_eq_ok_iff.1 h
  obtain ⟨fragment, second, h⟩ := bind_eq_ok_iff.1 h
  cases h
  exact ⟨first, second⟩

/-- Each stage holds the declarations of its parts. -/
theorem stages_hold (h : library.stages settings p = .ok pair) :
    pair.vertex.Holds .vertex (library.declarations settings p .vertex) ∧
      pair.fragment.Holds .fragment (library.declarations settings p .fragment) :=
  ⟨StageSource.holds_of_plan (stages_made h).1, StageSource.holds_of_plan (stages_made h).2⟩

end Library

end ShaderComposition
