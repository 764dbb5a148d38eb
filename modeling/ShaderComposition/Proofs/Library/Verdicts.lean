import ShaderComposition.Proofs.Snippet.Resolving

/-!
# Verdicts on definitions

A list of definitions is registered with a verdict on each: a definition cannot be resolved, or one of the
cases that it lists is taken, or the library takes it. `Verdict` says this by the texts of the definition
and the library that the definitions in front of it lead to (`exists_verdict`). Definitions are gone
through one by one, so the verdicts on the whole list account for what is reported, what is held and what
is served afterwards (`registerDefinitions_accounts`): every definition leaves a refusal or a snippet.
-/

namespace ShaderComposition.Library

open Snippet (Definition)

variable {library : Library} {d : Definition} {ds : List Definition} {s : Snippet} {c : Case}
  {v : Except BuildError Snippet} {verdicts : List (Except BuildError Snippet)}

/-- The snippet that a case is looked up as, where a plainly packed one will do for merged packing. -/
def served (library : Library) : Assignment := fun c =>
  library.lookup c.role c.name c.stage c.dialect c.packing

/-- What a library makes of a definition: why it is refused, or the snippet that is taken. -/
inductive Verdict (library : Library) (d : Definition) : Except BuildError Snippet → Prop
  | unresolved {e : BuildError} (unknown : d.resolve = .error e) : Verdict library d (.error e)
  | taken {s : Snippet} {c : Case} (resolved : d.resolve = .ok s) (listed : d.Lists c)
      (known : library.answer c ≠ none) : Verdict library d (.error c.refusal)
  | accepted {s : Snippet} (resolved : d.resolve = .ok s)
      (free : ∀ c, d.Lists c → library.answer c = none) : Verdict library d (.ok s)

/-- The cause of a refusal. -/
def refusal? : Except BuildError Snippet → Option BuildError
  | .ok _ => none
  | .error e => some e

/-- The library once a verdict was passed in it: what is accepted stands behind the other snippets. -/
def after (library : Library) : Except BuildError Snippet → Library
  | .ok s => ⟨library.snippets ++ [s]⟩
  | .error _ => library

/-- The verdicts on a list of definitions account for everything that registering it does. -/
structure Accounts (library : Library) (ds : List Definition)
    (verdicts : List (Except BuildError Snippet)) : Prop where
  length : verdicts.length = ds.length
  /-- A verdict is passed in the library that the definitions in front lead to. -/
  judged : ∀ i d v, ds[i]? = some d → verdicts[i]? = some v →
    Verdict (library.registerDefinitions (ds.take i)).1 d v
  /-- Every refusal is reported, in order, and nothing else is. -/
  reported : (library.registerDefinitions ds).2 = verdicts.filterMap refusal?
  /-- Everything that is accepted is held, in order, and nothing else is. -/
  held : (library.registerDefinitions ds).1.snippets =
    library.snippets ++ verdicts.filterMap Except.toOption
  size : (library.registerDefinitions ds).1.size + (library.registerDefinitions ds).2.length =
    library.size + ds.length
  /-- What is accepted serves every case that its definition lists. -/
  serves : ∀ (i : Nat) (d : Definition) (s : Snippet) (c : Case), ds[i]? = some d →
    verdicts[i]? = some (.ok s) → d.Lists c → (library.registerDefinitions ds).1.served c = some s
  /-- What was served by a snippet that is packed as asked goes on being served by it. -/
  kept : ∀ c, library.answer c ≠ none →
    (library.registerDefinitions ds).1.served c = library.served c

/-! ## One definition -/

theorem served_of_answer (h : library.answer c = some s) : library.served c = some s := by
  obtain ⟨role, name, stage, dialect, packing⟩ := c
  have found : library.find? role name stage dialect packing = some s := h
  cases packing with
  | default => exact found
  | merged => rw [served, lookup, found, Option.some_or]

/-- A snippet that covers a case is not left out: it is refused or stands behind the others. -/
theorem eq_after_of_register {next : Library} (covers : c ∈ s.cases)
    (h : library.register s = .ok next) : next = library.after (.ok s) := by
  unfold register at h
  split at h
  next unusable =>
    rw [Snippet.cases_eq_nil (Bool.or_eq_true_iff.1 unusable)] at covers
    cases covers
  next =>
    split at h
    · cases h
    · cases h
      rfl

theorem exists_verdict (library : Library) (d : Definition) :
    ∃ v, Verdict library d v ∧ library.registerDefinition d = v.map fun s => library.after (.ok s) := by
  cases resolved : d.resolve with
  | error e =>
    have refused : library.registerDefinition d = .error e := by
      rw [registerDefinition, resolved]
      rfl
    exact ⟨.error e, .unresolved resolved, refused⟩
  | ok s =>
    have registered : library.registerDefinition d = library.register s := by
      rw [registerDefinition, resolved]
      rfl
    obtain ⟨listed, lists⟩ := Definition.exists_lists resolved
    have covers := (Definition.mem_cases_iff_lists resolved).2 lists
    rcases library.register_cases s with ⟨next, ok, free, -⟩ | ⟨c, hc, known, refused⟩
    · refine ⟨.ok s, .accepted resolved fun c hc => ?_, ?_⟩
      · exact free c ((Definition.mem_cases_iff_lists resolved).2 hc)
      · rw [registered, ok, eq_after_of_register covers ok]
        rfl
    · have lists := (Definition.mem_cases_iff_lists resolved).1 hc
      exact ⟨.error c.refusal, .taken resolved lists known, registered.trans refused⟩

/-- The first definition adds what its verdict says, and the others are registered behind it. -/
theorem registerDefinitions_cons
    (h : library.registerDefinition d = v.map fun s => library.after (.ok s)) (ds : List Definition) :
    library.registerDefinitions (d :: ds) =
      (((library.after v).registerDefinitions ds).1,
        (refusal? v).toList ++ ((library.after v).registerDefinitions ds).2) := by
  cases v <;> (rw [registerDefinitions, h]; rfl)

theorem answer_after (h : library.answer c = some s) (v : Except BuildError Snippet) :
    (library.after v).answer c = some s := by
  cases v with
  | error e => exact h
  | ok t =>
    have before : (Library.mk library.snippets).answer c = some s := h
    rw [after, answer_append, before, Option.some_or]

/-- What is accepted answers the cases that its definition lists. -/
theorem Verdict.answer_after (verdict : Verdict library d (.ok s)) (lists : d.Lists c) :
    (library.after (.ok s)).answer c = some s := by
  cases verdict with
  | accepted resolved free =>
    have none : (Library.mk library.snippets).answer c = none := free c lists
    have covers := (Definition.mem_cases_iff_lists resolved).2 lists
    rw [after, answer_append, none, Option.none_or, if_pos covers]

/-! ## Lists of definitions -/

theorem answer_registerDefinitions (h : library.answer c = some s) (ds : List Definition) :
    (library.registerDefinitions ds).1.answer c = some s := by
  induction ds generalizing library with
  | nil => exact h
  | cons d ds ih =>
    obtain ⟨v, -, step⟩ := library.exists_verdict d
    rw [registerDefinitions_cons step]
    exact ih (library.answer_after h v)

theorem Accounts.nil (library : Library) : library.Accounts [] [] where
  length := rfl
  judged _ _ _ h := by simp at h
  reported := rfl
  held := (List.append_nil _).symm
  size := rfl
  serves _ _ _ _ h := by simp at h
  kept _ _ := rfl

theorem Accounts.cons (verdict : Verdict library d v)
    (step : library.registerDefinition d = v.map fun s => library.after (.ok s))
    (rest : (library.after v).Accounts ds verdicts) : library.Accounts (d :: ds) (v :: verdicts) where
  length := congrArg (· + 1) rest.length
  judged i e w first second := by
    cases i with
    | zero =>
      cases first
      cases second
      exact verdict
    | succ i =>
      have later := rest.judged i e w first second
      rwa [List.take_succ_cons, registerDefinitions_cons step]
  reported := by
    rw [registerDefinitions_cons step, rest.reported]
    cases v <;> rfl
  held := by
    rw [registerDefinitions_cons step, rest.held]
    cases v with
    | error e => rfl
    | ok s => exact List.append_assoc ..
  size := by
    have rest := rest.size
    have one : (library.after v).size + (refusal? v).toList.length = library.size + 1 := by
      cases v with
      | error e => rfl
      | ok s => simp [after, refusal?, Library.size]
    rw [registerDefinitions_cons step]
    simp only [List.length_append, List.length_cons]
    omega
  serves i e s c first second lists := by
    rw [registerDefinitions_cons step]
    cases i with
    | zero =>
      cases first
      cases second
      exact served_of_answer (answer_registerDefinitions (verdict.answer_after lists) ds)
    | succ i => exact rest.serves i e s c first second lists
  kept c known := by
    obtain ⟨s, answered⟩ := Option.ne_none_iff_exists'.1 known
    rw [served_of_answer answered, served_of_answer (answer_registerDefinitions answered _)]

/--
Whatever a library holds, registering a list of definitions passes one verdict on each, in the library
that the definitions in front of it lead to. The refusals are reported in order. The accepted snippets are
put behind the others, so the library grows by the number of definitions less that of refusals. Each
serves every case that its definition lists, and no case that an exactly packed snippet served before is
served in another way.
-/
theorem registerDefinitions_accounts (library : Library) (ds : List Definition) :
    ∃ verdicts, library.Accounts ds verdicts := by
  induction ds generalizing library with
  | nil => exact ⟨[], .nil library⟩
  | cons d ds ih =>
    obtain ⟨v, verdict, step⟩ := library.exists_verdict d
    obtain ⟨verdicts, rest⟩ := ih (library.after v)
    exact ⟨v :: verdicts, .cons verdict step rest⟩

/-- Of three definitions of one name the second lists a dialect that is taken, and the third a sun. -/
example :
    let first : Definition := { role := "uv", name := "default", dialects := ["120", "130"], body := "" }
    let second := { first with dialects := ["140", "130"] }
    let third := { first with dialects := ["140"], parameters := [.engineUniform "sun"] }
    let (library, refusals) := Library.registerDefinitions {} [first, second, third]
    library.size = 1 ∧ refusals = [
      .duplicateVariant .uv "default" .vertex .glsl130 .default,
      .unknownSymbol (Vocabulary.catalog EngineUniform) "sun"] := by
  cbv

end ShaderComposition.Library
