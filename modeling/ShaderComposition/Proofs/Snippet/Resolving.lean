import ShaderComposition.Proofs.Library.FirstCome
import ShaderComposition.Proofs.Scope.Declaring
import ShaderComposition.Snippet.Definition

/-!
# What definitions resolve to

A definition asks for cases in plain texts, or leaves them to the defaults of its role. `Lists` says this
of the texts alone. A definition that is resolved becomes a snippet for just the cases that it lists
(`mem_cases_iff_lists`), and it lists one at least (`exists_lists`).
-/

namespace ShaderComposition

section Symbols

open Vocabulary

variable {α : Type} [DecidableEq α] [Vocabulary α] {text : String} {texts : List String} {a : α}
  {symbols : List α} {default set : SymbolSet α}

theorem Vocabulary.parse_eq_ok_iff : parse α text = .ok a ↔ spelling a = text := by
  rw [← symbol?_eq_some_iff (α := α)]
  unfold parse
  cases (symbol? text : Option α) <;> simp

/-- Texts that are all read are the spellings of what they are read as. -/
theorem Vocabulary.map_spelling_of_parse (h : texts.mapM (parse α) = .ok symbols) :
    symbols.map spelling = texts := by
  induction texts generalizing symbols with
  | nil =>
    cases h
    rfl
  | cons text texts ih =>
    rw [List.mapM_cons] at h
    obtain ⟨a, first, h⟩ := bind_eq_ok_iff.1 h
    obtain ⟨rest, later, h⟩ := bind_eq_ok_iff.1 h
    cases h
    rw [List.map_cons, ih later, parse_eq_ok_iff.1 first]

/-- A text is left to the default, or spells what it is read as. -/
theorem Vocabulary.parseOr_cases {text : Option String} {default : α}
    (h : parseOr default text = .ok a) :
    ∃ written : Option α, text = written.map spelling ∧ a = written.getD default := by
  cases text with
  | none =>
    cases h
    exact ⟨none, rfl, rfl⟩
  | some text => exact ⟨some a, congrArg some (parse_eq_ok_iff.1 h).symm, rfl⟩

theorem Vocabulary.spelling_of_parseOr {text : Option String} {default : α}
    (h : parseOr default text = .ok a) : spelling a = text.getD (spelling default) := by
  obtain ⟨written, rfl, rfl⟩ := parseOr_cases h
  cases written <;> rfl

/-- A list of texts is left to the default, or is read as the set of the symbols that it spells. -/
theorem SymbolSet.parseOr_cases (h : parseOr default texts = .ok set) :
    (texts = [] ∧ set = default) ∨
      ∃ symbols, texts = symbols.map spelling ∧ symbols ≠ [] ∧ set = ofList symbols := by
  cases texts with
  | nil =>
    cases h
    exact .inl ⟨rfl, rfl⟩
  | cons first rest =>
    simp only [parseOr, List.isEmpty_cons, Bool.false_eq_true, if_false] at h
    cases read : (first :: rest).mapM (Vocabulary.parse α) with
    | error e => simp [read, Functor.map, Except.map] at h
    | ok symbols =>
      have spelled := map_spelling_of_parse read
      simp only [read, Functor.map, Except.map, Except.ok.injEq] at h
      refine .inr ⟨symbols, spelled.symm, ?_, h.symm⟩
      rintro rfl
      cases spelled

/-- A symbol is in what a list is read as if the list spells it, or leaves it to a default with it. -/
theorem SymbolSet.contains_of_parseOr (h : parseOr default texts = .ok set) (a : α) :
    set.contains a = true ↔ texts = [] ∧ default.contains a = true ∨ spelling a ∈ texts := by
  rcases parseOr_cases h with ⟨rfl, rfl⟩ | ⟨symbols, rfl, some, rfl⟩
  · simp
  · simp only [contains_ofList, decide_eq_true_eq, List.map_eq_nil_iff, some, false_and, false_or,
      List.mem_map]
    constructor
    · intro member
      exact ⟨a, member, rfl⟩
    · rintro ⟨b, member, same⟩
      exact spelling_injective same ▸ member

theorem SymbolSet.exists_contains_of_parseOr (h : parseOr default texts = .ok set)
    (usual : ∃ a, default.contains a = true) : ∃ a, set.contains a = true := by
  rcases parseOr_cases h with ⟨-, rfl⟩ | ⟨symbols, -, some, rfl⟩
  · exact usual
  · obtain ⟨a, rest, rfl⟩ := List.exists_cons_of_ne_nil some
    exact ⟨a, by simp⟩

end Symbols

theorem Role.exists_defaultStage (role : Role) : ∃ stage, role.defaultStages.contains stage = true := by
  cases role <;> first | exact ⟨.vertex, by decide⟩ | exact ⟨.fragment, by decide⟩

namespace Snippet.Definition

open Vocabulary (spelling)

variable {d : Definition} {s : Snippet} {c : Case}

/-- The texts of a definition ask for the case, or leave it to the defaults. -/
structure Lists (d : Definition) (c : Case) : Prop where
  role : spelling c.role = d.role
  name : c.name = d.name
  stage : d.stages = [] ∧ c.role.defaultStages.contains c.stage = true ∨ spelling c.stage ∈ d.stages
  dialect : d.dialects = [] ∨ spelling c.dialect ∈ d.dialects
  packing : spelling c.packing = d.packing.getD (spelling Packing.default)

/-- What a definition that is resolved says of its snippet, part by part. -/
theorem resolve_eq_ok (h : d.resolve = .ok s) :
    Vocabulary.parse Role d.role = .ok s.role ∧ s.name = d.name ∧ s.body = d.body ∧
      SymbolSet.parseOr s.role.defaultStages d.stages = .ok s.stages ∧
      SymbolSet.parseOr .full d.dialects = .ok s.dialects ∧
      Vocabulary.parseOr Packing.default d.packing = .ok s.packing ∧
      ∃ ps, d.parameters.mapM ParameterReference.resolve = .ok ps ∧
        s.parameters = ps.map (·.withSource s.label) := by
  obtain ⟨role, hr, h⟩ := bind_eq_ok_iff.1 h
  obtain ⟨stages, hs, h⟩ := bind_eq_ok_iff.1 h
  obtain ⟨dialects, hd, h⟩ := bind_eq_ok_iff.1 h
  obtain ⟨packing, hp, h⟩ := bind_eq_ok_iff.1 h
  obtain ⟨parameters, hps, h⟩ := bind_eq_ok_iff.1 h
  cases h
  exact ⟨hr, rfl, rfl, hs, hd, hp, parameters, hps, rfl⟩

/-- A definition becomes a snippet for just the cases that it lists. -/
theorem mem_cases_iff_lists (h : d.resolve = .ok s) : c ∈ s.cases ↔ d.Lists c := by
  obtain ⟨role, name, -, stages, dialects, packing, -⟩ := resolve_eq_ok h
  have role := Vocabulary.parse_eq_ok_iff.1 role
  have packing := Vocabulary.spelling_of_parseOr packing
  rw [mem_cases]
  simp only [supports, Bool.and_eq_true, SymbolSet.contains_of_parseOr stages,
    SymbolSet.contains_of_parseOr dialects, SymbolSet.contains_full, and_true]
  constructor
  · rintro ⟨role', name', packing', stage, dialect⟩
    exact ⟨role' ▸ role, name'.symm.trans name, role' ▸ stage, dialect, packing' ▸ packing⟩
  · rintro ⟨role', name', stage, dialect, packing'⟩
    have same := Vocabulary.spelling_injective (role.trans role'.symm)
    exact ⟨same, name.trans name'.symm, Vocabulary.spelling_injective (packing.trans packing'.symm),
      same ▸ stage, dialect⟩

/-- A definition that is resolved lists a case: its defaults are not empty. -/
theorem exists_lists (h : d.resolve = .ok s) : ∃ c, d.Lists c := by
  obtain ⟨-, -, -, stages, dialects, -⟩ := resolve_eq_ok h
  obtain ⟨stage, hs⟩ := SymbolSet.exists_contains_of_parseOr stages s.role.exists_defaultStage
  obtain ⟨dialect, hd⟩ :=
    SymbolSet.exists_contains_of_parseOr dialects ⟨.glsl120, SymbolSet.contains_full _⟩
  refine ⟨⟨s.role, s.name, stage, dialect, s.packing⟩, (mem_cases_iff_lists h).1 ?_⟩
  exact mem_cases.2 ⟨rfl, rfl, rfl, by simp only [supports, hs, hd, Bool.and_self]⟩

end Snippet.Definition

end ShaderComposition
