import ShaderComposition.Catalog.SharedValue
import ShaderComposition.Proofs.Scope.Refusal

/-!
# How a list of declarations is merged

Each candidate of a list meets its holder: the entry of its name or, where the scope has none, the first
earlier candidate of that name. What becomes of the list can be read off these pairs, without a look at
the scopes in between. If every candidate fits its holder, those without one become globals
(`declareAll_of_admits`); otherwise the list ends at the first that does not fit, with the objection to
it (`declareAll_of_misfit`).
-/

namespace ShaderComposition

/--
A candidate fits its holder. Without a holder it must not be a change; otherwise it has the shape of the
holder, and is a reading or stands behind a producer.
-/
def Fits : Option Parameter → Parameter → Prop
  | none, c => c.qualifier ≠ .inout
  | some h, c => h.shape = c.shape ∧ (c.qualifier = .input ∨ h.qualifier = .output)

instance (holder : Option Parameter) (c : Parameter) : Decidable (Fits holder c) :=
  match holder with
  | none => inferInstanceAs (Decidable (c.qualifier ≠ .inout))
  | some h =>
    inferInstanceAs (Decidable (h.shape = c.shape ∧ (c.qualifier = .input ∨ h.qualifier = .output)))

/-- What a stage objects to in a candidate that does not fit its holder. -/
inductive Objection (stage : Stage) : Option Parameter → Parameter → BuildError → Prop
  | type {h c : Parameter} :
      h.shape.type ≠ c.shape.type → Objection stage (some h) c (.parameterConflict stage .type h c)
  | size {h c : Parameter} :
      h.shape.type = c.shape.type →
      ¬ (h.shape.sizeClass = c.shape.sizeClass ∧ h.shape.scale = c.shape.scale) →
      Objection stage (some h) c (.parameterConflict stage .size h c)
  /-- The value is produced after it was read. -/
  | qualifier {h c : Parameter} :
      h.shape = c.shape → h.qualifier = .input → c.qualifier = .output →
      Objection stage (some h) c (.parameterConflict stage .qualifier h c)
  /-- Nothing produces the value that is to be changed. -/
  | unproduced {holder : Option Parameter} {c : Parameter} :
      (∀ h, holder = some h → h.shape = c.shape ∧ h.qualifier = .input) → c.qualifier = .inout →
      Objection stage holder c (.unsatisfiableInOut stage c.source c.name)

namespace Scope

variable {s t : Scope} {c d h : Parameter} {before after cs ds : List Parameter} {new : Bool}

/-- The entry that a candidate meets or, failing that, the first earlier candidate of its name. -/
def holder? (s : Scope) (earlier : List Parameter) (c : Parameter) : Option Parameter :=
  (s.find? c.name).or (firstNamed earlier c.name)

/-- Every candidate of the list fits its holder. -/
def Admits (s : Scope) (cs : List Parameter) : Prop :=
  ∀ before c after, cs = before ++ c :: after → Fits (s.holder? before c) c

/-- The candidates that have no holder, in order, where some others came earlier. -/
def newcomers (s : Scope) (earlier : List Parameter) : List Parameter → List Parameter
  | [] => []
  | c :: rest =>
    if s.holder? earlier c = none then c :: s.newcomers (earlier ++ [c]) rest
    else s.newcomers (earlier ++ [c]) rest

/-- The scope with the candidates that have no holder behind its globals. -/
def merged (s : Scope) (cs : List Parameter) : Scope :=
  { s with globals := s.globals ++ s.newcomers [] cs }

@[simp] theorem holder?_nil (s : Scope) (c : Parameter) : s.holder? [] c = s.find? c.name := by
  simp [holder?]

@[simp] theorem merged_nil (s : Scope) : s.merged [] = s := by
  simp [merged, newcomers]

/-! ## One candidate -/

/-- An entry is no mere change, so a candidate fits it just where it covers the candidate. -/
theorem fits_some_iff (settled : h.qualifier ≠ .inout) : Fits (some h) c ↔ h.Covers c := by
  constructor
  · rintro ⟨shape, read | produced⟩
    · exact ⟨shape, .inl read⟩
    · exact ⟨shape, .inr (.inl produced)⟩
  · rintro ⟨shape, read | produced | ⟨changed, -⟩⟩
    · exact ⟨shape, .inl read⟩
    · exact ⟨shape, .inr produced⟩
    · exact absurd changed settled

theorem Coherent.settled_of_find? (hs : s.Coherent) {n : String} (found : s.find? n = some h) :
    h.qualifier ≠ .inout :=
  hs.settled h (mem_of_firstNamed found)

/-- A candidate that fits is a new global, or is covered and changes nothing. -/
theorem Coherent.declare_of_fits (hs : s.Coherent) (fits : Fits (s.find? c.name) c) :
    ∃ new, s.declare c = .ok (new,
      if s.find? c.name = none then { s with globals := s.globals ++ [c] } else s) := by
  cases found : s.find? c.name with
  | none =>
    rw [found] at fits
    have added : s.needsEntry c = .ok true := needsEntry_eq_true_iff.2 ⟨found, fits⟩
    exact ⟨true, by simp [Scope.declare, added]⟩
  | some h =>
    rw [found] at fits
    have covers := (fits_some_iff (hs.settled_of_find? found)).1 fits
    have kept : s.needsEntry c = .ok false := needsEntry_eq_false_iff.2 ⟨h, found, covers⟩
    exact ⟨false, by simp [Scope.declare, kept]⟩

theorem sameSize_iff {x y : Shape} :
    x.sameSize y = true ↔ x.sizeClass = y.sizeClass ∧ x.scale = y.scale := by
  simp [Shape.sameSize]

/-- Whatever does not fit an entry is refused by it, or is a change of a mere reading. -/
theorem exists_objection_of_entry (settled : h.qualifier ≠ .inout) (found : s.find? c.name = some h)
    (misfit : ¬ Fits (some h) c) :
    ∃ refusal, Objection s.stage (some h) c refusal ∧ s.needsEntry c = .error refusal := by
  have refused {refusal : BuildError} (provided : provides s.stage h c = .error refusal) :
      s.needsEntry c = .error refusal := by
    simp [needsEntry, satisfies, found, provided]
  by_cases type : h.shape.type = c.shape.type
  · by_cases size : h.shape.sizeClass = c.shape.sizeClass ∧ h.shape.scale = c.shape.scale
    · have shape : h.shape = c.shape := Shape.eq_of_sameSize type (sameSize_iff.2 size)
      have same : c.shape.sameSize c.shape = true := sameSize_iff.2 ⟨rfl, rfl⟩
      have unmet : c.qualifier ≠ .input ∧ h.qualifier ≠ .output :=
        not_or.1 fun fits => misfit ⟨shape, fits⟩
      have read : h.qualifier = .input := by
        cases written : h.qualifier with
        | input => rfl
        | output => exact absurd written unmet.2
        | inout => exact absurd written settled
      cases wanted : c.qualifier with
      | input => exact absurd wanted unmet.1
      | output =>
        exact ⟨_, .qualifier shape read wanted, refused (by simp [provides, shape, same, read, wanted])⟩
      | inout =>
        refine ⟨_, .unproduced (fun e entry => ?_) wanted, needsEntry_unsatisfiable_iff.2
          ⟨⟨rfl, rfl, rfl⟩, wanted, fun e entry => ?_⟩⟩
        · cases entry
          exact ⟨shape, read⟩
        · cases found.symm.trans entry
          exact ⟨shape, read⟩
    · have other : h.shape.sameSize c.shape = false :=
        Bool.eq_false_iff.2 fun same => size (sameSize_iff.1 same)
      exact ⟨_, .size type size, refused (by simp [provides, type, other])⟩
  · exact ⟨_, .type type, refused (by simp [provides, type])⟩

/-- A candidate that does not fit is refused with the objection to it. -/
theorem Coherent.exists_objection (hs : s.Coherent) (misfit : ¬ Fits (s.find? c.name) c) :
    ∃ refusal, Objection s.stage (s.find? c.name) c refusal ∧ s.needsEntry c = .error refusal := by
  cases found : s.find? c.name with
  | none =>
    rw [found] at misfit
    have changed : c.qualifier = .inout := Decidable.byContradiction misfit
    refine ⟨_, .unproduced (fun e entry => by cases entry) changed, ?_⟩
    refine needsEntry_unsatisfiable_iff.2 ⟨⟨rfl, rfl, rfl⟩, changed, fun e entry => ?_⟩
    cases found.symm.trans entry
  | some h =>
    rw [found] at misfit
    exact exists_objection_of_entry (hs.settled_of_find? found) found misfit

/-! ## Lists of candidates -/

/-- After a declaration, candidates meet what they met before, with that declaration among the earlier. -/
theorem holder?_of_declare (step : s.declare d = .ok (new, t)) (earlier : List Parameter)
    (c : Parameter) : t.holder? earlier c = s.holder? (d :: earlier) c := by
  rw [holder?, holder?, declare_find? step, Option.or_assoc, ← firstNamed_append,
    List.singleton_append]

theorem newcomers_of_declare (step : s.declare d = .ok (new, t)) (earlier cs : List Parameter) :
    t.newcomers earlier cs = s.newcomers (d :: earlier) cs := by
  induction cs generalizing earlier with
  | nil => rfl
  | cons c cs ih => rw [newcomers, newcomers, holder?_of_declare step, ih, List.cons_append]

theorem Admits.head (h : s.Admits (d :: ds)) : Fits (s.find? d.name) d := by
  simpa using h [] d ds rfl

theorem Admits.tail (h : s.Admits (d :: ds)) (step : s.declare d = .ok (new, t)) : t.Admits ds := by
  rintro before c after rfl
  rw [holder?_of_declare step]
  exact h (d :: before) c after rfl

/-- What the first candidate and those after it add is what the whole list adds. -/
theorem merged_of_declare (step : s.declare d = .ok (new, t))
    (next : t = if s.find? d.name = none then { s with globals := s.globals ++ [d] } else s)
    (ds : List Parameter) : t.merged ds = s.merged (d :: ds) := by
  rw [merged, merged, newcomers_of_declare step, newcomers, holder?_nil, next]
  split <;> simp

/-- A list of candidates that fit adds those that have no holder. -/
theorem Coherent.declareAll_of_admits (hs : s.Coherent) (admits : s.Admits cs) :
    s.declareAll cs = (s.merged cs, .ok ()) := by
  induction cs generalizing s with
  | nil => rw [Scope.declareAll, merged_nil]
  | cons d ds ih =>
    obtain ⟨new, step⟩ := hs.declare_of_fits admits.head
    rw [Scope.declareAll, step]
    show Scope.declareAll _ ds = _
    rw [ih (hs.declare step) (admits.tail step), merged_of_declare step rfl]

theorem declareAll_append (first : s.declareAll before = (t, .ok ())) (rest : List Parameter) :
    s.declareAll (before ++ rest) = t.declareAll rest := by
  induction before generalizing s with
  | nil =>
    cases first
    rfl
  | cons d before ih =>
    rw [List.cons_append]
    rw [declareAll] at first ⊢
    cases step : s.declare d with
    | error e => simp [step] at first
    | ok result =>
      rw [step] at first
      exact ih first

/-- The entries of the merged scope are the holders of what comes next. -/
theorem Coherent.find?_merged (hs : s.Coherent) (admits : s.Admits before) :
    (s.merged before).find? c.name = s.holder? before c := by
  have extended := extend_eq_ok_iff.2 (hs.declareAll_of_admits admits)
  exact extend_find? extended c.name

/-- A list ends at a candidate that does not fit, if those before it do. -/
theorem Coherent.declareAll_of_misfit (hs : s.Coherent) (admits : s.Admits before)
    (misfit : ¬ Fits (s.holder? before c) c) (after : List Parameter) :
    ∃ refusal, Objection s.stage (s.holder? before c) c refusal ∧
      s.declareAll (before ++ c :: after) = (s.merged before, .error refusal) := by
  have whole := hs.declareAll_of_admits admits
  have coherent : (s.merged before).Coherent := by
    have kept := hs.declareAll before
    rwa [whole] at kept
  rw [← hs.find?_merged admits] at misfit ⊢
  obtain ⟨refusal, objection, refused⟩ := coherent.exists_objection misfit
  have last := declare_eq_error_iff.2 refused
  exact ⟨refusal, objection, by rw [declareAll_append whole, Scope.declareAll, last]⟩

theorem Admits.concat (h : s.Admits before) (fits : Fits (s.holder? before c) c) :
    s.Admits (before ++ [c]) := by
  intro front d back split
  rcases List.eq_nil_or_concat back with rfl | ⟨rest, x, rfl⟩
  · obtain ⟨rfl, same⟩ := List.append_inj' split rfl
    cases same
    exact fits
  · rw [List.concat_eq_append, ← List.cons_append, ← List.append_assoc] at split
    exact h front d rest (List.append_inj' split rfl).1

theorem admits_nil (s : Scope) : s.Admits [] := by
  intro before c after split
  simp at split

/-- A list that is not admitted, though some candidates in front are, has a first that does not fit. -/
theorem exists_misfit_behind (admits : s.Admits before) (refused : ¬ s.Admits (before ++ cs)) :
    ∃ front c after, before ++ cs = front ++ c :: after ∧ s.Admits front ∧
      ¬ Fits (s.holder? front c) c := by
  induction cs generalizing before with
  | nil =>
    rw [List.append_nil] at refused
    exact absurd admits refused
  | cons c cs ih =>
    by_cases fits : Fits (s.holder? before c) c
    · rw [List.append_cons] at refused ⊢
      exact ih (admits.concat fits) refused
    · exact ⟨before, c, cs, rfl, admits, fits⟩

theorem exists_first_misfit (refused : ¬ s.Admits cs) :
    ∃ before c after, cs = before ++ c :: after ∧ s.Admits before ∧
      ¬ Fits (s.holder? before c) c := by
  have behind : ¬ s.Admits ([] ++ cs) := refused
  exact exists_misfit_behind s.admits_nil behind

/--
A list of candidates is merged into a scope that operations lead to just where every candidate fits its
holder, and then the candidates that have no holder stand behind the globals, in order, and nothing else
changes. Otherwise the list ends at the first candidate that does not fit: the scope is what the
candidates before it make of it, and the refusal is the objection of the stage to that candidate and its
holder.
-/
theorem Reachable.declareAll_outcome (hs : s.Reachable) (cs : List Parameter) :
    ((s.declareAll cs).2 = .ok () ↔ s.Admits cs) ∧
      (s.Admits cs → s.declareAll cs = (s.merged cs, .ok ())) ∧
      (¬ s.Admits cs → ∃ before c after refusal, cs = before ++ c :: after ∧
        s.Admits before ∧ s.declareAll before = (s.merged before, .ok ()) ∧
        ¬ Fits (s.holder? before c) c ∧ Objection s.stage (s.holder? before c) c refusal ∧
        s.declareAll cs = (s.merged before, .error refusal)) := by
  have coherent := hs.coherent
  refine ⟨⟨fun ok => ?_, fun admits => ?_⟩, coherent.declareAll_of_admits, fun refused => ?_⟩
  · refine Classical.byContradiction fun refused => ?_
    obtain ⟨before, c, after, rfl, first, misfit⟩ := exists_first_misfit refused
    obtain ⟨_, -, ends⟩ := coherent.declareAll_of_misfit first misfit after
    rw [ends] at ok
    cases ok
  · rw [coherent.declareAll_of_admits admits]
  · obtain ⟨before, c, after, rfl, first, misfit⟩ := exists_first_misfit refused
    obtain ⟨refusal, objection, ends⟩ := coherent.declareAll_of_misfit first misfit after
    exact ⟨before, c, after, refusal, rfl, first, coherent.declareAll_of_admits first, misfit,
      objection, ends⟩

/--
A fragment scope with a local result takes a change of it, a new value with a change behind it, and a
reading of a reading. It refuses to produce what was read before, and keeps what came in front of that.
-/
theorem declareAll_outcome_around_result :
    let color := Catalog.producedBy SharedValue.diffuseColor "light"
    let s := (declaring .fragment [color, Catalog.readBy SharedValue.albedo "light"]).demote color.name
    let changed (v : SharedValue) := (Catalog.readBy v "output").withQualifier .inout
    let kept := [changed .diffuseColor, Catalog.producedBy SharedValue.specular "mapping",
      changed .specular, Catalog.readBy SharedValue.albedo "output"]
    let late := Catalog.producedBy SharedValue.albedo "mapping"
    let broken := [Catalog.readBy SharedValue.emission "output", late, changed .fog]
    s.Reachable ∧ s.Admits kept ∧
      s.declareAll kept = (s.merged kept, .ok ()) ∧
      (s.merged kept).globals.map (·.name) = ["albedo", "specular"] ∧
      ¬ s.Admits broken ∧
      (s.declareAll broken).1.globals.map (·.name) = ["albedo", "emission"] ∧
      (s.declareAll broken).2 = .error (.parameterConflict .fragment .qualifier
        (Catalog.readBy SharedValue.albedo "light") late) := by
  intro color s changed kept late broken
  have reachable : s.Reachable := ⟨.fragment, .demote _ (.declareAll _ (.refl _))⟩
  obtain ⟨success, merges, -⟩ := reachable.declareAll_outcome kept
  have admits : s.Admits kept := success.1 rfl
  obtain ⟨failure, -⟩ := reachable.declareAll_outcome broken
  have refused : (s.declareAll broken).2 = .error (.parameterConflict .fragment .qualifier
      (Catalog.readBy SharedValue.albedo "light") late) := rfl
  refine ⟨reachable, admits, merges admits, by decide, fun all => ?_, by decide, refused⟩
  cases refused.symm.trans (failure.2 all)

end Scope

end ShaderComposition
