import ShaderComposition.Proofs.Scope.Run

/-!
# What a list of declarations does to a scope

After declarations that were all accepted, a name stands for the entry that it had before or else for
its first declaration, and the entry covers every declaration of the name (`extend_find?`,
`extend_covers`). A list that says the same about names as another, `Summarizes`, can be declared in
its place.
-/

namespace ShaderComposition

namespace Scope

variable {s t u : Scope} {d e : Parameter} {ds es : List Parameter}

/-! ## Globals -/

theorem extend_nil : s.extend [] = .ok t ↔ t = s := by
  simp [extend, declareAll, eq_comm]

theorem extend_cons :
    s.extend (d :: ds) = .ok u ↔ ∃ new t, s.declare d = .ok (new, t) ∧ t.extend ds = .ok u := by
  simp only [extend, declareAll]
  cases step : s.declare d with
  | error e => simp
  | ok result =>
    constructor
    · intro h
      exact ⟨result.1, result.2, rfl, h⟩
    · rintro ⟨new, t, ⟨⟩, h⟩
      exact h

theorem extend_eq_ok_iff : s.extend ds = .ok t ↔ s.declareAll ds = (t, .ok ()) := by
  unfold extend
  split
  next u ok => simp [ok]
  next u e refused => simp [refused]

theorem Run.extend (run : Run u s) (h : s.extend ds = .ok t) : Run u t := by
  have whole := run.declareAll ds
  rwa [extend_eq_ok_iff.1 h] at whole

theorem extend_locals (h : s.extend ds = .ok t) : t.locals = s.locals := by
  have kept : (s.declareAll ds).1.locals = s.locals := by
    refine declareAll_induction (motive := fun t => t.locals = s.locals) (fun step same => ?_) ds rfl
    rcases declare_cases step with ⟨-, rfl, -⟩ | ⟨-, rfl, -⟩ <;> exact same
  rwa [extend_eq_ok_iff.1 h] at kept

/-- A name keeps its entry, and a new name gets its first declaration. -/
theorem extend_find? (h : s.extend ds = .ok t) (n : String) :
    t.find? n = (s.find? n).or (firstNamed ds n) := by
  induction ds generalizing s with
  | nil => simp [extend_nil.1 h]
  | cons d ds ih =>
    obtain ⟨new, u, step, rest⟩ := extend_cons.1 h
    rw [ih rest, ← List.singleton_append, firstNamed_append, declare_find? step, Option.or_assoc]

theorem extend_covers (h : s.extend ds = .ok t) (hd : d ∈ ds) :
    ∃ e, t.find? d.name = some e ∧ e.Covers d := by
  induction ds generalizing s with
  | nil => cases hd
  | cons c ds ih =>
    obtain ⟨new, u, step, rest⟩ := extend_cons.1 h
    rcases List.mem_cons.1 hd with rfl | later
    · rcases declare_cases step with ⟨-, rfl, e, found, covers⟩ | ⟨-, rfl, fresh, -⟩
      · exact ⟨e, by simp [extend_find? rest, found], covers⟩
      · refine ⟨d, ?_, .refl d⟩
        simp [extend_find? rest, find?_append_global fresh, fresh, firstNamed_cons]
    · exact ih rest later

/-- A global was there before or is one of the declarations. -/
theorem extend_globals (h : s.extend ds = .ok t) (he : e ∈ t.globals) : e ∈ s.globals ∨ e ∈ ds := by
  induction ds generalizing s with
  | nil => exact .inl (extend_nil.1 h ▸ he)
  | cons d ds ih =>
    obtain ⟨new, u, step, rest⟩ := extend_cons.1 h
    rcases ih rest with before | later
    · rcases declare_cases step with ⟨-, rfl, -⟩ | ⟨-, rfl, -⟩
      · exact .inl before
      · rcases List.mem_append.1 before with old | new
        · exact .inl old
        · exact .inr (List.mem_singleton.1 new ▸ List.mem_cons_self)
    · exact .inr (List.mem_cons_of_mem _ later)

/-- The globals that are there stay in front of those that are added. -/
theorem globals_prefix_declareAll (s : Scope) (ds : List Parameter) :
    s.globals <+: (s.declareAll ds).1.globals := by
  refine declareAll_induction (motive := fun t => s.globals <+: t.globals) (fun step front => ?_) ds
    (List.prefix_refl _)
  rcases declare_cases step with ⟨-, rfl, -⟩ | ⟨-, rfl, -⟩
  · exact front
  · exact front.trans (List.prefix_append _ _)

theorem subset_extend_globals (h : s.extend ds = .ok t) (he : e ∈ s.globals) : e ∈ t.globals := by
  have front := s.globals_prefix_declareAll ds
  rw [extend_eq_ok_iff.1 h] at front
  exact front.subset he

/-! ## Locals -/

theorem extendLocals_cons :
    s.extendLocals (d :: ds) = .ok u ↔
      ∃ new t, s.declareLocal d = .ok (new, t) ∧ t.extendLocals ds = .ok u := by
  simp only [extendLocals]
  cases step : s.declareLocal d with
  | error e => simp
  | ok result =>
    constructor
    · intro h
      exact ⟨result.1, result.2, rfl, h⟩
    · rintro ⟨new, t, ⟨⟩, h⟩
      exact h

theorem Run.extendLocals (run : Run u s) (h : s.extendLocals ds = .ok t) : Run u t := by
  induction ds generalizing s with
  | nil =>
    cases h
    exact run
  | cons d ds ih =>
    obtain ⟨new, v, step, rest⟩ := extendLocals_cons.1 h
    exact ih (run.declareLocal step) rest

theorem extendLocals_globals (h : s.extendLocals ds = .ok t) : t.globals = s.globals := by
  induction ds generalizing s with
  | nil =>
    cases h
    rfl
  | cons d ds ih =>
    obtain ⟨new, u, step, rest⟩ := extendLocals_cons.1 h
    rw [ih rest]
    rcases declareLocal_cases step with ⟨-, rfl, -⟩ | ⟨-, rfl, -⟩ <;> rfl

theorem extendLocals_find? (h : s.extendLocals ds = .ok t) (n : String) :
    t.find? n = (s.find? n).or (firstNamed ds n) := by
  induction ds generalizing s with
  | nil =>
    cases h
    simp
  | cons d ds ih =>
    obtain ⟨new, u, step, rest⟩ := extendLocals_cons.1 h
    rw [ih rest, ← List.singleton_append, firstNamed_append, declareLocal_find? step,
      Option.or_assoc]

end Scope

/-! ## Summaries -/

/-- Entries that stand for declarations: the first of each name, which covers all the others. -/
structure Summarizes (entries ds : List Parameter) : Prop where
  first : ∀ n, firstNamed entries n = firstNamed ds n
  covers : ∀ d ∈ ds, ∃ e ∈ entries, e.name = d.name ∧ e.Covers d

namespace Summarizes

variable {s t : Scope} {entries ds xs ys : List Parameter} {d e : Parameter}

theorem refl (ds : List Parameter) : Summarizes ds ds :=
  ⟨fun _ => rfl, fun d hd => ⟨d, hd, rfl, .refl d⟩⟩

/-- An entry covers every declaration of its name. -/
theorem covers_of_name (h : Summarizes entries ds) (distinct : DistinctNames entries)
    (he : e ∈ entries) (hd : d ∈ ds) (same : e.name = d.name) : e.Covers d := by
  obtain ⟨e', he', name, covers⟩ := h.covers d hd
  exact distinct.eq_of_name he he' (same.trans name.symm) ▸ covers

/-- Every entry is a declaration. -/
theorem mem_of_entry (h : Summarizes entries ds) (distinct : DistinctNames entries)
    (he : e ∈ entries) : e ∈ ds := by
  have found := (firstNamed_eq_some_iff distinct).2 ⟨he, rfl⟩
  rw [h.first] at found
  exact mem_of_firstNamed found

/-- Declaring a summary has the effect of declaring what it summarizes. -/
theorem extend (h : Summarizes s.globals ds) (noLocals : s.locals = []) (hx : Summarizes xs ys)
    (step : s.extend xs = .ok t) : Summarizes t.globals (ds ++ ys) := by
  have found (n : String) : firstNamed t.globals n = (firstNamed s.globals n).or (firstNamed xs n) := by
    simpa [Scope.find?_eq_firstNamed, Scope.extend_locals step, noLocals] using
      Scope.extend_find? step n
  refine ⟨fun n => by rw [found, h.first, hx.first, firstNamed_append], fun d hd => ?_⟩
  rcases List.mem_append.1 hd with before | later
  · obtain ⟨e, he, name, covers⟩ := h.covers d before
    exact ⟨e, Scope.subset_extend_globals step he, name, covers⟩
  · obtain ⟨x, hx, name, coversLater⟩ := hx.covers d later
    obtain ⟨e, entry, coversEntry⟩ := Scope.extend_covers step hx
    rw [Scope.find?_eq_firstNamed, Scope.extend_locals step, noLocals, List.append_nil] at entry
    exact ⟨e, mem_of_firstNamed entry, (name_of_firstNamed entry).trans name,
      coversEntry.trans coversLater⟩

end Summarizes

end ShaderComposition
