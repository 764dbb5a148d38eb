import ShaderComposition.Proofs.Scope.Extending

/-!
# Where declarations are refused

A list of declarations is refused at its first member that is refused, in the scope that the members
before it lead to (`extend_eq_error_iff`). One cause of a refusal is a change of a value that nothing
has produced: then every declaration of the name before it was a reading, in this list
(`extend_unsatisfiable`) as in the scope that the list started from.
-/

namespace ShaderComposition

theorem bind_eq_error_iff {ε α β : Type} {x : Except ε α} {f : α → Except ε β} {e : ε} :
    (x >>= f) = .error e ↔ x = .error e ∨ ∃ a, x = .ok a ∧ f a = .error e := by
  cases x <;> simp [bind, Except.bind]

namespace Scope

variable {s t : Scope} {stage : Stage} {p q d : Parameter} {ds : List Parameter} {source n : String}
  {refusal : BuildError}

/-! ## A single declaration -/

/-- Whatever an existing declaration refuses, it is in conflict with. -/
theorem provides_eq_error (h : provides stage p q = .error refusal) :
    ∃ on, refusal = .parameterConflict stage on p q := by
  unfold provides at h
  split at h
  · exact ⟨_, (Except.error.inj h).symm⟩
  split at h
  · exact ⟨_, (Except.error.inj h).symm⟩
  split at h <;> cases h
  · exact ⟨_, rfl⟩
  · exact ⟨_, rfl⟩

/-- A value that is merely read does not provide for a change of it. -/
theorem provides_eq_false_iff :
    provides stage p q = .ok false ↔
      p.shape = q.shape ∧ p.qualifier = .input ∧ q.qualifier = .inout := by
  constructor
  · intro h
    have changed := inout_of_provides_eq_false h
    unfold provides at h
    split at h
    · cases h
    next type =>
      split at h
      · cases h
      next size =>
        refine ⟨Shape.eq_of_sameSize (by simpa using type) (by simpa using size), ?_, changed⟩
        split at h <;> simp_all
  · rintro ⟨shape, read, changed⟩
    have size : q.shape.sameSize q.shape = true := by simp [Shape.sameSize]
    simp [provides, shape, size, read, changed]

/-- A candidate is left to the caller where there is no entry, or a reading that it is to change. -/
theorem satisfies_eq_false_iff :
    s.satisfies q = .ok false ↔
      ∀ e, s.find? q.name = some e →
        e.shape = q.shape ∧ e.qualifier = .input ∧ q.qualifier = .inout := by
  unfold satisfies
  cases found : s.find? q.name with
  | none => simp
  | some e => simp [provides_eq_false_iff]

/-- A change is refused for lack of a producer where an entry of its name, if any, is a reading. -/
theorem needsEntry_unsatisfiable_iff :
    s.needsEntry q = .error (.unsatisfiableInOut stage source n) ↔
      (s.stage = stage ∧ q.source = source ∧ q.name = n) ∧ q.qualifier = .inout ∧
        ∀ e, s.find? q.name = some e → e.shape = q.shape ∧ e.qualifier = .input := by
  have left : s.satisfies q ≠ .error (.unsatisfiableInOut stage source n) := by
    intro refused
    unfold satisfies at refused
    split at refused
    · obtain ⟨on, other⟩ := provides_eq_error refused
      cases other
    · cases refused
  unfold needsEntry
  constructor
  · intro h
    split at h
    next e refused =>
      cases h
      exact absurd refused left
    next => cases h
    next unmet =>
      split at h
      next changed =>
        cases h
        refine ⟨⟨rfl, rfl, rfl⟩, changed, fun e found => ?_⟩
        obtain ⟨shape, read, -⟩ := satisfies_eq_false_iff.1 unmet e found
        exact ⟨shape, read⟩
      next => cases h
  · rintro ⟨⟨rfl, rfl, rfl⟩, changed, readings⟩
    have unmet : s.satisfies q = .ok false := by
      refine satisfies_eq_false_iff.2 fun e found => ?_
      obtain ⟨shape, read⟩ := readings e found
      exact ⟨shape, read, changed⟩
    simp [unmet, changed]

/-! ## Lists of declarations -/

theorem declare_eq_error_iff : s.declare q = .error refusal ↔ s.needsEntry q = .error refusal := by
  unfold declare
  cases s.needsEntry q with
  | error e => simp
  | ok new => cases new <;> simp

theorem declareLocal_eq_error_iff :
    s.declareLocal q = .error refusal ↔ s.needsEntry q = .error refusal := by
  unfold declareLocal
  cases s.needsEntry q with
  | error e => simp
  | ok new => cases new <;> simp

theorem extend_cons_eq_bind :
    s.extend (d :: ds) = (s.declare d >>= fun (_, t) => t.extend ds) := by
  simp only [extend, declareAll]
  cases s.declare d <;> rfl

/-- A list is refused at the first of its members that is refused. -/
theorem extend_eq_error_iff :
    s.extend ds = .error refusal ↔
      ∃ before d after t, ds = before ++ d :: after ∧ s.extend before = .ok t ∧
        t.needsEntry d = .error refusal := by
  induction ds generalizing s with
  | nil => simp [extend, declareAll]
  | cons c ds ih =>
    simp only [extend_cons_eq_bind, bind_eq_error_iff, declare_eq_error_iff, ih]
    constructor
    · rintro (here | ⟨⟨new, u⟩, first, before, d, after, t, rfl, extended, refused⟩)
      · exact ⟨[], c, ds, s, rfl, rfl, here⟩
      · exact ⟨c :: before, d, after, t, rfl, extend_cons.2 ⟨new, u, first, extended⟩, refused⟩
    · rintro ⟨before, d, after, t, split, extended, refused⟩
      cases before with
      | nil =>
        cases split
        cases extend_nil.1 extended
        exact .inl refused
      | cons b before =>
        cases split
        obtain ⟨new, u, first, rest⟩ := extend_cons.1 extended
        exact .inr ⟨(new, u), first, before, d, after, t, rfl, rest, refused⟩

theorem extendLocals_eq_error (h : s.extendLocals ds = .error refusal) :
    ∃ d ∈ ds, ∃ t : Scope, t.needsEntry d = .error refusal := by
  induction ds generalizing s with
  | nil => cases h
  | cons d ds ih =>
    simp only [extendLocals] at h
    split at h
    next e refused =>
      cases h
      exact ⟨d, List.mem_cons_self, s, declareLocal_eq_error_iff.1 refused⟩
    next new t _ =>
      obtain ⟨c, hc, u, refused⟩ := ih h
      exact ⟨c, List.mem_cons_of_mem _ hc, u, refused⟩

/-! ## Changes without a producer -/

theorem declare_stage {new : Bool} (h : s.declare q = .ok (new, t)) : t.stage = s.stage := by
  rcases declare_cases h with ⟨-, rfl, -⟩ | ⟨-, rfl, -⟩ <;> rfl

theorem declareAll_stage (s : Scope) (ds : List Parameter) : (s.declareAll ds).1.stage = s.stage :=
  declareAll_induction (motive := fun t => t.stage = s.stage)
    (fun step same => (declare_stage step).trans same) ds rfl

/-- A run stays in its stage. -/
theorem Run.stage_eq (run : Run s t) : t.stage = s.stage := by
  induction run with
  | refl => rfl
  | declare _ step ih => exact (declare_stage step).trans ih
  | declareLocal _ step ih =>
    rcases declareLocal_cases step with ⟨-, rfl, -⟩ | ⟨-, rfl, -⟩ <;> exact ih
  | declareAll ps _ ih => exact (declareAll_stage _ ps).trans ih
  | @demote s t n _ ih =>
    rcases demote_cases t n with ⟨same, -⟩ | ⟨_, _, _, -, -, moved⟩
    · rw [same, ih]
    · rw [moved, ← ih]
  | absorb _ _ ih =>
    rw [absorb_fst]
    exact (declareAll_stage _ _).trans ih

/--
Where a list is refused because a value is changed that nothing has produced, the change is in the
list, and every declaration of the name before it is a reading, in the list and in the scope.
-/
theorem extend_unsatisfiable (h : s.extend ds = .error (.unsatisfiableInOut stage source n)) :
    s.stage = stage ∧ ∃ before d after, ds = before ++ d :: after ∧
      d.name = n ∧ d.source = source ∧ d.qualifier = .inout ∧
      (∀ c ∈ before, c.name = n → c.qualifier = .input) ∧
      ∀ e, s.find? n = some e → e.qualifier = .input := by
  obtain ⟨before, d, after, t, split, extended, refused⟩ := extend_eq_error_iff.1 h
  obtain ⟨⟨rfl, rfl, rfl⟩, changed, readings⟩ := needsEntry_unsatisfiable_iff.1 refused
  refine ⟨((Run.refl s).extend extended).stage_eq.symm, before, d, after, split, rfl, rfl, changed,
    ?_, ?_⟩
  · intro c hc same
    obtain ⟨e, found, covers⟩ := extend_covers extended hc
    exact covers.input (readings e (same ▸ found)).2
  · intro e found
    have kept : t.find? d.name = some e := by
      rw [extend_find? extended, found, Option.some_or]
    exact (readings e kept).2

theorem extendLocals_covers (h : s.extendLocals ds = .ok t) (hd : d ∈ ds) :
    ∃ e, t.find? d.name = some e ∧ e.Covers d := by
  induction ds generalizing s with
  | nil => cases hd
  | cons c ds ih =>
    obtain ⟨new, u, step, rest⟩ := extendLocals_cons.1 h
    rcases List.mem_cons.1 hd with rfl | later
    · obtain ⟨e, found, covers⟩ : ∃ e, u.find? d.name = some e ∧ e.Covers d := by
        rcases declareLocal_cases step with ⟨-, rfl, entry⟩ | ⟨-, rfl, fresh, -⟩
        · exact entry
        · exact ⟨d, by simp [find?_append_local, fresh, firstNamed_cons], .refl d⟩
      exact ⟨e, by rw [extendLocals_find? rest, found, Option.some_or], covers⟩
    · exact ih rest later

end Scope

end ShaderComposition
