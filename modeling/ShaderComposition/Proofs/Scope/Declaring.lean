import ShaderComposition.Proofs.Scope.Names
import ShaderComposition.Scope

/-!
# What one declaration does to a scope

A declaration of a name that has an entry leaves the scope as it is, and the entry covers it.
Otherwise it becomes an entry itself. `declare_cases` and `declareLocal_cases` say this for globals
and locals; every other fact about scopes is derived from them.
-/

namespace ShaderComposition

/-- A step and what follows it go well if each of them does. -/
theorem bind_eq_ok_iff {ε α β : Type} {x : Except ε α} {f : α → Except ε β} {b : β} :
    (x >>= f) = .ok b ↔ ∃ a, x = .ok a ∧ f a = .ok b := by
  cases x <;> simp [bind, Except.bind]

theorem Shape.eq_of_sameSize {s t : Shape} (type : s.type = t.type) (size : s.sameSize t = true) :
    s = t := by
  simp only [sameSize, Bool.and_eq_true, decide_eq_true_eq] at size
  cases s
  cases t
  simp_all

/--
One declaration stands in for another of its name: they have the same shape, and what the other
produces or changes is produced, or already changed, by the one.
-/
structure Parameter.Covers (existing candidate : Parameter) : Prop where
  shape : existing.shape = candidate.shape
  qualifier : candidate.qualifier = .input ∨ existing.qualifier = .output ∨
    (existing.qualifier = .inout ∧ candidate.qualifier = .inout)

namespace Parameter.Covers

variable {p q r : Parameter}

theorem refl (p : Parameter) : p.Covers p := by
  refine ⟨rfl, ?_⟩
  cases p.qualifier <;> simp

theorem trans (first : p.Covers q) (second : q.Covers r) : p.Covers r := by
  refine ⟨first.shape.trans second.shape, ?_⟩
  rcases second.qualifier with read | produced | ⟨changed, again⟩
  · exact .inl read
  · rcases first.qualifier with h | h | h
    · simp [produced] at h
    · exact .inr (.inl h)
    · simp [produced] at h
  · rcases first.qualifier with h | h | h
    · simp [changed] at h
    · exact .inr (.inl h)
    · exact .inr (.inr ⟨h.1, again⟩)

/-- Whatever is produced or changed has an entry that is not merely read. -/
theorem not_input (h : p.Covers q) (produced : q.qualifier ≠ .input) : p.qualifier ≠ .input := by
  rcases h.qualifier with read | written | changed
  · exact absurd read produced
  · simp [written]
  · simp [changed.1]

/-- What a mere reading covers is merely read. -/
theorem input (h : p.Covers q) (read : p.qualifier = .input) : q.qualifier = .input :=
  Decidable.byContradiction fun produced => h.not_input produced read

end Parameter.Covers

namespace Scope

variable {s t : Scope} {stage : Stage} {p q : Parameter} {new : Bool}

theorem provides_eq_true_iff : provides stage p q = .ok true ↔ p.Covers q := by
  constructor
  · intro h
    unfold provides at h
    split at h
    · cases h
    next type =>
      split at h
      · cases h
      next size =>
        refine ⟨Shape.eq_of_sameSize (by simpa using type) (by simpa using size), ?_⟩
        split at h <;> simp_all
  · intro h
    have size : q.shape.sameSize q.shape = true := by simp [Shape.sameSize]
    simp only [provides, h.shape, size]
    rcases h.qualifier with read | produced | ⟨changed, again⟩
    · cases written : p.qualifier <;> simp [read]
    · simp [produced]
    · simp [changed, again]

/-- Only a change of something that is merely read is left to the caller. -/
theorem inout_of_provides_eq_false (h : provides stage p q = .ok false) : q.qualifier = .inout := by
  unfold provides at h
  split at h
  · cases h
  split at h
  · cases h
  split at h <;> simp_all

theorem needsEntry_eq_false_iff :
    s.needsEntry q = .ok false ↔ ∃ e, s.find? q.name = some e ∧ e.Covers q := by
  simp only [← @provides_eq_true_iff s.stage]
  unfold needsEntry satisfies
  cases found : s.find? q.name with
  | none => by_cases changed : q.qualifier = .inout <;> simp [changed]
  | some e =>
    cases provided : provides s.stage e q with
    | error _ => simp [provided]
    | ok b => cases b <;> by_cases changed : q.qualifier = .inout <;> simp [provided, changed]

theorem needsEntry_eq_true_iff :
    s.needsEntry q = .ok true ↔ s.find? q.name = none ∧ q.qualifier ≠ .inout := by
  unfold needsEntry satisfies
  cases found : s.find? q.name with
  | none => by_cases changed : q.qualifier = .inout <;> simp [changed]
  | some e =>
    cases provided : provides s.stage e q with
    | error _ => simp [provided]
    | ok b =>
      cases b with
      | true => simp [provided]
      | false => simp [provided, inout_of_provides_eq_false provided]

theorem declare_cases (h : s.declare q = .ok (new, t)) :
    (new = false ∧ t = s ∧ ∃ e, s.find? q.name = some e ∧ e.Covers q) ∨
      (new = true ∧ t = { s with globals := s.globals ++ [q] } ∧
        s.find? q.name = none ∧ q.qualifier ≠ .inout) := by
  unfold declare at h
  split at h
  · cases h
  next kept =>
    cases h
    exact .inl ⟨rfl, rfl, needsEntry_eq_false_iff.1 kept⟩
  next added =>
    cases h
    exact .inr ⟨rfl, rfl, needsEntry_eq_true_iff.1 added⟩

theorem declareLocal_cases (h : s.declareLocal q = .ok (new, t)) :
    (new = false ∧ t = s ∧ ∃ e, s.find? q.name = some e ∧ e.Covers q) ∨
      (new = true ∧ t = { s with locals := s.locals ++ [q] } ∧
        s.find? q.name = none ∧ q.qualifier ≠ .inout) := by
  unfold declareLocal at h
  split at h
  · cases h
  next kept =>
    cases h
    exact .inl ⟨rfl, rfl, needsEntry_eq_false_iff.1 kept⟩
  next added =>
    cases h
    exact .inr ⟨rfl, rfl, needsEntry_eq_true_iff.1 added⟩

/-! ## Looking names up -/

theorem find?_eq_firstNamed (s : Scope) (n : String) :
    s.find? n = firstNamed (s.globals ++ s.locals) n := rfl

theorem find?_start (n : String) : ({ stage } : Scope).find? n = none := rfl

/-- A new global is found under its own name; nothing else changes. -/
theorem find?_append_global (fresh : s.find? q.name = none) (n : String) :
    ({ s with globals := s.globals ++ [q] } : Scope).find? n =
      (s.find? n).or (firstNamed [q] n) := by
  simp only [find?_eq_firstNamed, firstNamed_append, firstNamed_cons, firstNamed_nil] at *
  by_cases same : q.name = n
  · subst same
    simp [Option.or_eq_none_iff.1 fresh]
  · simp [same]

theorem find?_append_local (n : String) :
    ({ s with locals := s.locals ++ [q] } : Scope).find? n =
      (s.find? n).or (firstNamed [q] n) := by
  simp only [find?_eq_firstNamed, firstNamed_append, Option.or_assoc]

/-- A declaration that an entry covers does not change what any name stands for. -/
theorem find?_or_of_found {e : Parameter} (found : s.find? q.name = some e) (n : String) :
    (s.find? n).or (firstNamed [q] n) = s.find? n := by
  by_cases same : q.name = n
  · rw [← same, found, Option.some_or]
  · rw [firstNamed_cons, if_neg same, firstNamed_nil, Option.or_none]

/-- Every name keeps its entry; the declared name has one afterwards. -/
theorem declare_find? (h : s.declare q = .ok (new, t)) (n : String) :
    t.find? n = (s.find? n).or (firstNamed [q] n) := by
  rcases declare_cases h with ⟨-, rfl, e, found, -⟩ | ⟨-, rfl, fresh, -⟩
  · exact (find?_or_of_found found n).symm
  · exact find?_append_global fresh n

theorem declareLocal_find? (h : s.declareLocal q = .ok (new, t)) (n : String) :
    t.find? n = (s.find? n).or (firstNamed [q] n) := by
  rcases declareLocal_cases h with ⟨-, rfl, e, found, -⟩ | ⟨-, rfl, -⟩
  · exact (find?_or_of_found found n).symm
  · exact find?_append_local n

end Scope

end ShaderComposition
