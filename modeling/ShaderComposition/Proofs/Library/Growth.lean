import ShaderComposition.Proofs.Library.FirstCome

/-!
# Libraries grow

What a library holds, it keeps: offering snippets to it puts some of them behind the others
(`snippets_foldl_offered`). So what is looked up later is what was looked up before, or a snippet that
was not there before (`lookup_foldl_offered`). A name that a role is not registered under is looked up
in vain (`lookup_eq_none_of_unregistered`).
-/

namespace ShaderComposition

namespace Library

variable {library : Library} {s : Snippet} {role : Role} {name : String} {stage : Stage}
  {dialect : Dialect} {packing : Packing} {history : List Snippet}

/-! ## What is found -/

theorem mem_of_find? (h : library.find? role name stage dialect packing = some s) :
    s ∈ library.snippets ∧ s.role = role ∧ s.name = name := by
  have fits := List.find?_some h
  simp only [Bool.and_eq_true, decide_eq_true_eq] at fits
  obtain ⟨⟨⟨sameRole, sameName⟩, -⟩, -⟩ := fits
  exact ⟨List.mem_of_find?_eq_some h, sameRole, sameName⟩

/-- What is looked up under a role and a name is registered under them. -/
theorem mem_of_lookup (h : library.lookup role name stage dialect packing = some s) :
    s ∈ library.snippets ∧ s.role = role ∧ s.name = name := by
  cases packing with
  | default => exact mem_of_find? h
  | merged =>
    rcases Option.or_eq_some_iff.1 h with merged | ⟨-, plain⟩
    · exact mem_of_find? merged
    · exact mem_of_find? plain

theorem mem_insertName {other : String} {names : List String} :
    other ∈ insertName name names ↔ other = name ∨ other ∈ names := by
  induction names with
  | nil => simp [insertName]
  | cons first rest ih =>
    unfold insertName
    split
    · simp
    next =>
      split
      next same => simp [same]
      next => simp only [List.mem_cons, ih, or_left_comm]

theorem mem_names : name ∈ library.names role ↔
    ∃ s ∈ library.snippets, s.role = role ∧ s.name = name := by
  have gathered (names : List String) : name ∈ names.foldr insertName [] ↔ name ∈ names := by
    induction names with
    | nil => rfl
    | cons first rest ih => rw [List.foldr_cons, mem_insertName, ih, List.mem_cons]
  rw [names, gathered]
  simp [and_assoc]

theorem lookup_eq_none_of_unregistered (h : name ∉ library.names role) :
    library.lookup role name stage dialect packing = none := by
  rw [Option.eq_none_iff_forall_ne_some]
  intro s found
  obtain ⟨member, sameRole, sameName⟩ := mem_of_lookup found
  exact h (mem_names.2 ⟨s, member, sameRole, sameName⟩)

/-! ## What is offered later -/

theorem snippets_offered (library : Library) (s : Snippet) :
    ∃ added, added ⊆ [s] ∧ (library.offered s).snippets = library.snippets ++ added := by
  have kept : ∃ added, added ⊆ [s] ∧ library.snippets = library.snippets ++ added :=
    ⟨[], List.nil_subset _, (List.append_nil _).symm⟩
  unfold offered register
  split
  next next registered =>
    split at registered
    · cases registered
      exact kept
    · split at registered
      · cases registered
      · cases registered
        exact ⟨[s], List.Subset.refl _, rfl⟩
  next => exact kept

/-- Some of what is offered is put behind what a library holds. -/
theorem snippets_foldl_offered (library : Library) (history : List Snippet) :
    ∃ added, added ⊆ history ∧
      (history.foldl offered library).snippets = library.snippets ++ added := by
  induction history generalizing library with
  | nil => exact ⟨[], List.Subset.refl _, (List.append_nil _).symm⟩
  | cons s history ih =>
    obtain ⟨first, among, grown⟩ := library.snippets_offered s
    obtain ⟨rest, amongRest, grownRest⟩ := ih (library.offered s)
    refine ⟨first ++ rest, List.append_subset.2 ⟨?_, ?_⟩, ?_⟩
    · exact List.Subset.trans among (List.cons_subset_cons s (List.nil_subset _))
    · exact List.subset_cons_of_subset _ amongRest
    · rw [List.foldl_cons, grownRest, grown, List.append_assoc]

/-- A case is served as before, or by a snippet that was not there before. -/
theorem answer_foldl_offered (library : Library) (history : List Snippet) (c : Case) :
    (history.foldl offered library).answer c = library.answer c ∨
      ∃ s ∈ history, s ∉ library.snippets ∧ (history.foldl offered library).answer c = some s := by
  obtain ⟨added, among, grown⟩ := library.snippets_foldl_offered history
  have served : (history.foldl offered library).answer c =
      (library.answer c).or (added.find? (c ∈ ·.cases)) := by
    rw [answer_eq, answer_eq, grown, List.find?_append]
  cases before : library.answer c with
  | some t =>
    rw [before] at served
    exact .inl served
  | none =>
    rw [before, Option.none_or] at served
    cases new : added.find? (c ∈ ·.cases) with
    | none => exact .inl (served.trans new)
    | some s =>
      have covers : c ∈ s.cases := by simpa using List.find?_some new
      have fresh : s ∉ library.snippets := fun known => answer_eq_none_iff.1 before s known covers
      exact .inr ⟨s, among (List.mem_of_find?_eq_some new), fresh, served.trans new⟩

/-- What is looked up is what was looked up before, or a snippet that was not there before. -/
theorem lookup_foldl_offered (library : Library) (history : List Snippet) (role : Role)
    (name : String) (stage : Stage) (dialect : Dialect) (packing : Packing) :
    let later := history.foldl offered library
    later.lookup role name stage dialect packing = library.lookup role name stage dialect packing ∨
      ∃ s ∈ history, s ∉ library.snippets ∧
        later.lookup role name stage dialect packing = some s := by
  intro later
  have plain := library.answer_foldl_offered history ⟨role, name, stage, dialect, .default⟩
  cases packing with
  | default => exact plain
  | merged =>
    have merged := library.answer_foldl_offered history ⟨role, name, stage, dialect, .merged⟩
    have split (l : Library) : l.lookup role name stage dialect .merged =
        (l.answer ⟨role, name, stage, dialect, .merged⟩).or
          (l.answer ⟨role, name, stage, dialect, .default⟩) := rfl
    rw [split later, split library]
    rcases merged with same | ⟨s, member, fresh, found⟩
    · rw [same]
      -- plain packing counts only where there is no merged snippet
      cases library.answer ⟨role, name, stage, dialect, .merged⟩ with
      | some t => exact .inl rfl
      | none => exact plain
    · exact .inr ⟨s, member, fresh, by rw [found, Option.some_or]⟩

end Library

end ShaderComposition
