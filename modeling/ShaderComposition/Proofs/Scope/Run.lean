import ShaderComposition.Proofs.Scope.Declaring

/-!
# Runs of scope operations

`Run s t` says that operations lead from `s` to `t`, those included that stop at a refused
declaration. What every run keeps is `Coherent`: a name has at most one entry, global or local, and
no entry is a mere change.
-/

namespace ShaderComposition.Scope

variable {s t : Scope} {p q : Parameter} {n : String} {new : Bool}

/-- Every name has one entry at most, and every entry is read or produced. -/
structure Coherent (s : Scope) : Prop where
  distinct : DistinctNames (s.globals ++ s.locals)
  settled : ∀ p ∈ s.globals ++ s.locals, p.qualifier ≠ .inout

theorem Coherent.start (stage : Stage) : Coherent { stage } :=
  ⟨List.nodup_nil, by simp⟩

/-- The entries of another scope are those of this one and a new one. -/
theorem Coherent.insert (hs : s.Coherent) (fresh : s.find? q.name = none)
    (settled : q.qualifier ≠ .inout)
    (entries : (t.globals ++ t.locals).Perm (q :: (s.globals ++ s.locals))) : t.Coherent := by
  constructor
  · refine (entries.map _).nodup_iff.2 (List.nodup_cons.2 ⟨?_, hs.distinct⟩)
    intro member
    obtain ⟨e, he, same⟩ := List.mem_map.1 member
    exact firstNamed_eq_none.1 fresh e he same
  · intro p hp
    rcases List.mem_cons.1 (entries.mem_iff.1 hp) with rfl | old
    · exact settled
    · exact hs.settled p old

theorem Coherent.declare (hs : s.Coherent) (h : s.declare q = .ok (new, t)) : t.Coherent := by
  rcases declare_cases h with ⟨-, rfl, -⟩ | ⟨-, rfl, fresh, settled⟩
  · exact hs
  · refine hs.insert fresh settled ?_
    simp only [List.append_assoc, List.singleton_append]
    exact List.perm_middle

theorem Coherent.declareLocal (hs : s.Coherent) (h : s.declareLocal q = .ok (new, t)) :
    t.Coherent := by
  rcases declareLocal_cases h with ⟨-, rfl, -⟩ | ⟨-, rfl, fresh, settled⟩
  · exact hs
  · refine hs.insert fresh settled ?_
    simp only [← List.append_assoc]
    exact List.perm_append_singleton _ _

/-- What every accepted declaration keeps is kept by a list of them, wherever the list ends. -/
theorem declareAll_induction {motive : Scope → Prop}
    (keeps : ∀ {t u : Scope} {d : Parameter} {new : Bool},
      t.declare d = .ok (new, u) → motive t → motive u)
    (ds : List Parameter) (start : motive s) : motive (s.declareAll ds).1 := by
  induction ds generalizing s with
  | nil => exact start
  | cons d ds ih =>
    cases step : s.declare d with
    | error e => simpa only [declareAll, step] using start
    | ok result =>
      obtain ⟨new, t⟩ := result
      simpa only [declareAll, step] using ih (keeps step start)

theorem Coherent.declareAll (ds : List Parameter) (hs : s.Coherent) :
    (s.declareAll ds).1.Coherent :=
  declareAll_induction (fun step ht => ht.declare step) ds hs

/-- Demoting takes the first global of the name out of its place, or does nothing. -/
theorem demote_cases (s : Scope) (n : String) :
    (s.demote n = s ∧ ∀ p ∈ s.globals, p.name ≠ n) ∨
      ∃ before p after, p.name = n ∧ s.globals = before ++ p :: after ∧
        s.demote n = { s with globals := before ++ after, locals := s.locals ++ [p] } := by
  cases found : s.globals.find? (·.name == n) with
  | none => exact .inl ⟨by simp [demote, demote?, found], firstNamed_eq_none.1 found⟩
  | some p =>
    obtain ⟨same, before, after, split, others⟩ := List.find?_eq_some_iff_append.1 found
    have removed : s.globals.eraseP (·.name == n) = before ++ after := by
      rw [split, List.eraseP_append_right _ (by simpa using others)]
      simp [same]
    exact .inr ⟨before, p, after, by simpa using same, split, by
      simp [demote, demote?, found, removed]⟩

/-- Demoting moves an entry and neither adds nor removes one. -/
theorem demote_perm (s : Scope) (n : String) :
    ((s.demote n).globals ++ (s.demote n).locals).Perm (s.globals ++ s.locals) := by
  rcases demote_cases s n with ⟨same, -⟩ | ⟨before, p, after, -, split, moved⟩
  · rw [same]
  · simp only [moved, split, List.append_assoc, List.cons_append]
    refine List.Perm.append_left before ?_
    rw [← List.append_assoc]
    exact List.perm_append_singleton p _

theorem Coherent.demote (hs : s.Coherent) (n : String) : (s.demote n).Coherent where
  distinct := ((demote_perm s n).map _).nodup_iff.2 hs.distinct
  settled p hp := hs.settled p ((demote_perm s n).mem_iff.1 hp)

/-- Where an entry is kept does not matter when its name is looked up. -/
theorem Coherent.find?_demote (hs : s.Coherent) (name n : String) :
    (s.demote name).find? n = s.find? n :=
  firstNamed_congr (hs.demote name).distinct hs.distinct fun _ => (demote_perm s name).mem_iff

/-- An entry is found under its name, wherever it is kept. -/
theorem Coherent.find?_eq (hs : s.Coherent) (hp : p ∈ s.globals ++ s.locals) :
    s.find? p.name = some p := by
  rw [find?_eq_firstNamed]
  exact (firstNamed_eq_some_iff hs.distinct).2 ⟨hp, rfl⟩

/--
The scopes that operations lead to from a given one. A single declaration that is refused is no step:
it leaves the scope as it is.
-/
inductive Run : Scope → Scope → Prop
  | refl (s : Scope) : Run s s
  | declare {s t u : Scope} {p : Parameter} {new : Bool} :
      Run s t → t.declare p = .ok (new, u) → Run s u
  | declareLocal {s t u : Scope} {p : Parameter} {new : Bool} :
      Run s t → t.declareLocal p = .ok (new, u) → Run s u
  /-- The declarations before a refused one stay. -/
  | declareAll {s t : Scope} (ps : List Parameter) : Run s t → Run s (t.declareAll ps).1
  | demote {s t : Scope} (n : String) : Run s t → Run s (t.demote n)
  /-- The inner scope is the result of a run of its own. -/
  | absorb {s t inner : Scope} {stage : Stage} :
      Run s t → Run { stage } inner → Run s (t.absorb inner).1

theorem absorb_fst (s inner : Scope) : (s.absorb inner).1 = (s.declareAll inner.globals).1 := by
  unfold absorb
  split <;> simp_all

theorem Run.coherent (run : Run s t) (hs : s.Coherent) : t.Coherent := by
  induction run with
  | refl => exact hs
  | declare _ step ih => exact (ih hs).declare step
  | declareLocal _ step ih => exact (ih hs).declareLocal step
  | declareAll ps _ ih => exact (ih hs).declareAll ps
  | demote n _ ih => exact (ih hs).demote n
  | absorb _ _ ih =>
    rw [absorb_fst]
    exact (ih hs).declareAll _

/-- A scope that operations make of an empty one. -/
def Reachable (s : Scope) : Prop :=
  ∃ stage, Run { stage } s

theorem Reachable.coherent : s.Reachable → s.Coherent
  | ⟨stage, run⟩ => run.coherent (.start stage)

/-- An empty scope after declarations, up to the first that is refused. -/
def declaring (stage : Stage) (ds : List Parameter) : Scope :=
  (Scope.declareAll { stage } ds).1

theorem reachable_declaring (stage : Stage) (ds : List Parameter) : (declaring stage ds).Reachable :=
  ⟨stage, .declareAll ds (.refl _)⟩

end ShaderComposition.Scope
