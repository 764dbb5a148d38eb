import ShaderComposition.Composition.LightBlock
import ShaderComposition.Proofs.Scope.Extending

/-!
# What a light block declares

A light block keeps its scratch values and the results of the light snippet to itself. Whatever else
it reads and produces reaches the stage around it: the globals of its scope are a summary of those
declarations (`scope_summarizes`).
-/

namespace ShaderComposition

open Vocabulary (spelling)

namespace Scope

variable {s : Scope} {e : Parameter} {n : String}

theorem demote_globals (he : e ∈ (s.demote n).globals) : e ∈ s.globals := by
  rcases demote_cases s n with ⟨same, -⟩ | ⟨before, p, after, -, split, moved⟩
  · exact same ▸ he
  · rw [moved] at he
    rw [split]
    rcases List.mem_append.1 he with front | back
    · exact List.mem_append_left _ front
    · exact List.mem_append_right _ (List.mem_cons_of_mem _ back)

theorem demote_locals (he : e ∈ (s.demote n).locals) : e ∈ s.locals ∨ e.name = n := by
  rcases demote_cases s n with ⟨same, -⟩ | ⟨before, p, after, name, -, moved⟩
  · exact .inl (same ▸ he)
  · rw [moved] at he
    rcases List.mem_append.1 he with old | demoted
    · exact .inl old
    · exact .inr (List.mem_singleton.1 demoted ▸ name)

theorem subset_demote_locals (he : e ∈ s.locals) : e ∈ (s.demote n).locals := by
  rcases demote_cases s n with ⟨same, -⟩ | ⟨before, p, after, -, -, moved⟩
  · exact same.symm ▸ he
  · rw [moved]
    exact List.mem_append_left _ he

/-- No global of the name is left. -/
theorem Coherent.demoted (hs : s.Coherent) (he : e ∈ (s.demote n).globals) : e.name ≠ n := by
  rcases demote_cases s n with ⟨same, none⟩ | ⟨before, p, after, rfl, -, moved⟩
  · exact none e (same ▸ he)
  · have apart := (hs.demote p.name).distinct.apart he (e := p)
    exact apart (by simp [moved])

/-- Moves the globals of several names to the locals. -/
def demoteAll (s : Scope) (names : List String) : Scope :=
  names.foldl demote s

theorem Coherent.find?_demoteAll (hs : s.Coherent) (names : List String) :
    (s.demoteAll names).find? n = s.find? n := by
  induction names generalizing s with
  | nil => rfl
  | cons name names ih => exact (ih (hs.demote name)).trans (hs.find?_demote name n)

theorem subset_demoteAll_locals (names : List String) (he : e ∈ s.locals) :
    e ∈ (s.demoteAll names).locals := by
  induction names generalizing s with
  | nil => exact he
  | cons name names ih => exact ih (subset_demote_locals he)

theorem demoteAll_locals {names : List String} (he : e ∈ (s.demoteAll names).locals) :
    e ∈ s.locals ∨ e.name ∈ names := by
  induction names generalizing s with
  | nil => exact .inl he
  | cons name names ih =>
    rcases ih he with old | listed
    · exact (demote_locals old).imp_right fun same => by simp [same]
    · exact .inr (List.mem_cons_of_mem _ listed)

theorem Coherent.demoteAll_globals (hs : s.Coherent) {names : List String}
    (he : e ∈ (s.demoteAll names).globals) : e ∈ s.globals ∧ e.name ∉ names := by
  induction names generalizing s with
  | nil => exact ⟨he, List.not_mem_nil⟩
  | cons name names ih =>
    obtain ⟨left, other⟩ := ih (hs.demote name) he
    refine ⟨demote_globals left, ?_⟩
    simp [hs.demoted left, other]

theorem Run.demoteAll {t : Scope} (run : Run s t) (names : List String) : Run s (t.demoteAll names) := by
  induction names generalizing t with
  | nil => exact run
  | cons name names ih => exact ih (.demote name run)

end Scope

namespace LightBlock

variable {b : LightBlock} {s : Scope}

/-- The names of the results of a light snippet. -/
def resultNames : List String :=
  results.map spelling

/-- The block keeps what it declares for itself and the results of the light snippet. -/
def keeps (b : LightBlock) (n : String) : Bool :=
  b.scratch.any (·.name == n) || resultNames.contains n

/-- What the block declares for the stage around it, in order. -/
def declarations (b : LightBlock) : List Parameter :=
  (b.inputs ++ b.light.parameters ++ b.outputs).filter fun d => !b.keeps d.name

theorem scope_eq_ok_iff :
    b.scope = .ok s ↔ ∃ own lit, Scope.extendLocals { stage := b.stage } b.scratch = .ok own ∧
      own.extend (b.inputs ++ b.light.parameters) = .ok lit ∧
      (lit.demoteAll resultNames).extend b.outputs = .ok s := by
  have fold (lit : Scope) :
      results.foldl (fun s v => s.demote (spelling v)) lit = lit.demoteAll resultNames := by
    simp [Scope.demoteAll, resultNames, List.foldl_map]
  simp only [scope, bind_eq_ok_iff, fold, exists_and_left]

theorem scope_run (h : b.scope = .ok s) : Scope.Run { stage := b.stage } s := by
  obtain ⟨own, lit, first, second, third⟩ := scope_eq_ok_iff.1 h
  exact (((Scope.Run.refl _).extendLocals first).extend second |>.demoteAll _).extend third

theorem scope_coherent (h : b.scope = .ok s) : s.Coherent :=
  (scope_run h).coherent (.start _)

/-- On the way lie two scopes: one of scratch values, and one in which the light snippet has run. -/
theorem scope_steps (h : b.scope = .ok s) :
    ∃ own lit, own.Coherent ∧ lit.Coherent ∧
      Scope.extendLocals { stage := b.stage } b.scratch = .ok own ∧
      own.extend (b.inputs ++ b.light.parameters) = .ok lit ∧
      (lit.demoteAll resultNames).extend b.outputs = .ok s := by
  obtain ⟨own, lit, first, second, third⟩ := scope_eq_ok_iff.1 h
  have start := (Scope.Run.refl { stage := b.stage }).extendLocals first
  exact ⟨own, lit, start.coherent (.start _), (start.extend second).coherent (.start _), first,
    second, third⟩

/-- Whatever the block is asked to declare, a name stands for its first declaration. -/
theorem scope_find? (h : b.scope = .ok s) (n : String) :
    s.find? n = (firstNamed b.scratch n).or
      (firstNamed (b.inputs ++ b.light.parameters ++ b.outputs) n) := by
  obtain ⟨own, lit, -, coherent, first, second, third⟩ := scope_steps h
  rw [Scope.extend_find? third, coherent.find?_demoteAll, Scope.extend_find? second,
    Scope.extendLocals_find? first, Scope.find?_start, Option.none_or, Option.or_assoc,
    ← firstNamed_append]

theorem scope_covers (h : b.scope = .ok s) {d : Parameter}
    (hd : d ∈ b.inputs ++ b.light.parameters ++ b.outputs) :
    ∃ e, s.find? d.name = some e ∧ e.Covers d := by
  obtain ⟨own, lit, -, coherent, first, second, third⟩ := scope_steps h
  rcases List.mem_append.1 hd with before | output
  · obtain ⟨e, found, covers⟩ := Scope.extend_covers second before
    refine ⟨e, ?_, covers⟩
    simp [Scope.extend_find? third, coherent.find?_demoteAll, found]
  · exact Scope.extend_covers third output

/-- The names of scratch values and of results stay inside the block. -/
theorem keeps_iff {n : String} :
    b.keeps n = true ↔ (∃ d ∈ b.scratch, d.name = n) ∨ n ∈ resultNames := by
  simp [keeps]

theorem scope_locals (h : b.scope = .ok s) {e : Parameter} (he : e ∈ s.locals) :
    b.keeps e.name = true := by
  obtain ⟨own, lit, coherent, -, first, second, third⟩ := scope_steps h
  rw [Scope.extend_locals third] at he
  rw [keeps_iff]
  refine (Scope.demoteAll_locals he).imp_left fun scratch => ?_
  rw [Scope.extend_locals second] at scratch
  have found : own.find? e.name = some e := coherent.find?_eq (List.mem_append_right _ scratch)
  rw [Scope.extendLocals_find? first, Scope.find?_start, Option.none_or] at found
  exact ⟨e, mem_of_firstNamed found, rfl⟩

theorem scope_globals (apart : ∀ d ∈ b.outputs, d.name ∉ resultNames) (h : b.scope = .ok s)
    {e : Parameter} (he : e ∈ s.globals) : b.keeps e.name = false := by
  have distinct := (scope_coherent h).distinct
  obtain ⟨own, lit, -, coherent, first, second, third⟩ := scope_steps h
  rw [Bool.eq_false_iff, ne_eq, keeps_iff]
  rintro (⟨d, hd, same⟩ | result)
  · -- a scratch value of the name is a local, and locals have names of their own
    obtain ⟨x, found⟩ := exists_firstNamed hd
    have scratch : x ∈ own.locals := by
      have here : own.find? d.name = some x := by
        rw [Scope.extendLocals_find? first, Scope.find?_start, Option.none_or, found]
      simpa [Scope.extendLocals_globals first] using mem_of_firstNamed here
    have kept : x ∈ s.locals := by
      rw [Scope.extend_locals third]
      exact Scope.subset_demoteAll_locals _ (Scope.extend_locals second ▸ scratch)
    exact distinct.apart he kept (same.symm.trans (name_of_firstNamed found).symm)
  · rcases Scope.extend_globals third he with inner | output
    · exact (coherent.demoteAll_globals inner).2 result
    · exact apart e output result

/-- The entry of a name that the block keeps is a local. -/
theorem mem_locals_of_keeps (apart : ∀ d ∈ b.outputs, d.name ∉ resultNames) (h : b.scope = .ok s)
    {n : String} {e : Parameter} (kept : b.keeps n = true) (found : s.find? n = some e) :
    e ∈ s.locals ∧ e.name = n := by
  rw [Scope.find?_eq_firstNamed] at found
  have name := name_of_firstNamed found
  rcases List.mem_append.1 (mem_of_firstNamed found) with global | inner
  · have handed := scope_globals apart h global
    rw [name, kept] at handed
    cases handed
  · exact ⟨inner, name⟩

/-- What the block keeps of all that it is asked to declare are the names of its locals. -/
theorem keeps_iff_local (apart : ∀ d ∈ b.outputs, d.name ∉ resultNames) (h : b.scope = .ok s)
    {d : Parameter} (hd : d ∈ b.inputs ++ b.light.parameters ++ b.outputs) :
    b.keeps d.name = true ↔ ∃ e ∈ s.locals, e.name = d.name := by
  constructor
  · intro kept
    obtain ⟨e, found, -⟩ := scope_covers h hd
    exact ⟨e, mem_locals_of_keeps apart h kept found⟩
  · rintro ⟨e, he, same⟩
    exact same ▸ scope_locals h he

/-- Every scratch value has a local of its name. -/
theorem exists_local_of_scratch (apart : ∀ d ∈ b.outputs, d.name ∉ resultNames)
    (h : b.scope = .ok s) {d : Parameter} (hd : d ∈ b.scratch) : ∃ e ∈ s.locals, e.name = d.name := by
  obtain ⟨x, first⟩ := exists_firstNamed hd
  have found : s.find? d.name = some x := by
    rw [scope_find? h, first, Option.some_or]
  exact ⟨x, mem_locals_of_keeps apart h (keeps_iff.2 (.inl ⟨d, hd, rfl⟩)) found⟩

/-- The globals of the block stand for its declarations. -/
theorem scope_summarizes (apart : ∀ d ∈ b.outputs, d.name ∉ resultNames) (h : b.scope = .ok s) :
    Summarizes s.globals b.declarations := by
  have inside (n : String) : firstNamed s.globals n = if b.keeps n then none else s.find? n := by
    split
    next kept =>
      refine firstNamed_eq_none.2 fun e he same => ?_
      simp [← same, scope_globals apart h he] at kept
    next open_ =>
      have noLocal : firstNamed s.locals n = none :=
        firstNamed_eq_none.2 fun e he same => open_ (same ▸ scope_locals h he)
      rw [Scope.find?_eq_firstNamed, firstNamed_append, noLocal, Option.or_none]
  have first (n : String) : firstNamed s.globals n = firstNamed b.declarations n := by
    rw [inside, declarations, firstNamed_filter fun n => !b.keeps n, scope_find? h]
    cases kept : b.keeps n with
    | true => rfl
    | false =>
      have noScratch : firstNamed b.scratch n = none := by
        refine firstNamed_eq_none.2 fun d hd same => ?_
        simp [keeps_iff.2 (.inl ⟨d, hd, same⟩)] at kept
      simp [noScratch]
  refine ⟨first, fun d hd => ?_⟩
  obtain ⟨hd, outside⟩ := List.mem_filter.1 hd
  obtain ⟨e, found, covers⟩ := scope_covers h hd
  have entry : firstNamed s.globals d.name = some e := by
    rw [inside, found]
    simpa using outside
  exact ⟨e, mem_of_firstNamed entry, name_of_firstNamed entry, covers⟩

end LightBlock

end ShaderComposition
