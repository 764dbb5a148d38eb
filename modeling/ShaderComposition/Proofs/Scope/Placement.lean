import ShaderComposition.Catalog.SharedValue
import ShaderComposition.Proofs.Scope.Refusal

/-!
# Where an entry is kept does not matter

A scope keeps an entry as a global or as a local, and demoting moves entries from one to the other and so
changes their order. Nothing of that shows in what becomes of a declaration: two scopes are `Alike` when
every name stands for the same in both, a single declaration keeps them alike and is answered alike
(`Alike.received`), and so are runs of steps that differ in nothing but where values are kept
(`performAll_unplaced`). The reason is that a declaration asks for the entry of its own name only, and that
names are distinct, so moving an entry brings no other one of its name to light.
-/

namespace ShaderComposition.Scope

variable {s t s' t' u : Scope} {p : Parameter} {a b : Except BuildError Bool}

/-- One operation on a scope. -/
inductive Step
  | declare (p : Parameter)
  | declareLocal (p : Parameter)
  | declareAll (ps : List Parameter)
  | demote (name : String)

/-- A step without its say in where values are kept; of a demotion nothing is left. -/
def Step.unplaced? : Step → Option Step
  | .declare p | .declareLocal p => some (.declare p)
  | .declareAll ps => some (.declareAll ps)
  | .demote _ => none

/-- What comes back from a single declaration, or from a list of them. -/
inductive Answer
  | single (new : Except BuildError Bool)
  | list (done : Except BuildError Unit)

/-- The scope after a single declaration, which changes nothing where it is refused. -/
def received (s : Scope) : Except BuildError (Bool × Scope) → Scope × Except BuildError Bool
  | .ok (new, t) => (t, .ok new)
  | .error e => (s, .error e)

/-- Carries out one step. A demotion makes no declaration, so it has no answer. -/
def perform (s : Scope) : Step → Scope × Option Answer
  | .declare p =>
    let (t, new) := s.received (s.declare p)
    (t, some (.single new))
  | .declareLocal p =>
    let (t, new) := s.received (s.declareLocal p)
    (t, some (.single new))
  | .declareAll ps =>
    let (t, done) := s.declareAll ps
    (t, some (.list done))
  | .demote name => (s.demote name, none)

/-- Carries out steps in order, with the answers to the declarations among them. -/
def performAll (s : Scope) : List Step → Scope × List Answer
  | [] => (s, [])
  | step :: rest =>
    let (t, answer) := s.perform step
    let (u, answers) := t.performAll rest
    (u, answer.toList ++ answers)

/-- Two scopes of one stage in which every name stands for the same. -/
structure Alike (s t : Scope) : Prop where
  stage : s.stage = t.stage
  find? : ∀ n, s.find? n = t.find? n

namespace Alike

theorem symm (h : s.Alike t) : t.Alike s :=
  ⟨h.stage.symm, fun n => (h.find? n).symm⟩

theorem trans (first : s.Alike t) (second : t.Alike u) : s.Alike u :=
  ⟨first.stage.trans second.stage, fun n => (first.find? n).trans (second.find? n)⟩

/-- A declaration looks at the entry of its own name and at nothing else. -/
theorem needsEntry (h : s.Alike t) (p : Parameter) : s.needsEntry p = t.needsEntry p := by
  simp only [Scope.needsEntry, satisfies, h.stage, h.find?]

/-- Moving an entry among the locals leaves a scope as it is to whoever looks names up. -/
theorem demote (hs : s.Coherent) (n : String) : (s.demote n).Alike s := by
  refine ⟨?_, hs.find?_demote n⟩
  rcases demote_cases s n with ⟨same, -⟩ | ⟨_, _, _, -, -, moved⟩
  · rw [same]
  · rw [moved]

end Alike

/-! ## One step -/

/-- What a single declaration comes to, be the value kept as a global or as a local. -/
structure Receives (s : Scope) (p : Parameter) (t : Scope) (told : Except BuildError Bool) : Prop where
  verdict : told = s.needsEntry p
  stage : t.stage = s.stage
  find? : ∀ n, t.find? n = (s.find? n).or (told.toOption.bind fun _ => firstNamed [p] n)

theorem receives_declare (s : Scope) (p : Parameter) :
    s.Receives p (s.received (s.declare p)).1 (s.received (s.declare p)).2 := by
  cases step : s.declare p with
  | error e =>
    exact ⟨(declare_eq_error_iff.1 step).symm, rfl, fun n => (Option.or_none ..).symm⟩
  | ok result =>
    obtain ⟨new, t⟩ := result
    refine ⟨?_, declare_stage step, declare_find? step⟩
    rcases declare_cases step with ⟨rfl, -, entry⟩ | ⟨rfl, -, fresh⟩
    · exact (needsEntry_eq_false_iff.2 entry).symm
    · exact (needsEntry_eq_true_iff.2 fresh).symm

theorem receives_declareLocal (s : Scope) (p : Parameter) :
    s.Receives p (s.received (s.declareLocal p)).1 (s.received (s.declareLocal p)).2 := by
  cases step : s.declareLocal p with
  | error e =>
    exact ⟨(declareLocal_eq_error_iff.1 step).symm, rfl, fun n => (Option.or_none ..).symm⟩
  | ok result =>
    obtain ⟨new, t⟩ := result
    have find := declareLocal_find? step
    rcases declareLocal_cases step with ⟨rfl, rfl, entry⟩ | ⟨rfl, rfl, fresh⟩
    · exact ⟨(needsEntry_eq_false_iff.2 entry).symm, rfl, find⟩
    · exact ⟨(needsEntry_eq_true_iff.2 fresh).symm, rfl, find⟩

/-- Alike scopes say the same to a declaration and are alike after it. -/
theorem Alike.received (h : s.Alike t) (hs : s.Receives p s' a) (ht : t.Receives p t' b) :
    a = b ∧ s'.Alike t' := by
  have same : a = b := by rw [hs.verdict, ht.verdict, h.needsEntry p]
  refine ⟨same, ?_, fun n => ?_⟩
  · rw [hs.stage, ht.stage, h.stage]
  · rw [hs.find?, ht.find?, h.find?, same]

/-- Alike scopes get through a list up to the same declaration. -/
theorem Alike.declareAll (h : s.Alike t) (ps : List Parameter) :
    (s.declareAll ps).2 = (t.declareAll ps).2 ∧ (s.declareAll ps).1.Alike (t.declareAll ps).1 := by
  induction ps generalizing s t with
  | nil => exact ⟨rfl, h⟩
  | cons p ps ih =>
    obtain ⟨same, after⟩ := h.received (receives_declare s p) (receives_declare t p)
    cases hs : s.declare p with
    | error e =>
      cases ht : t.declare p with
      | error f =>
        simp only [hs, ht, Scope.received] at same after
        simp only [Scope.declareAll, hs, ht]
        exact ⟨by rw [Except.error.inj same], after⟩
      | ok _ => simp [hs, ht, Scope.received] at same
    | ok result =>
      cases ht : t.declare p with
      | error f => simp [hs, ht, Scope.received] at same
      | ok result' =>
        simp only [hs, ht, Scope.received] at after
        simp only [Scope.declareAll, hs, ht]
        exact ih after

/-- Each step is answered as it would be without its say in where values are kept. -/
theorem Alike.perform (h : s.Alike t) {step plain : Step} (asked : step.unplaced? = some plain) :
    (s.perform step).2 = (t.perform plain).2 ∧
      (s.perform step).1.Alike (t.perform plain).1 := by
  cases step with
  | declare p =>
    cases asked
    obtain ⟨same, after⟩ := h.received (receives_declare s p) (receives_declare t p)
    exact ⟨congrArg (fun new => some (Answer.single new)) same, after⟩
  | declareLocal p =>
    cases asked
    obtain ⟨same, after⟩ := h.received (receives_declareLocal s p) (receives_declare t p)
    exact ⟨congrArg (fun new => some (Answer.single new)) same, after⟩
  | declareAll ps =>
    cases asked
    obtain ⟨same, after⟩ := h.declareAll ps
    exact ⟨congrArg (fun done => some (Answer.list done)) same, after⟩
  | demote n => cases asked

theorem Coherent.perform (hs : s.Coherent) (step : Step) : (s.perform step).1.Coherent := by
  cases step with
  | declare p =>
    show (s.received (s.declare p)).1.Coherent
    cases result : s.declare p with
    | error e => exact hs
    | ok after => exact hs.declare result
  | declareLocal p =>
    show (s.received (s.declareLocal p)).1.Coherent
    cases result : s.declareLocal p with
    | error e => exact hs
    | ok after => exact hs.declareLocal result
  | declareAll ps => exact hs.declareAll ps
  | demote n => exact hs.demote n

/-! ## Runs of steps -/

/-- A run of steps is answered as the run without demotions in which every value becomes a global. -/
theorem performAll_unplaced (hs : s.Coherent) (h : s.Alike t) (steps : List Step) :
    (s.performAll steps).2 = (t.performAll (steps.filterMap Step.unplaced?)).2 ∧
      (s.performAll steps).1.Alike (t.performAll (steps.filterMap Step.unplaced?)).1 := by
  induction steps generalizing s t with
  | nil => exact ⟨rfl, h⟩
  | cons step rest ih =>
    cases asked : step.unplaced? with
    | none =>
      rw [List.filterMap_cons_none asked]
      cases step with
      | demote n => exact ih (hs.demote n) ((Alike.demote hs n).trans h)
      | declare p => cases asked
      | declareLocal p => cases asked
      | declareAll ps => cases asked
    | some plain =>
      rw [List.filterMap_cons_some asked]
      obtain ⟨same, after⟩ := h.perform asked
      obtain ⟨sameRest, final⟩ := ih (hs.perform step) after
      refine ⟨?_, final⟩
      simp only [performAll, same, sameRest]

/--
Where values are kept never changes what is accepted. Take two scopes of one stage that operations make of
empty ones, in which every name stands for the same, and two runs of steps with the same declarations, which
may differ in whether a single value is declared as a global or as a local and in what is demoted when. Then
every declaration is answered the same in both, refusals included, and every name stands for the same
afterwards.
-/
theorem Reachable.performAll_of_alike (hs : s.Reachable) (ht : t.Reachable) (h : s.Alike t)
    {steps others : List Step}
    (same : steps.filterMap Step.unplaced? = others.filterMap Step.unplaced?) :
    (s.performAll steps).2 = (t.performAll others).2 ∧
      (s.performAll steps).1.Alike (t.performAll others).1 := by
  obtain ⟨answers, final⟩ := performAll_unplaced hs.coherent h steps
  obtain ⟨answers', final'⟩ := performAll_unplaced ht.coherent ⟨rfl, fun _ => rfl⟩ others
  rw [same] at answers final
  exact ⟨answers.trans answers'.symm, final.trans final'.symm⟩

/--
A result is kept inside the block in one scope and handed out by the other, and the other way round for the
gloss that comes later; both refuse the list at the production of what was read, and name the same reader.
-/
theorem performAll_of_demoted_color :
    let color := Catalog.producedBy SharedValue.diffuseColor "light"
    let albedo := Catalog.readBy SharedValue.albedo "light"
    let gloss := Catalog.producedBy SharedValue.specular "gloss"
    let late := Catalog.producedBy SharedValue.albedo "gloss"
    let change := (Catalog.readBy SharedValue.specular "polish").withQualifier .inout
    let s := declaring .fragment [color, albedo]
    let t := s.demote color.name
    let steps := [.declareLocal gloss, .demote albedo.name, .declareAll [color, late, change], .declare change]
    let others := [.declare gloss, .declareAll [color, late, change], .demote color.name, .declareLocal change]
    s.Reachable ∧ t.Reachable ∧ s.Alike t ∧
      steps.filterMap Step.unplaced? = others.filterMap Step.unplaced? ∧
      (s.performAll steps).2 = (t.performAll others).2 ∧
      (s.performAll steps).1.Alike (t.performAll others).1 ∧
      (t.performAll others).2 = [.single (.ok true),
        .list (.error (.parameterConflict .fragment .qualifier albedo late)), .single (.ok false)] ∧
      (s.performAll steps).1.globals = [color] ∧ (t.performAll others).1.globals = [albedo, gloss] := by
  intro color albedo gloss late change s t steps others
  have reachable : s.Reachable := reachable_declaring .fragment [color, albedo]
  have demoted : t.Reachable := ⟨.fragment, .demote _ (.declareAll _ (.refl _))⟩
  have alike : s.Alike t := (Alike.demote reachable.coherent color.name).symm
  have same : steps.filterMap Step.unplaced? = others.filterMap Step.unplaced? := rfl
  obtain ⟨answers, final⟩ := reachable.performAll_of_alike demoted alike same
  exact ⟨reachable, demoted, alike, same, answers, final, rfl, rfl, rfl⟩

end ShaderComposition.Scope
