import ShaderComposition.Catalog.SharedValue
import ShaderComposition.Proofs.Scope.Merging

/-!
# Absorbing a scope and declaring its list

An inner scope keeps the first declaration of each name that it took and covers the others by it. So
once a list has passed an inner scope, it makes no difference to an outer one whether the inner scope is
absorbed or the list itself is declared, even where a declaration is refused (`declareAll_globals`): a
declaration that the inner scope held back is covered by what covers the entry in front of it.
-/

namespace ShaderComposition.Scope

variable {s t inner passed : Scope} {stage : Stage} {c : Parameter} {cs : List Parameter}
  {new : Bool} {kept : List Parameter}

/-- What a declared list covers already can be declared once more to no effect. -/
theorem declare_of_covered {d : Parameter} (declared : s.declareAll cs = (t, .ok ())) (among : d ∈ cs)
    (name : d.name = c.name) (covers : d.Covers c) : t.declare c = .ok (false, t) := by
  obtain ⟨e, found, first⟩ := extend_covers (extend_eq_ok_iff.2 declared) among
  have held : t.needsEntry c = .ok false :=
    needsEntry_eq_false_iff.2 ⟨e, name ▸ found, first.trans covers⟩
  simp only [declare, held]

/--
An inner scope without locals goes on to take a list, and an outer scope has absorbed what the inner one
held before. Then the outer scope makes of the list what it makes of all that the inner scope holds.
-/
theorem declareAll_globals_of_absorbed (taken : inner.declareAll cs = (passed, .ok ()))
    (noLocals : inner.locals = []) (absorbed : s.declareAll inner.globals = (t, .ok ())) :
    s.declareAll passed.globals = t.declareAll cs := by
  induction cs generalizing inner t with
  | nil =>
    cases taken
    exact absorbed
  | cons c cs ih =>
    rw [declareAll] at taken
    cases step : inner.declare c with
    | error e => simp [step] at taken
    | ok result =>
      obtain ⟨new, next⟩ := result
      simp only [step] at taken
      rcases declare_cases step with ⟨-, rfl, e, found, covers⟩ | ⟨-, rfl, -⟩
      · -- the inner scope holds the declaration back, and the outer one is past it
        rw [find?_eq_firstNamed, noLocals, List.append_nil] at found
        have past := declare_of_covered absorbed (mem_of_firstNamed found)
          (name_of_firstNamed found) covers
        rw [ih taken noLocals absorbed, declareAll, past]
      · cases here : t.declare c with
        | ok result =>
          obtain ⟨new, t'⟩ := result
          have further : s.declareAll (inner.globals ++ [c]) = (t', .ok ()) := by
            rw [declareAll_append absorbed]
            simp only [declareAll, here]
          rw [ih taken noLocals further, declareAll, here]
        | error refusal =>
          -- both lists go on with this declaration and end at it
          have front := globals_prefix_declareAll { inner with globals := inner.globals ++ [c] } cs
          rw [taken] at front
          obtain ⟨rest, split⟩ := front
          rw [← split, List.append_assoc, declareAll_append absorbed, List.singleton_append,
            declareAll, declareAll, here]

/-- A list that an empty scope took can be declared through what it left there. -/
theorem declareAll_globals (taken : declareAll { stage } cs = (inner, .ok ())) (s : Scope) :
    s.declareAll inner.globals = s.declareAll cs :=
  declareAll_globals_of_absorbed taken rfl rfl

/--
Once an empty scope took a list, absorbing that scope comes to the same as declaring the list: both go
well or neither does, the scope is the same afterwards, and there are no locals to hand back.
-/
theorem absorb_eq_ok_iff_declareAll (taken : declareAll { stage } cs = (inner, .ok ())) :
    s.absorb inner = (t, .ok kept) ↔ kept = [] ∧ s.declareAll cs = (t, .ok ()) := by
  have noLocals : inner.locals = [] := extend_locals (extend_eq_ok_iff.2 taken)
  rw [absorb, declareAll_globals taken, noLocals]
  obtain ⟨u, outcome⟩ := s.declareAll cs
  cases outcome with
  | ok _ => simp [and_comm, eq_comm]
  | error e => simp

/--
A block reads what an outer scope produces, twice, and changes a value of its own: the outer scope gets
the new names in their order, whether it absorbs the block or declares its list.
-/
theorem absorb_specular_as_list :
    let color := Catalog.producedBy SharedValue.diffuseColor "light"
    let s := (declaring .fragment [color, Catalog.producedBy SharedValue.albedo "mapping"]).demote
      color.name
    let cs := [Catalog.readBy SharedValue.albedo "block", Catalog.producedBy SharedValue.specular "block",
      (Catalog.readBy SharedValue.specular "gloss").withQualifier .inout,
      Catalog.readBy SharedValue.albedo "gloss", Catalog.readBy SharedValue.emission "gloss"]
    let inner := declaring .fragment cs
    let t := (s.absorb inner).1
    s.Reachable ∧ declareAll { stage := .fragment } cs = (inner, .ok ()) ∧
      s.absorb inner = (t, .ok []) ∧ s.declareAll cs = (t, .ok ()) ∧
      t.globals.map (·.name) = ["albedo", "specular", "emission"] ∧ t.locals = [color] := by
  intro color s cs inner t
  have reachable : s.Reachable := ⟨.fragment, .demote _ (.declareAll _ (.refl _))⟩
  have taken : declareAll { stage := .fragment } cs = (inner, .ok ()) := rfl
  have absorbed : s.absorb inner = (t, .ok []) := rfl
  obtain ⟨-, flat⟩ := (absorb_eq_ok_iff_declareAll taken).1 absorbed
  exact ⟨reachable, taken, absorbed, flat, by decide, by decide⟩

end ShaderComposition.Scope
