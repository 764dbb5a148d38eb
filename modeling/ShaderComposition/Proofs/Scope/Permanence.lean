import ShaderComposition.Catalog.SharedValue
import ShaderComposition.Proofs.Scope.Run

/-!
# Entries are permanent

No operation takes an entry back: what a name stands for once, it stands for ever after, wherever the
entry is kept. `Keeps` says this of two scopes, each operation keeps the entries of the scope that it
starts from, and so does every run (`Run.keeps`). Demoting is the one operation that reorders entries,
and it keeps them because names are distinct.
-/

namespace ShaderComposition.Scope

variable {s t u : Scope} {q : Parameter} {new : Bool}

/-- Every entry of the one scope is found under its name in the other. -/
def Keeps (s t : Scope) : Prop :=
  ∀ n e, s.find? n = some e → t.find? n = some e

namespace Keeps

theorem refl (s : Scope) : s.Keeps s :=
  fun _ _ found => found

theorem trans (first : s.Keeps t) (second : t.Keeps u) : s.Keeps u :=
  fun n e found => second n e (first n e found)

/-- Entries are kept where names are only looked up further once there is no entry. -/
theorem of_find?_or {more : String → Option Parameter}
    (looked : ∀ n, t.find? n = (s.find? n).or (more n)) : s.Keeps t := by
  intro n e found
  rw [looked, found, Option.some_or]

theorem declare (h : s.declare q = .ok (new, t)) : s.Keeps t :=
  .of_find?_or (declare_find? h)

theorem declareLocal (h : s.declareLocal q = .ok (new, t)) : s.Keeps t :=
  .of_find?_or (declareLocal_find? h)

/-- The declarations before a refused one keep the entries, and the others are not made. -/
theorem declareAll (s : Scope) (ds : List Parameter) : s.Keeps (s.declareAll ds).1 :=
  declareAll_induction (motive := s.Keeps) (fun step kept => kept.trans (.declare step)) ds (.refl s)

theorem demote (hs : s.Coherent) (n : String) : s.Keeps (s.demote n) := by
  intro name e found
  -- the entry moves behind all others, so a second one of its name would come to light
  rw [hs.find?_demote, found]

theorem absorb (s inner : Scope) : s.Keeps (s.absorb inner).1 := by
  rw [absorb_fst]
  exact .declareAll s inner.globals

end Keeps

/-- A run keeps the entries of the scope that it starts from. -/
theorem Run.keeps (run : Run s t) (hs : s.Coherent) : s.Keeps t := by
  induction run with
  | refl => exact .refl _
  | declare _ step ih => exact (ih hs).trans (.declare step)
  | declareLocal _ step ih => exact (ih hs).trans (.declareLocal step)
  | declareAll ps _ ih => exact (ih hs).trans (.declareAll _ ps)
  | demote n run ih => exact (ih hs).trans (.demote (run.coherent hs) n)
  | absorb _ _ ih => exact (ih hs).trans (.absorb _ _)

/--
In a scope that operations make of an empty one, a name has one entry at most, global or local, no
entry is a mere change, and whatever operations follow, every entry stays what its name stands for.
-/
theorem Reachable.one_lasting_entry (hs : s.Reachable) :
    DistinctNames (s.globals ++ s.locals) ∧
      (∀ p ∈ s.globals ++ s.locals, p.qualifier ≠ .inout) ∧
      ∀ t, Run s t → s.Keeps t :=
  ⟨hs.coherent.distinct, hs.coherent.settled, fun _ run => run.keeps hs.coherent⟩

/-- A result that was demoted is still found after a block was absorbed up to a refused declaration. -/
theorem demoted_color_lasts :
    let color := Catalog.producedBy SharedValue.diffuseColor "light"
    let s := (declaring .fragment [color, Catalog.readBy SharedValue.albedo "light"]).demote color.name
    let inner := declaring .fragment
      [Catalog.readBy SharedValue.emission "block", Catalog.producedBy SharedValue.albedo "block"]
    s.Reachable ∧ (s.absorb inner).2.isOk = false ∧
      (s.absorb inner).1.globals.map (·.name) = ["albedo", "emission"] ∧
      DistinctNames (s.globals ++ s.locals) ∧ (s.absorb inner).1.find? color.name = some color := by
  intro color s inner
  have reachable : s.Reachable := ⟨.fragment, .demote _ (.declareAll _ (.refl _))⟩
  obtain ⟨distinct, -, lasts⟩ := reachable.one_lasting_entry
  have run : Run s (s.absorb inner).1 := .absorb (.refl s) (.declareAll _ (.refl _))
  exact ⟨reachable, by decide, by decide, distinct, lasts _ run _ _ (by decide)⟩

end ShaderComposition.Scope
