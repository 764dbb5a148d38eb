import ShaderComposition.Proofs.Program.Dependence

/-!
# Stale derived features

A permutation may come with derived features that were worked out before, for other snippets or by
hand. Deriving starts by clearing them, so what it leads to depends on the plain permutation alone
(`Library.derived_of_plain`), and it leaves the plain permutation as it is
(`Permutation.plain_deriveFeatures`): all other bits of the features are kept, those without a name
included.
-/

namespace ShaderComposition

namespace Features

variable {s t : Features} {f : Feature} {on : Bool}

theorem ext_getLsbD (same : ∀ i, s.bits.getLsbD i = t.bits.getLsbD i) : s = t :=
  Features.ext (BitVec.eq_of_getLsbD_eq fun i _ => same i)

theorem getLsbD_without (s t : Features) (i : Nat) :
    (s.without t).bits.getLsbD i = (s.bits.getLsbD i && !t.bits.getLsbD i) := by
  rw [without, BitVec.getLsbD_and, BitVec.getLsbD_not]
  by_cases inside : i < 32
  · rw [decide_eq_true inside, Bool.true_and]
  · rw [BitVec.getLsbD_of_ge s.bits i (Nat.le_of_not_lt inside), Bool.false_and, Bool.false_and]

/-- Switching a feature decides on its bit, and on no other bit. -/
theorem getLsbD_set (s : Features) (f : Feature) (on : Bool) (i : Nat) :
    (s.set f on).bits.getLsbD i = if i = f.bit then on else s.bits.getLsbD i := by
  have bit : (only f).bits.getLsbD i = decide (i = f.bit) := by
    rw [only, BitVec.getLsbD_twoPow, decide_eq_true f.bit_lt, Bool.true_and]
    exact decide_eq_decide.2 eq_comm
  cases on with
  | true =>
    show (s.bits ||| (only f).bits).getLsbD i = _
    rw [BitVec.getLsbD_or, bit]
    by_cases same : i = f.bit <;> simp [same]
  | false =>
    show (s.without (only f)).bits.getLsbD i = _
    rw [getLsbD_without, bit]
    by_cases same : i = f.bit <;> simp [same]

/-- What is taken out afterwards may have been switched on or off. -/
theorem without_set (covered : t.has f = true) : (s.set f on).without t = s.without t := by
  have covered : t.bits.getLsbD f.bit = true := covered
  refine ext_getLsbD fun i => ?_
  rw [getLsbD_without, getLsbD_without, getLsbD_set]
  split
  next same => rw [same, covered, Bool.not_true, Bool.and_false, Bool.and_false]
  next => rfl

theorem without_without (s t : Features) : (s.without t).without t = s.without t := by
  refine ext_getLsbD fun i => ?_
  rw [getLsbD_without, getLsbD_without, Bool.and_assoc, Bool.and_self]

/-- The rest is the same just where all bits are that are not taken out. -/
theorem without_eq_iff {u : Features} : s.without u = t.without u ↔
    ∀ i, u.bits.getLsbD i = false → s.bits.getLsbD i = t.bits.getLsbD i := by
  constructor
  · intro same i outside
    have bit := congrArg (fun r : Features => r.bits.getLsbD i) same
    simpa only [getLsbD_without, outside, Bool.not_false, Bool.and_true] using bit
  · intro alike
    refine ext_getLsbD fun i => ?_
    rw [getLsbD_without, getLsbD_without]
    cases outside : u.bits.getLsbD i with
    | true => rw [Bool.not_true, Bool.and_false, Bool.and_false]
    | false => rw [alike i outside]

end Features

namespace Permutation

variable {select : Selection} {p q : Permutation} {f : Feature} {value : SharedValue}
  {ds : List (Feature × SharedValue)}

/-- Two permutations differ in nothing but bits of derived features. -/
structure AgreeButDerived (p q : Permutation) : Prop where
  rest : ∃ features, q = { p with features }
  bits : ∀ i, Features.derived.bits.getLsbD i = false →
    q.features.bits.getLsbD i = p.features.bits.getLsbD i

theorem agreeButDerived_iff : p.AgreeButDerived q ↔ q.plain = p.plain := by
  constructor
  · rintro ⟨⟨features, rfl⟩, bits⟩
    have same : features.without .derived = p.features.without .derived :=
      Features.without_eq_iff.2 bits
    simp only [plain, same]
  · intro same
    refine ⟨⟨q.features, ?_⟩, Features.without_eq_iff.1 (congrArg Permutation.features same)⟩
    calc q
      _ = { q.plain with features := q.features } := rfl
      _ = { p.plain with features := q.features } := by rw [same]
      _ = { p with features := q.features } := rfl

/-! ## Deriving leaves the plain permutation as it is -/

theorem has_derived (derived : f ∈ derivedFeatures) : Features.derived.has f = true := by
  revert derived
  cases f <;> decide

theorem plain_plain (p : Permutation) : p.plain.plain = p.plain := by
  simp only [plain, Features.without_without]

theorem plain_derive (p : Permutation) (derived : f ∈ derivedFeatures) :
    (p.derive select f value).plain = p.plain := by
  simp only [plain, derive, Features.without_set (has_derived derived)]

/-- Every step of a derivation sees the features that it has to leave alone. -/
theorem plain_deriveAll (p : Permutation) (hds : ∀ d ∈ ds, d.1 ∈ derivedFeatures) :
    (p.deriveAll select ds).plain = p.plain := by
  induction ds generalizing p with
  | nil => rfl
  | cons d ds ih =>
    obtain ⟨f, value⟩ := d
    have first : f ∈ derivedFeatures := hds _ List.mem_cons_self
    rw [deriveAll_cons, ih _ fun d hd => hds d (List.mem_cons_of_mem _ hd), plain_derive p first]

theorem plain_forceNormal (p : Permutation) : p.forceNormal.plain = p.plain := by
  unfold forceNormal
  split
  · have normal : Feature.normal ∈ derivedFeatures := by decide
    have kept : (p.features.set .normal true).without .derived = p.features.without .derived :=
      Features.without_set (has_derived normal)
    exact congrArg (fun features => { p with features }) kept
  · rfl

theorem plain_deriveFeatures (select : Selection) (p : Permutation) :
    (p.deriveFeatures select).plain = p.plain := by
  rw [deriveFeatures_eq, plain_forceNormal, plain_deriveAll _ fun _ => mem_derivedFeatures, plain_plain]

end Permutation

namespace Library

variable {library : Library} {settings : Settings} {p q : Permutation}

theorem select_plain (library : Library) (p : Permutation) : library.select p.plain = library.select p :=
  rfl

/-- What is derived depends on the plain permutation only. -/
theorem derived_of_plain (same : q.plain = p.plain) : library.derived q = library.derived p := by
  have selected : library.select q = library.select p := by
    rw [← select_plain, same, select_plain]
  rw [derived, derived, Permutation.deriveFeatures_eq, Permutation.deriveFeatures_eq, selected, same]

theorem build_of_plain (same : q.plain = p.plain) :
    library.build settings q = library.build settings p := by
  have derived : library.derived q = library.derived p := derived_of_plain same
  refine build_congr (congrArg Permutation.outline derived) fun stage => ?_
  rw [parts, parts, ← select_derived library q, derived, select_derived]

/--
Derived features that a permutation comes with make no difference: permutations that differ in nothing
else are derived and built alike. Deriving changes nothing but bits of derived features, and what is
derived already is built in the same way.
-/
theorem build_despite_stale (library : Library) (settings : Settings) (p : Permutation) :
    (∀ q, p.AgreeButDerived q → library.derived q = library.derived p ∧
        library.build settings q = library.build settings p) ∧
      library.build settings (library.derived p) = library.build settings p ∧
      p.AgreeButDerived (library.derived p) := by
  have kept : (library.derived p).plain = p.plain :=
    Permutation.plain_deriveFeatures (library.select p) p
  refine ⟨fun q agree => ?_, build_of_plain kept, Permutation.agreeButDerived_iff.2 kept⟩
  have same := Permutation.agreeButDerived_iff.1 agree
  exact ⟨derived_of_plain same, build_of_plain same⟩

/--
The lit surface needs view directions and normals. Whether it comes with these features or with the
four others, it is built in the same way, and a bit without a name stays.
-/
theorem litSurface_despite_stale :
    let marked := { surfaceColor with features := ⟨surfaceColor.features.bits ||| 0x00100000⟩ }
    let stale := { marked with features := ⟨marked.features.bits ||| 0x00002e00⟩ }
    marked.AgreeButDerived stale ∧
      (Vocabulary.all Feature).filter stale.has =
        [.lighting, .shadowUvDdxDdy, .tbnMatrix, .viewPosition, .tangent] ∧
      (litSurface.derived stale).features.toList = [.lighting, .viewDirection, .normal] ∧
      (litSurface.derived stale).features.unnamed.bits = 0x00100000 ∧
      ∃ e, litSurface.build twoAndTwo marked = .ok e ∧ litSurface.build twoAndTwo stale = .ok e ∧
        litSurface.build twoAndTwo (litSurface.derived stale) = .ok e := by
  intro marked stale
  have agree : marked.AgreeButDerived stale := by
    refine Permutation.agreeButDerived_iff.2 ?_
    have features : stale.features.without .derived = marked.features.without .derived := by
      decide +kernel
    exact congrArg (fun features => { marked with features }) features
  obtain ⟨e, built⟩ : ∃ e, litSurface.build twoAndTwo marked = .ok e :=
    exists_of_isOk (by decide +kernel)
  obtain ⟨alike, -⟩ := build_despite_stale litSurface twoAndTwo marked
  obtain ⟨-, again, -⟩ := build_despite_stale litSurface twoAndTwo stale
  have same := (alike stale agree).2.trans built
  exact ⟨agree, by decide +kernel, by decide +kernel, by decide +kernel, e, built, same,
    again.trans same⟩

end Library

end ShaderComposition
