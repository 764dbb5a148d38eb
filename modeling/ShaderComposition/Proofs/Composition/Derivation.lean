import ShaderComposition.Composition.Schedule

/-!
# The order of derivation

Deriving touches nothing but the derived features. Each of them is settled once, by what the snippets
read that are scheduled at that moment; a role that is scheduled later is not asked again. So a
derived feature is closed under what is read, except by roles that a feature settled after it brought
in (`settled_or_scheduled`).
-/

namespace ShaderComposition

open Vocabulary (spelling)

/-- The derived feature that a role is scheduled for. -/
def Role.feature? : Role → Option Feature
  | .worldNormalTransformation => some .normal
  | .worldTangentTransformation => some .tangent
  | .viewTransformation => some .viewPosition
  | .shadowUvDdxDdy => some .shadowUvDdxDdy
  | .viewDirection => some .viewDirection
  | .tbnMatrix => some .tbnMatrix
  | _ => none

namespace Permutation

variable {select : Selection} {p q : Permutation} {f g : Feature} {value : SharedValue}
  {d : Feature × SharedValue}
  {ds earlier later : List (Feature × SharedValue)} {role : Role} {stage : Stage}

/-- The permutation without derived features. -/
def plain (p : Permutation) : Permutation :=
  { p with features := p.features.without .derived }

/-- Derives features one after the other. -/
def deriveAll (select : Selection) (p : Permutation) (ds : List (Feature × SharedValue)) :
    Permutation :=
  ds.foldl (fun q (f, value) => q.derive select f value) p

/-- The features that are derived, in order. -/
def derivedFeatures : List Feature :=
  derivations.map Prod.fst

/-- Two permutations differ in nothing but derived features. -/
structure Agrees (p q : Permutation) : Prop where
  rest : ∃ features, q = { p with features }
  asked : ∀ g ∉ derivedFeatures, q.has g = p.has g

namespace Agrees

theorem refl (p : Permutation) : p.Agrees p :=
  ⟨⟨p.features, rfl⟩, fun _ _ => rfl⟩

theorem trans {r : Permutation} (first : p.Agrees q) (second : q.Agrees r) : p.Agrees r := by
  obtain ⟨⟨_, rfl⟩, left⟩ := first
  obtain ⟨⟨features, rfl⟩, right⟩ := second
  exact ⟨⟨features, rfl⟩, fun g hg => (right g hg).trans (left g hg)⟩

theorem symm (h : p.Agrees q) : q.Agrees p := by
  obtain ⟨⟨_, rfl⟩, same⟩ := h
  exact ⟨⟨p.features, rfl⟩, fun g hg => (same g hg).symm⟩

/-- Both stages have the same lights and shadows. -/
theorem lighting (h : p.Agrees q) : q.vertexLighting = p.vertexLighting ∧
    q.fragmentLighting = p.fragmentLighting ∧ q.receivesShadows = p.receivesShadows := by
  obtain ⟨⟨features, rfl⟩, asked⟩ := h
  have lit := asked .lighting (by decide)
  simp only [vertexLighting, fragmentLighting, receivesShadows, lit, and_self]

end Agrees

theorem has_derive : (p.derive select f value).has g =
    if f = g then p.reads select value else p.has g := by
  simp [derive, has]

theorem deriveAll_cons : p.deriveAll select ((f, value) :: ds) =
    (p.derive select f value).deriveAll select ds := by
  simp only [deriveAll, List.foldl_cons]

theorem deriveAll_append : p.deriveAll select (earlier ++ later) =
    (p.deriveAll select earlier).deriveAll select later :=
  List.foldl_append

/-- A feature that is not derived is left as it is. -/
theorem has_deriveAll_of_notMem (h : g ∉ ds.map Prod.fst) :
    (p.deriveAll select ds).has g = p.has g := by
  induction ds generalizing p with
  | nil => rfl
  | cons d ds ih =>
    obtain ⟨f, value⟩ := d
    obtain ⟨other, rest⟩ := List.ne_and_not_mem_of_not_mem_cons h
    rw [deriveAll_cons, ih rest, has_derive, if_neg (Ne.symm other)]

theorem has_plain : p.plain.has g = (p.has g && !derivedFeatures.contains g) := by
  have derived : Features.derived.has g = derivedFeatures.contains g := by
    cases g <;> decide
  simp only [plain, has, Features.has_without, derived]

theorem Agrees.plain (p : Permutation) : p.Agrees p.plain :=
  ⟨⟨_, rfl⟩, fun g hg => by simp [has_plain, hg]⟩

theorem Agrees.derive (p : Permutation) (hf : f ∈ derivedFeatures) :
    p.Agrees (p.derive select f value) := by
  refine ⟨⟨_, rfl⟩, fun g hg => ?_⟩
  rw [has_derive, if_neg]
  rintro rfl
  exact hg hf

theorem Agrees.deriveAll (p : Permutation) (hds : ∀ d ∈ ds, d.1 ∈ derivedFeatures) :
    p.Agrees (p.deriveAll select ds) := by
  induction ds generalizing p with
  | nil => exact .refl p
  | cons d ds ih =>
    obtain ⟨f, value⟩ := d
    have first : p.Agrees (p.derive select f value) := .derive p (hds _ List.mem_cons_self)
    rw [deriveAll_cons]
    exact first.trans (ih _ fun d hd => hds d (List.mem_cons_of_mem _ hd))

theorem mem_derivedFeatures (hd : d ∈ derivations) : d.1 ∈ derivedFeatures :=
  List.mem_map_of_mem hd

/-- The permutation with the normal switched on where the vertex stage needs it for lighting. -/
def forceNormal (p : Permutation) : Permutation :=
  if p.vertexLighting then { p with features := p.features.union (.only .normal) } else p

theorem deriveFeatures_eq (select : Selection) (p : Permutation) :
    p.deriveFeatures select = (p.plain.deriveAll select derivations).forceNormal := rfl

theorem has_forceNormal :
    p.forceNormal.has g = (p.has g || (decide (g = .normal) && p.vertexLighting)) := by
  unfold forceNormal
  split
  next lit => simp [has, lit, eq_comm]
  next dark => simp [dark]

theorem Agrees.forceNormal (p : Permutation) : p.Agrees p.forceNormal := by
  constructor
  · unfold Permutation.forceNormal
    split
    · exact ⟨_, rfl⟩
    · exact ⟨p.features, rfl⟩
  · intro g hg
    have other : g ≠ .normal := by
      rintro rfl
      exact hg (by decide)
    simp [has_forceNormal, other]

theorem Agrees.read (select : Selection) (p : Permutation) :
    p.Agrees (p.plain.deriveAll select derivations) :=
  (Agrees.plain p).trans (.deriveAll _ fun _ => mem_derivedFeatures)

theorem Agrees.deriveFeatures (select : Selection) (p : Permutation) :
    p.Agrees (p.deriveFeatures select) :=
  (Agrees.read select p).trans (.forceNormal _)

theorem has_deriveFeatures : (p.deriveFeatures select).has g =
    ((p.plain.deriveAll select derivations).has g || (decide (g = .normal) && p.vertexLighting)) := by
  rw [deriveFeatures_eq, has_forceNormal, (Agrees.read select p).lighting.1]

/-! ## What a feature sees when it is derived -/

/-- No feature is derived twice. -/
theorem once_of_split (split : derivations = earlier ++ (f, value) :: later) :
    f ∉ later.map Prod.fst ∧ ∀ g ∈ earlier.map Prod.fst, g ≠ f ∧ g ∉ later.map Prod.fst := by
  have distinct : (derivations.map Prod.fst).Nodup := by decide
  rw [split, List.map_append, List.map_cons, List.nodup_append, List.nodup_cons] at distinct
  obtain ⟨-, ⟨once, -⟩, apart⟩ := distinct
  refine ⟨once, fun g hg => ⟨apart g hg f List.mem_cons_self, fun again => ?_⟩⟩
  exact apart g hg g (List.mem_cons_of_mem _ again) rfl

/-- A feature is settled when its turn comes. -/
theorem has_settled (split : derivations = earlier ++ (f, value) :: later) :
    (p.deriveFeatures select).has f =
      ((p.plain.deriveAll select earlier).reads select value ||
        (decide (f = .normal) && p.vertexLighting)) := by
  rw [has_deriveFeatures, split, deriveAll_append, deriveAll_cons,
    has_deriveAll_of_notMem (once_of_split split).1, has_derive, if_pos rfl]

/-- The feature whose turn it is and those after it do not count for the others. -/
theorem has_unsettled (split : derivations = earlier ++ (f, value) :: later) (other : g ≠ f)
    (notLater : g ∉ later.map Prod.fst) : (p.deriveFeatures select).has g =
      ((p.plain.deriveAll select earlier).has g || (decide (g = .normal) && p.vertexLighting)) := by
  rw [has_deriveFeatures, split, deriveAll_append, deriveAll_cons, has_deriveAll_of_notMem notLater,
    has_derive, if_neg (Ne.symm other)]

/-- What is in force when a feature is derived stays in force. -/
theorem has_of_earlier (split : derivations = earlier ++ (f, value) :: later)
    (h : (p.plain.deriveAll select earlier).has g = true) : (p.deriveFeatures select).has g = true := by
  have outside : g ∉ (f, value).1 :: later.map Prod.fst := by
    -- a derived feature is off until its turn comes
    intro inside
    have derived : g ∈ derivedFeatures := by
      rw [derivedFeatures, split, List.map_append]
      exact List.mem_append_right _ inside
    have notEarlier : g ∉ earlier.map Prod.fst := by
      intro again
      obtain ⟨other, notLater⟩ := (once_of_split split).2 g again
      rcases List.mem_cons.1 inside with same | listed
      · exact other same
      · exact notLater listed
    rw [has_deriveAll_of_notMem notEarlier, has_plain] at h
    simp [derived] at h
  obtain ⟨other, notLater⟩ := List.ne_and_not_mem_of_not_mem_cons outside
  rw [has_unsettled split other notLater, h, Bool.true_or]

/-- What is in force at the end was so when a feature was derived, or came with it or later. -/
theorem earlier_or_later (split : derivations = earlier ++ (f, value) :: later)
    (h : (p.deriveFeatures select).has g = true) :
    (p.plain.deriveAll select earlier).has g = true ∨ g = f ∨ g ∈ later.map Prod.fst ∨
      g = .normal ∧ p.vertexLighting = true := by
  by_cases same : g = f
  · exact .inr (.inl same)
  by_cases listed : g ∈ later.map Prod.fst
  · exact .inr (.inr (.inl listed))
  rw [has_unsettled split same listed, Bool.or_eq_true, Bool.and_eq_true, decide_eq_true_iff] at h
  rcases h with before | forced
  · exact .inl before
  · exact .inr (.inr (.inr forced))

/-- More features change the world transformation only to one that is asked for by what they add. -/
theorem worldRole_cases (keeps : ∀ g, p.has g = true → q.has g = true) :
    q.worldRole = p.worldRole ∨
      ∃ g, q.worldRole.feature? = some g ∧ q.has g = true ∧ p.has g = false := by
  have tangent := keeps .tangent
  have normal := keeps .normal
  unfold worldRole
  cases qt : q.has .tangent with
  | true =>
    cases pt : p.has .tangent with
    | true => exact .inl rfl
    | false => exact .inr ⟨.tangent, rfl, qt, pt⟩
  | false =>
    have pt : p.has .tangent = false := by simpa [qt] using tangent
    cases qn : q.has .normal with
    | true =>
      cases pn : p.has .normal with
      | true => exact .inl (by simp [pt])
      | false => exact .inr ⟨.normal, rfl, qn, pn⟩
    | false =>
      have pn : p.has .normal = false := by simpa [qn] using normal
      exact .inl (by simp [pt, pn])

/-- A role that more features bring in is scheduled for one of them. -/
theorem Agrees.scheduled (h : p.Agrees q) (keeps : ∀ g, p.has g = true → q.has g = true)
    (scheduled : (role, stage) ∈ q.schedule) : (role, stage) ∈ p.schedule ∨
      ∃ g, role.feature? = some g ∧ q.has g = true ∧ p.has g = false := by
  obtain ⟨vertex, fragment, shadows⟩ := h.lighting
  have fog := h.asked .fog (by decide)
  have transparent := h.asked .transparent (by decide)
  have purpose : q.purpose = p.purpose := by
    obtain ⟨⟨features, rfl⟩, -⟩ := h
    rfl
  have member {needed : Bool} {r : Role} {s : Stage} :
      (role, stage) ∈ (if needed then [(r, s)] else []) ↔ needed = true ∧ role = r ∧ stage = s := by
    cases needed <;> simp
  refine Classical.or_iff_not_imp_right.2 fun none => ?_
  have kept (g : Feature) (wanted : role.feature? = some g) (present : q.has g = true) :
      p.has g = true :=
    (Bool.eq_false_or_eq_true _).resolve_right fun absent => none ⟨g, wanted, present, absent⟩
  simp only [schedule, List.mem_append, List.mem_singleton, Prod.mk.injEq, member, vertex, fragment,
    shadows, fog, transparent, purpose, or_assoc] at scheduled ⊢
  refine scheduled.imp (And.imp_left ?_) fun other => ?_
  · rintro rfl
    exact (worldRole_cases keeps).resolve_right none
  · -- every other role is scheduled under one condition, which is the same in both or was kept
    clear scheduled
    cases role <;> simp_all [Role.feature?]

theorem mem_of_split (split : derivations = earlier ++ (f, value) :: later) (hd : d ∈ earlier) :
    d.1 ∈ derivedFeatures :=
  mem_derivedFeatures (split ▸ List.mem_append_left _ hd)

/-- A derived feature that a scheduled snippet asks for is missing only if its role came too late. -/
theorem settled_or_scheduled (split : derivations = earlier ++ (f, value) :: later)
    (scheduled : (role, stage) ∈ (p.deriveFeatures select).schedule)
    (read : (select role stage).any (·.reads (spelling value)) = true) :
    (p.deriveFeatures select).has f = true ∨
      (role, stage) ∉ (p.plain.deriveAll select earlier).schedule ∧
        ∃ g, role.feature? = some g ∧ (p.deriveFeatures select).has g = true ∧
          (g ∈ later.map Prod.fst ∨ g = .normal ∧ p.vertexLighting = true) := by
  by_cases present : (p.deriveFeatures select).has f = true
  · exact .inl present
  have unread : (role, stage) ∉ (p.plain.deriveAll select earlier).schedule := by
    intro before
    have asked : (p.plain.deriveAll select earlier).reads select value = true :=
      List.any_eq_true.2 ⟨_, before, read⟩
    exact present (by rw [has_settled split, asked, Bool.true_or])
  have agrees : (p.plain.deriveAll select earlier).Agrees (p.deriveFeatures select) :=
    ((Agrees.plain p).trans (.deriveAll _ fun _ => mem_of_split split)).symm.trans (.deriveFeatures ..)
  obtain ⟨g, wanted, gained, absent⟩ :=
    (agrees.scheduled (fun _ => has_of_earlier split) scheduled).resolve_left unread
  refine .inr ⟨unread, g, wanted, gained, ?_⟩
  rcases earlier_or_later split gained with before | rfl | late
  · simp [absent] at before
  · exact absurd gained present
  · exact late

end Permutation

namespace Library

variable {library : Library} {p : Permutation}

/-- The permutation that a program is put together by. -/
def derived (library : Library) (p : Permutation) : Permutation :=
  p.deriveFeatures (library.select p)

theorem agrees_derived (library : Library) (p : Permutation) : p.Agrees (library.derived p) :=
  .deriveFeatures (library.select p) p

/-- Deriving features does not change which snippets there are. -/
theorem select_derived (library : Library) (p : Permutation) :
    library.select (library.derived p) = library.select p := by
  obtain ⟨features, same⟩ := (agrees_derived library p).rest
  rw [same]
  rfl

/--
The derived features are closed under what the scheduled snippets read, except by a snippet whose
role was not scheduled yet: it is there for a feature that was settled later.
-/
theorem settled_or_scheduled_later {f : Feature} {value : SharedValue}
    {earlier later : List (Feature × SharedValue)} {role : Role} {stage : Stage} {snippet : Snippet}
    (split : Permutation.derivations = earlier ++ (f, value) :: later)
    (scheduled : (role, stage) ∈ (library.derived p).schedule)
    (found : library.select (library.derived p) role stage = some snippet)
    (read : snippet.reads (spelling value) = true) :
    (library.derived p).has f = true ∨
      (role, stage) ∉ (p.plain.deriveAll (library.select p) earlier).schedule ∧
        ∃ g, role.feature? = some g ∧ (library.derived p).has g = true ∧
          (g ∈ later.map Prod.fst ∨ g = .normal ∧ p.vertexLighting = true) := by
  rw [select_derived] at found
  exact Permutation.settled_or_scheduled split scheduled (by simp [found, read])

/-- A derived feature is there if a scheduled snippet reads its value. -/
def ClosedUnderReads (library : Library) (p : Permutation) : Prop :=
  ∀ d ∈ Permutation.derivations, p.reads (library.select p) d.2 = true → p.has d.1 = true

/-- A snippet that reads the given values. -/
def reader (role : Role) (values : List SharedValue) : Snippet :=
  values.foldl (fun s v => s.declaring (Catalog.parameter v)) (.plain role "default" "")

/-- Normal mapping works in a tangent frame, and the frame is built from the view direction. -/
def framed : Library :=
  ⟨[reader .normalDepthMapping [.tbnMatrix], reader .tbnMatrix [.worldViewDirection]]⟩

/-- The color pass of a material without properties of its own. -/
def plainColor : Permutation :=
  .resolve {} {} { dialect := .glsl330, purpose := .color }

/-- The tangent frame is derived from the snippet that reads it. -/
theorem framed_settles_frame :
    (Role.normalDepthMapping, Stage.fragment) ∈ (framed.derived plainColor).schedule ∧
      ((framed.derived plainColor).has .tbnMatrix = true ∨
        (Role.normalDepthMapping, Stage.fragment) ∉ (plainColor.plain.deriveAll
          (framed.select plainColor) (Permutation.derivations.take 2)).schedule ∧
          ∃ g, Role.normalDepthMapping.feature? = some g ∧ (framed.derived plainColor).has g = true ∧
            (g ∈ (Permutation.derivations.drop 3).map Prod.fst ∨
              g = .normal ∧ plainColor.vertexLighting = true)) := by
  have scheduled : (Role.normalDepthMapping, Stage.fragment) ∈
      (framed.derived plainColor).schedule := by decide +kernel
  have found : framed.select (framed.derived plainColor) .normalDepthMapping .fragment =
      some (reader .normalDepthMapping [.tbnMatrix]) := by decide +kernel
  have read : (reader .normalDepthMapping [.tbnMatrix]).reads (spelling SharedValue.tbnMatrix) = true := by
    decide +kernel
  exact ⟨scheduled, settled_or_scheduled_later rfl scheduled found read⟩

/-- The frame comes too late for the view direction that it is built from. -/
theorem framed_not_closed : ¬ framed.ClosedUnderReads (framed.derived plainColor) := by
  intro closed
  have asked : (framed.derived plainColor).reads (framed.select (framed.derived plainColor))
      .worldViewDirection = true := by decide +kernel
  have present := closed (.viewDirection, .worldViewDirection) List.mem_cons_self asked
  exact absurd present (by decide +kernel)

end Library

end ShaderComposition
