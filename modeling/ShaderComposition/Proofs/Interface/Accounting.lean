import ShaderComposition.Proofs.Interface.NameSpaces

/-!
# Every parameter is listed once

Sorting loses no parameter and lists none twice. One function, `listingOf`, tells for a global of a
stage which list of the interface it belongs to, and every list of a stage is what that function
picks from the globals, in their order (`listing_vertex`, `listing_fragment`). So the lists of a stage
share no parameter, and since they make up its scope its text declares no name twice
(`declared_distinct`).
-/

namespace ShaderComposition

open Vocabulary (spelling)

section Lists

variable {ds es : List Parameter}

theorem DistinctNames.sublist (distinct : DistinctNames es) (part : ds.Sublist es) :
    DistinctNames ds :=
  (part.map _).nodup distinct

theorem DistinctNames.perm (distinct : DistinctNames es) (same : ds.Perm es) : DistinctNames ds :=
  (same.map _).nodup_iff.2 distinct

theorem distinctNames_append :
    DistinctNames (ds ++ es) ↔ DistinctNames ds ∧ DistinctNames es ∧ NamesApart ds es := by
  simp only [DistinctNames, NamesApart, List.map_append, List.nodup_append, List.mem_map]
  constructor
  · rintro ⟨front, back, apart⟩
    exact ⟨front, back, fun d hd e he => apart _ ⟨d, hd, rfl⟩ _ ⟨e, he, rfl⟩⟩
  · rintro ⟨front, back, apart⟩
    refine ⟨front, back, ?_⟩
    rintro _ ⟨d, hd, rfl⟩ _ ⟨e, he, rfl⟩
    exact apart d hd e he

/-- What is read and what is produced make up a list, up to order. -/
theorem read_produced_perm (ds : List Parameter) :
    (ds.filter (·.qualifier = .input) ++ ds.filter (·.qualifier ≠ .input)).Perm ds := by
  simpa using List.filter_append_perm (fun d : Parameter => decide (d.qualifier = .input)) ds

end Lists

namespace Interface

/-- The lists in which the text of a stage declares parameters. -/
inductive Listing
  | attributes | uniforms | varyings | temporaries
deriving DecidableEq

/-- What a list of a stage holds. -/
def listing (i : Interface) : Stage → Listing → List Parameter
  | .vertex, .attributes => i.attributeParameters
  | .fragment, .attributes => []
  | .vertex, .uniforms => i.vertexUniforms
  | .fragment, .uniforms => i.fragmentUniforms
  | _, .varyings => i.varyings
  | .vertex, .temporaries => i.vertexTemporaries
  | .fragment, .temporaries => i.fragmentTemporaries

variable {v f : Scope} {p : Parameter} {stage : Stage} {k : Listing}

/-- What the text of a stage declares is what the lists of the stage hold. -/
theorem mem_declared_iff {i : Interface} : p ∈ i.declared stage ↔ ∃ k, p ∈ i.listing stage k := by
  constructor
  · intro h
    cases stage with
    | vertex =>
      simp only [declared, List.mem_append] at h
      rcases h with ((bound | uniform) | varying) | temporary
      · exact ⟨.attributes, bound⟩
      · exact ⟨.uniforms, uniform⟩
      · exact ⟨.varyings, varying⟩
      · exact ⟨.temporaries, temporary⟩
    | fragment =>
      simp only [declared, List.mem_append] at h
      rcases h with (uniform | varying) | temporary
      · exact ⟨.uniforms, uniform⟩
      · exact ⟨.varyings, varying⟩
      · exact ⟨.temporaries, temporary⟩
  · rintro ⟨k, h⟩
    cases stage <;> cases k <;> simp_all [listing, declared, attributeParameters]

/-- The list that a global of a stage belongs to. -/
def listingOf (v f : Scope) : Stage → Parameter → Listing
  | .vertex, p =>
    if p.qualifier = .input then if (attribute? p).isSome then .attributes else .uniforms
    else if declares f.globals p.name then .varyings else .temporaries
  | .fragment, p =>
    if declares (ofScopes v f).varyings p.name then .varyings
    else if p.qualifier = .input then .uniforms else .temporaries

/-- The scope that a stage was put together in. -/
def scopeOf (v f : Scope) : Stage → Scope
  | .vertex => v
  | .fragment => f

theorem attributeParameters_eq (ps : List Parameter) :
    (ps.filterMap attribute?).map (·.parameter) = ps.filter fun p => (attribute? p).isSome := by
  induction ps with
  | nil => rfl
  | cons p ps ih =>
    cases found : attribute? p with
    | none => simp [found, ih]
    | some b => simp [found, ih, (attribute?_eq_some_iff.1 found).2]

theorem listingOf_vertex (k : Listing) (p : Parameter) :
    decide (listingOf v f .vertex p = k) = match k with
      | .attributes => (attribute? p).isSome && decide (p.qualifier = .input)
      | .uniforms => (attribute? p).isNone && decide (p.qualifier = .input)
      | .varyings => declares f.globals p.name && decide (p.qualifier ≠ .input)
      | .temporaries => !declares f.globals p.name && decide (p.qualifier ≠ .input) := by
  by_cases input : p.qualifier = .input
  · cases found : attribute? p <;> cases k <;> simp [listingOf, input, found]
  · cases shared : declares f.globals p.name <;> cases k <;> simp [listingOf, input, shared]

/-- The lists of the vertex stage; its locals stand behind the temporaries among its globals. -/
theorem listing_vertex (v f : Scope) (k : Listing) :
    (ofScopes v f).listing .vertex k =
      v.globals.filter (listingOf v f .vertex · = k) ++ if k = .temporaries then v.locals else [] := by
  simp only [listingOf_vertex]
  cases k <;>
    simp [listing, attributeParameters, ofScopes, attributeParameters_eq, List.filter_filter]

theorem listingOf_fragment (k : Listing) (p : Parameter) :
    decide (listingOf v f .fragment p = k) = match k with
      | .attributes => false
      | .varyings => declares (ofScopes v f).varyings p.name
      | .uniforms => decide (p.qualifier = .input) && !declares (ofScopes v f).varyings p.name
      | .temporaries =>
        decide (p.qualifier ≠ .input) && !declares (ofScopes v f).varyings p.name := by
  cases shared : declares (ofScopes v f).varyings p.name
  · by_cases input : p.qualifier = .input <;> cases k <;> simp [listingOf, input, shared]
  · cases k <;> simp [listingOf, shared]

/-- The lists of the fragment stage, apart from the varyings, which hold what the vertex stage has. -/
theorem listing_fragment (v f : Scope) (own : k ≠ .varyings) :
    (ofScopes v f).listing .fragment k =
      f.globals.filter (listingOf v f .fragment · = k) ++
        if k = .temporaries then f.locals else [] := by
  simp only [listingOf_fragment]
  cases k with
  | varyings => exact absurd rfl own
  | attributes => simp [listing]
  | uniforms => simp [listing, ofScopes, List.filter_filter]
  | temporaries => simp [listing, ofScopes, List.filter_filter]

/-! ## One list for each global -/

/-- What is picked for a list holds a global just where the global belongs there. -/
theorem mem_picked {s : Scope} (hs : s.Coherent) (hp : p ∈ s.globals) {place : Parameter → Listing} :
    p ∈ s.globals.filter (place · = k) ++ (if k = .temporaries then s.locals else []) ↔
      k = place p := by
  rw [List.mem_append, List.mem_filter, decide_eq_true_eq]
  constructor
  · rintro (⟨-, same⟩ | inner)
    · exact same.symm
    · split at inner
      · exact absurd rfl (hs.distinct.apart hp inner)
      · cases inner
  · intro same
    exact .inl ⟨hp, same.symm⟩

theorem mem_listing_vertex (hv : v.Coherent) (hp : p ∈ v.globals) :
    p ∈ (ofScopes v f).listing .vertex k ↔ k = listingOf v f .vertex p := by
  rw [listing_vertex]
  exact mem_picked hv hp

theorem mem_listing_fragment (hf : f.Coherent) (hp : p ∈ f.globals) (own : k ≠ .varyings) :
    p ∈ (ofScopes v f).listing .fragment k ↔ k = listingOf v f .fragment p := by
  rw [listing_fragment v f own]
  exact mem_picked hf hp

/-- A global that no varying takes the place of is in one list of the fragment stage. -/
theorem fragment_listed_once (hf : f.Coherent) (hp : p ∈ f.globals)
    (own : declares (ofScopes v f).varyings p.name = false) :
    ∃ l ∈ [Listing.uniforms, .temporaries],
      ∀ k, p ∈ (ofScopes v f).listing .fragment k ↔ k = l := by
  have place : listingOf v f .fragment p ∈ [Listing.uniforms, .temporaries] := by
    by_cases input : p.qualifier = .input <;> simp [listingOf, own, input]
  refine ⟨listingOf v f .fragment p, place, fun k => ?_⟩
  by_cases shared : k = .varyings
  · subst shared
    constructor
    · intro member
      have named : declares (ofScopes v f).varyings p.name = true := declares_iff.2 ⟨p, member, rfl⟩
      rw [own] at named
      cases named
    · intro same
      rw [← same] at place
      simp at place
  · exact mem_listing_fragment hf hp shared

/-- A global that a varying takes the place of is in no list of the fragment stage's own. -/
theorem fragment_handed (hf : f.Coherent) (hp : p ∈ f.globals)
    (handed : declares (ofScopes v f).varyings p.name = true) :
    p ∉ (ofScopes v f).fragmentUniforms ∧ p ∉ (ofScopes v f).fragmentTemporaries := by
  have place : listingOf v f .fragment p = .varyings := by
    simp [listingOf, handed]
  constructor
  · intro member
    have same := (mem_listing_fragment (k := .uniforms) hf hp (by decide)).1 member
    rw [place] at same
    cases same
  · intro member
    have same := (mem_listing_fragment (k := .temporaries) hf hp (by decide)).1 member
    rw [place] at same
    cases same

/-! ## Names of a stage -/

/-- Attributes, uniforms and varyings stand in the order of the vertex stage's globals. -/
theorem listing_vertex_sublist (other : k ≠ .temporaries) :
    ((ofScopes v f).listing .vertex k).Sublist v.globals := by
  rw [listing_vertex, if_neg other, List.append_nil]
  exact List.filter_sublist

/-- The vertex stage declares its scope, up to order. -/
theorem declared_vertex_perm (v f : Scope) :
    ((ofScopes v f).declared .vertex).Perm (v.globals ++ v.locals) := by
  let read := v.globals.filter (·.qualifier = .input)
  let produced := v.globals.filter (·.qualifier ≠ .input)
  let uniforms := read.filter fun p => (attribute? p).isNone
  let own := produced.filter fun p => !declares f.globals p.name
  have reads : ((ofScopes v f).attributeParameters ++ uniforms).Perm read := by
    have supplied : (ofScopes v f).attributeParameters = read.filter fun p => (attribute? p).isSome :=
      attributeParameters_eq read
    have split := List.filter_append_perm (fun p => (attribute? p).isSome) read
    rw [supplied]
    simpa [uniforms] using split
  have products : ((ofScopes v f).varyings ++ own).Perm produced :=
    List.filter_append_perm (fun p : Parameter => declares f.globals p.name) produced
  show ((ofScopes v f).attributeParameters ++ uniforms ++ (ofScopes v f).varyings ++
    (own ++ v.locals)).Perm (v.globals ++ v.locals)
  calc (ofScopes v f).attributeParameters ++ uniforms ++ (ofScopes v f).varyings ++ (own ++ v.locals)
    _ = ((ofScopes v f).attributeParameters ++ uniforms ++ ((ofScopes v f).varyings ++ own)) ++
        v.locals := by simp only [List.append_assoc]
    List.Perm _ (read ++ produced ++ v.locals) := (reads.append products).append_right _
    List.Perm _ (v.globals ++ v.locals) := (read_produced_perm v.globals).append_right _

/-- The fragment stage declares the varyings, and what no varying takes the place of. -/
theorem declared_fragment_perm (v f : Scope) :
    ((ofScopes v f).declared .fragment).Perm ((ofScopes v f).varyings ++
      (f.globals.filter (fun p => !declares (ofScopes v f).varyings p.name) ++ f.locals)) := by
  let own := f.globals.filter fun p => !declares (ofScopes v f).varyings p.name
  let read := own.filter (·.qualifier = .input)
  let produced := own.filter (·.qualifier ≠ .input)
  show (read ++ (ofScopes v f).varyings ++ (produced ++ f.locals)).Perm
    ((ofScopes v f).varyings ++ (own ++ f.locals))
  calc read ++ (ofScopes v f).varyings ++ (produced ++ f.locals)
    List.Perm _ ((ofScopes v f).varyings ++ read ++ (produced ++ f.locals)) :=
        List.perm_append_comm.append_right _
    _ = (ofScopes v f).varyings ++ ((read ++ produced) ++ f.locals) := by
        simp only [List.append_assoc]
    List.Perm _ ((ofScopes v f).varyings ++ (own ++ f.locals)) :=
        ((read_produced_perm own).append_right _).append_left _

/-- The names that the text of a stage declares are those of its scope. -/
theorem exists_declared_iff (v f : Scope) (stage : Stage) (n : String) :
    (∃ d ∈ (ofScopes v f).declared stage, d.name = n) ↔
      ∃ d ∈ (scopeOf v f stage).globals ++ (scopeOf v f stage).locals, d.name = n := by
  cases stage with
  | vertex => simp only [(declared_vertex_perm v f).mem_iff, scopeOf]
  | fragment =>
    simp only [(declared_fragment_perm v f).mem_iff, scopeOf]
    constructor
    · rintro ⟨d, hd, same⟩
      rcases List.mem_append.1 hd with handed | own
      · obtain ⟨-, -, g, hg, shared⟩ := mem_varyings.1 handed
        exact ⟨g, List.mem_append_left _ hg, shared.trans same⟩
      · exact ⟨d, (List.filter_sublist.append_right _).subset own, same⟩
    · rintro ⟨d, hd, same⟩
      by_cases handed : declares (ofScopes v f).varyings d.name = true
      · obtain ⟨q, hq, shared⟩ := declares_iff.1 handed
        exact ⟨q, List.mem_append_left _ hq, shared.trans same⟩
      · refine ⟨d, List.mem_append_right _ ?_, same⟩
        rcases List.mem_append.1 hd with global | inner
        · exact List.mem_append_left _ (List.mem_filter.2 ⟨global, by simpa using handed⟩)
        · exact List.mem_append_right _ inner

/-- No name is declared twice in the text of a stage. -/
theorem declared_distinct (hv : v.Coherent) (hf : f.Coherent) (stage : Stage) :
    DistinctNames ((ofScopes v f).declared stage) := by
  cases stage with
  | vertex => exact hv.distinct.perm (declared_vertex_perm v f)
  | fragment =>
    refine DistinctNames.perm ?_ (declared_fragment_perm v f)
    refine distinctNames_append.2 ⟨?_, ?_, ?_⟩
    · exact hv.distinct.left.sublist (listing_vertex_sublist (k := .varyings) (by decide))
    · exact hf.distinct.sublist (List.filter_sublist.append_right _)
    · intro q hq p hp same
      rcases List.mem_append.1 hp with own | inner
      · obtain ⟨-, own⟩ := List.mem_filter.1 own
        have handed : declares (ofScopes v f).varyings p.name = true := declares_iff.2 ⟨q, hq, same⟩
        simp [handed] at own
      · obtain ⟨-, -, g, hg, shared⟩ := mem_varyings.1 hq
        exact hf.distinct.apart hg inner (shared.trans same)

/-- Nothing but a varying has the name of a varying. -/
theorem listing_apart_varyings (hv : v.Coherent) (hf : f.Coherent) (other : k ≠ .varyings)
    (hp : p ∈ (ofScopes v f).listing stage k) : ∀ q ∈ (ofScopes v f).varyings, p.name ≠ q.name := by
  intro q hq
  have distinct := declared_distinct hv hf stage
  cases stage with
  | vertex =>
    cases k with
    | varyings => exact absurd rfl other
    | attributes => exact distinct.left.apart (List.mem_append_left _ hp) hq
    | uniforms => exact distinct.left.apart (List.mem_append_right _ hp) hq
    | temporaries => exact (distinct.apart (List.mem_append_right _ hq) hp).symm
  | fragment =>
    cases k with
    | varyings => exact absurd rfl other
    | attributes => cases hp
    | uniforms => exact distinct.left.apart hp hq
    | temporaries => exact (distinct.apart (List.mem_append_right _ hq) hp).symm

/--
The name of a uniform is listed elsewhere only where the fragment stage reads the name of an attribute,
or has a value of its own under the name of a uniform of the vertex stage.
-/
theorem shares_uniform_name {d u : Parameter} (hv : v.Coherent) (hf : f.Coherent)
    (noLocals : v.locals = []) (other : k ≠ .uniforms) (hd : d ∈ (ofScopes v f).listing stage k)
    (hu : u ∈ (ofScopes v f).uniforms) (same : u.name = d.name) :
    (stage = .vertex ∧ k = .attributes ∧ u ∈ (ofScopes v f).fragmentUniforms) ∨
      stage = .fragment ∧ k = .temporaries ∧ u ∈ (ofScopes v f).vertexUniforms := by
  have distinct := declared_distinct hv hf stage
  cases k with
  | uniforms => exact absurd rfl other
  | varyings =>
    have handed : d ∈ (ofScopes v f).varyings := by cases stage <;> exact hd
    exact absurd same.symm (varyings_apart_uniforms hv d handed u hu)
  | attributes =>
    cases stage with
    | fragment => cases hd
    | vertex =>
      rcases List.mem_append.1 hu with vertex | fragment
      · exact absurd same.symm (attributes_apart_vertexUniforms d hd u vertex)
      · exact .inl ⟨rfl, rfl, fragment⟩
  | temporaries =>
    cases stage with
    | vertex =>
      rcases List.mem_append.1 hu with vertex | fragment
      · refine absurd same (distinct.apart ?_ hd)
        exact List.mem_append_left _ (List.mem_append_right _ vertex)
      · obtain ⟨read, -, -⟩ := mem_fragmentUniforms.1 fragment
        rcases mem_vertexTemporaries.1 hd with ⟨-, -, unshared⟩ | inner
        · exact absurd same (unshared u read)
        · rw [noLocals] at inner
          cases inner
    | fragment =>
      rcases List.mem_append.1 hu with vertex | fragment
      · exact .inr ⟨rfl, rfl, vertex⟩
      · exact absurd same (distinct.apart (List.mem_append_left _ fragment) hd)

/-- No location is bound twice. -/
theorem locations_distinct (hv : v.Coherent) :
    ((ofScopes v f).attributes.map (·.channel.location)).Nodup := by
  have names : DistinctNames (ofScopes v f).attributeParameters :=
    hv.distinct.left.sublist (listing_vertex_sublist (k := .attributes) (by decide))
  rw [DistinctNames, attributeParameters, List.map_map, List.Nodup, List.pairwise_map] at names
  rw [List.Nodup, List.pairwise_map]
  refine names.imp_of_mem fun hb hc differ same => differ ?_
  obtain ⟨-, -, first⟩ := mem_attributes.1 hb
  obtain ⟨-, -, second⟩ := mem_attributes.1 hc
  rw [Function.comp_apply, Function.comp_apply, ← first, ← second]
  exact congrArg spelling (Vocabulary.position_injective same)

/--
An interface accounts for the scopes of both stages: it lists all of their parameters, none of them
twice and nothing else, in the order of the scopes.
-/
structure Accounts (i : Interface) (v f : Scope) : Prop where
  vertex_once : ∀ p ∈ v.globals, ∃ l, ∀ k, p ∈ i.listing .vertex k ↔ k = l
  /-- Temporaries apart, the lists of the vertex stage hold globals, in order. -/
  vertex_order : ∀ k, k ≠ .temporaries → (i.listing .vertex k).Sublist v.globals
  /-- Locals are temporaries, and stand behind all globals there. -/
  vertex_temporaries : ∃ produced, produced.Sublist v.globals ∧
    i.vertexTemporaries = produced ++ v.locals
  fragment_once : ∀ p ∈ f.globals, (∀ q ∈ i.varyings, q.name ≠ p.name) →
    ∃ l ∈ [Listing.uniforms, .temporaries], ∀ k, p ∈ i.listing .fragment k ↔ k = l
  /-- A varying takes the place of the global of its name. -/
  fragment_handed : ∀ p ∈ f.globals, ∀ q ∈ i.varyings, q.name = p.name →
    p ∉ i.fragmentUniforms ∧ p ∉ i.fragmentTemporaries
  fragment_order : i.fragmentUniforms.Sublist f.globals
  fragment_temporaries : ∃ produced, produced.Sublist f.globals ∧
    i.fragmentTemporaries = produced ++ f.locals
  names : ∀ stage, DistinctNames (i.declared stage)
  locations : (i.attributes.map (·.channel.location)).Nodup

/-- Sorting loses no parameter of either stage, and declares none twice. -/
theorem ofScopes_accounts (hv : v.Reachable) (hf : f.Reachable) : (ofScopes v f).Accounts v f where
  vertex_once p hp := ⟨listingOf v f .vertex p, fun _ => mem_listing_vertex hv.coherent hp⟩
  vertex_order _ other := listing_vertex_sublist other
  vertex_temporaries := ⟨_, List.filter_sublist, listing_vertex v f .temporaries⟩
  fragment_once p hp own := by
    refine fragment_listed_once hf.coherent hp (Bool.eq_false_iff.2 fun handed => ?_)
    obtain ⟨q, hq, same⟩ := declares_iff.1 handed
    exact own q hq same
  fragment_handed p hp q hq same := fragment_handed hf.coherent hp (declares_iff.2 ⟨q, hq, same⟩)
  fragment_order := by
    show ((ofScopes v f).listing .fragment .uniforms).Sublist f.globals
    rw [listing_fragment v f (by decide), if_neg (by decide), List.append_nil]
    exact List.filter_sublist
  fragment_temporaries :=
    ⟨_, List.filter_sublist, listing_fragment v f (k := .temporaries) (by decide)⟩
  names := declared_distinct hv.coherent hf.coherent
  locations := locations_distinct hv.coherent

/-- Stages with parameters for each list, and with a local each. -/
theorem accounts_for_each_list :
    let v := (Scope.declaring .vertex [
      Catalog.parameter VertexAttribute.position, Catalog.parameter EngineUniform.camera,
      Catalog.producedBy SharedValue.worldNormal "world",
      Catalog.producedBy SharedValue.viewPosition "view",
      Catalog.producedBy SharedValue.diffuseColor "light"]).demote "diffuse_color"
    let f := (Scope.declaring .fragment [
      Catalog.producedBy SharedValue.specularColor "light", Catalog.parameter SharedValue.worldNormal,
      Catalog.parameter EngineUniform.camera,
      Catalog.producedBy SharedValue.albedo "diffuse"]).demote "specular_color"
    let i := ofScopes v f
    v.Reachable ∧ f.Reachable ∧ i.Accounts v f ∧
      (i.declared .vertex).map (·.name) =
        ["position", "camera", "world_normal", "view_position", "diffuse_color"] ∧
      (i.declared .fragment).map (·.name) = ["camera", "world_normal", "albedo", "specular_color"] := by
  intro v f i
  have vertex : v.Reachable := ⟨.vertex, .demote _ (.declareAll _ (.refl _))⟩
  have fragment : f.Reachable := ⟨.fragment, .demote _ (.declareAll _ (.refl _))⟩
  exact ⟨vertex, fragment, ofScopes_accounts vertex fragment, by decide, by decide⟩

end Interface

end ShaderComposition
