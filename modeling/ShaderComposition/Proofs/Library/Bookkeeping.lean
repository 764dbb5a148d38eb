import ShaderComposition.Library.Shelves
import ShaderComposition.Proofs.Library.Growth

/-!
# Bookkeeping is exact

The shelves of a library are its snippets sorted by role and name (`Shelves.Sorts`). Registering a snippet
keeps this up and is answered as in the library (`Sorts.register`), so it holds after any history of offers.
Then the books can be read off the library, whose snippets are those that were accepted, in order
(`snippets_foldl_offered_eq`): each counts once, and every shelf that was put up has a snippet on it.
-/

namespace ShaderComposition

variable {role role' : Role} {name name' : String} {shelf other : Shelf} {shelves : List Shelf}
  {change : List Snippet → List Snippet}

namespace Shelf

/-! ## The order of shelves -/

/-- One shelf has its place in front of another. -/
def Before (shelf other : Shelf) : Prop :=
  other.IsBehind shelf.role shelf.name

theorem isBehind_trans (first : shelf.IsBehind role name) (second : shelf.Before other) :
    other.IsBehind role name := by
  unfold Before at second
  rcases first with less | ⟨rfl, less⟩
  · rcases second with less' | ⟨same, -⟩
    · exact .inl (Nat.lt_trans less less')
    · exact .inl (same ▸ less)
  · rcases second with less' | ⟨same, less'⟩
    · exact .inl less'
    · exact .inr ⟨same, String.lt_trans less less'⟩

theorem not_isOf_of_isBehind (h : shelf.IsBehind role name) : ¬ shelf.IsOf role name := by
  rintro ⟨rfl, rfl⟩
  rcases h with less | ⟨-, less⟩
  · exact Nat.lt_irrefl _ less
  · exact String.lt_irrefl _ less

/-- A shelf that is neither the one of a role and name nor behind it is in front of it. -/
theorem before_of_not (notOf : ¬ shelf.IsOf role name) (notBehind : ¬ shelf.IsBehind role name)
    (isOf : other.IsOf role name) : shelf.Before other := by
  obtain ⟨rfl, rfl⟩ := isOf
  simp only [IsBehind, not_or, not_and] at notBehind
  rcases Nat.lt_trichotomy (Vocabulary.position shelf.role) (Vocabulary.position other.role) with
    less | same | more
  · exact .inl less
  · have role := Vocabulary.position_injective same
    have le : shelf.name ≤ other.name := String.not_lt.1 (notBehind.2 role.symm)
    refine .inr ⟨role, String.not_le.1 fun ge => notOf ⟨role, String.le_antisymm le ge⟩⟩
  · exact absurd more notBehind.1

/-! ## Changing one shelf -/

theorem mem_alter (h : other ∈ alter role name change shelves) :
    other.IsOf role name ∨ other ∈ shelves := by
  induction shelves with
  | nil =>
    cases List.mem_singleton.1 h
    exact .inl ⟨rfl, rfl⟩
  | cons shelf rest ih =>
    simp only [alter] at h
    split at h
    · rcases List.mem_cons.1 h with rfl | later
      · exact .inl ⟨rfl, rfl⟩
      · exact .inr (List.mem_cons_of_mem _ later)
    · split at h
      · rcases List.mem_cons.1 h with rfl | kept
        · exact .inl ⟨rfl, rfl⟩
        · exact .inr kept
      · rcases List.mem_cons.1 h with rfl | later
        · exact .inr List.mem_cons_self
        · exact (ih later).imp_right (List.mem_cons_of_mem _)

/-- A shelf is changed in its place or put up in it. -/
theorem increasing_alter (h : shelves.Pairwise Before) (role : Role) (name : String)
    (change : List Snippet → List Snippet) : (alter role name change shelves).Pairwise Before := by
  induction shelves with
  | nil => exact List.pairwise_singleton ..
  | cons shelf rest ih =>
    obtain ⟨front, increasing⟩ := List.pairwise_cons.1 h
    simp only [alter]
    split
    next isOf =>
      refine List.pairwise_cons.2 ⟨fun other later => ?_, increasing⟩
      obtain ⟨rfl, rfl⟩ := isOf
      exact front other later
    next notOf =>
      split
      next isBehind =>
        refine List.pairwise_cons.2 ⟨fun other later => ?_, h⟩
        rcases List.mem_cons.1 later with rfl | later
        · exact isBehind
        · exact isBehind_trans isBehind (front other later)
      next notBehind =>
        refine List.pairwise_cons.2 ⟨fun other later => ?_, ih increasing⟩
        rcases mem_alter later with isOf | kept
        · exact before_of_not notOf notBehind isOf
        · exact front other kept

/-- Where shelves increase, there is no shelf of a role and name behind one that is behind its place. -/
theorem contents_eq_nil (h : ∀ other ∈ shelves, other.IsBehind role name) :
    contents role name shelves = [] := by
  induction shelves with
  | nil => rfl
  | cons shelf rest ih =>
    rw [contents, if_neg (not_isOf_of_isBehind (h shelf List.mem_cons_self))]
    exact ih fun other later => h other (List.mem_cons_of_mem _ later)

/-- The contents of one shelf are changed, and those of no other. -/
theorem contents_alter (h : shelves.Pairwise Before) (role' : Role) (name' : String) :
    contents role' name' (alter role name change shelves) =
      if role = role' ∧ name = name' then change (contents role name shelves)
      else contents role' name' shelves := by
  induction shelves with
  | nil => rfl
  | cons shelf rest ih =>
    obtain ⟨front, increasing⟩ := List.pairwise_cons.1 h
    by_cases isOf : shelf.IsOf role name
    · obtain ⟨rfl, rfl⟩ := isOf
      by_cases same : shelf.role = role' ∧ shelf.name = name' <;> simp [alter, contents, IsOf, same]
    · by_cases isBehind : shelf.IsBehind role name
      · have none : contents role name (shelf :: rest) = [] := by
          refine contents_eq_nil fun other member => ?_
          rcases List.mem_cons.1 member with rfl | later
          · exact isBehind
          · exact isBehind_trans isBehind (front other later)
        rw [none, alter, if_neg isOf, if_pos isBehind, contents]
        rfl
      · simp only [alter, if_neg isOf, if_neg isBehind, contents, ih increasing]
        by_cases here : shelf.IsOf role' name'
        · have other : ¬ (role = role' ∧ name = name') := by
            rintro ⟨rfl, rfl⟩
            exact isOf here
          simp only [if_pos here, if_neg other]
        · simp only [if_neg here]

theorem exists_of_contents (h : contents role name shelves ≠ []) : ∃ shelf ∈ shelves, shelf.IsOf role name := by
  induction shelves with
  | nil => exact absurd rfl h
  | cons shelf rest ih =>
    by_cases isOf : shelf.IsOf role name
    · exact ⟨shelf, List.mem_cons_self, isOf⟩
    · rw [contents, if_neg isOf] at h
      obtain ⟨other, later, found⟩ := ih h
      exact ⟨other, List.mem_cons_of_mem _ later, found⟩

/-- A shelf holds what is found under its role and name. -/
theorem contents_of_mem (h : shelves.Pairwise Before) (member : shelf ∈ shelves) :
    contents shelf.role shelf.name shelves = shelf.variants := by
  induction shelves with
  | nil => cases member
  | cons first rest ih =>
    obtain ⟨front, increasing⟩ := List.pairwise_cons.1 h
    rcases List.mem_cons.1 member with rfl | later
    · rw [contents, if_pos ⟨rfl, rfl⟩]
    · rw [contents, if_neg, ih increasing later]
      rintro ⟨role, name⟩
      exact not_isOf_of_isBehind (front shelf later) ⟨role.symm, name.symm⟩

/-- Changing a shelf twice comes to changing it once. -/
theorem alter_alter (again : List Snippet → List Snippet) (shelves : List Shelf) :
    alter role name again (alter role name change shelves) =
      alter role name (fun variants => again (change variants)) shelves := by
  have itself (variants : List Snippet) : IsOf ⟨role, name, variants⟩ role name := ⟨rfl, rfl⟩
  induction shelves with
  | nil => simp only [alter, if_pos (itself _)]
  | cons shelf rest ih =>
    by_cases isOf : shelf.IsOf role name
    · simp only [alter, if_pos isOf, if_pos (itself _)]
    · by_cases isBehind : shelf.IsBehind role name
      · simp only [alter, if_neg isOf, if_pos isBehind, if_pos (itself _)]
      · simp only [alter, if_neg isOf, if_neg isBehind, ih]

/-- The snippets on all shelves become more by what one shelf gains. -/
theorem length_alter {gain : Nat} (gains : ∀ variants, (change variants).length = variants.length + gain)
    (shelves : List Shelf) : ((alter role name change shelves).flatMap (·.variants)).length =
      (shelves.flatMap (·.variants)).length + gain := by
  induction shelves with
  | nil => simp [alter, gains]
  | cons shelf rest ih =>
    by_cases isOf : shelf.IsOf role name
    · simp only [alter, if_pos isOf, List.flatMap_cons, List.length_append, gains]
      omega
    · by_cases isBehind : shelf.IsBehind role name
      · simp only [alter, if_neg isOf, if_pos isBehind, List.flatMap_cons, List.length_append, gains,
          List.length_nil]
        omega
      · simp only [alter, if_neg isOf, if_neg isBehind, List.flatMap_cons, List.length_append, ih]
        omega

end Shelf

namespace Library

variable {library : Library} {books : Shelves} {s : Snippet} {history : List Snippet}

/-- The snippets of a role and name, oldest first. -/
def under (library : Library) (role : Role) (name : String) : List Snippet :=
  library.snippets.filter fun s => s.role = role ∧ s.name = name

theorem siblings_eq (library : Library) (s : Snippet) :
    library.siblings s = (library.under s.role s.name).filter (·.packing = s.packing) := by
  simp [siblings, under, List.filter_filter, Bool.and_comm]

theorem mem_under : s ∈ library.under role name ↔ s ∈ library.snippets ∧ s.role = role ∧ s.name = name := by
  simp [under]

end Library

open Library

namespace Shelves

/-- The shelves are the snippets of a library, sorted by role and name. -/
structure Sorts (books : Shelves) (library : Library) : Prop where
  increasing : books.shelves.Pairwise Shelf.Before
  contents : ∀ role name, Shelf.contents role name books.shelves = library.under role name
  /-- No shelf is empty. -/
  filled : ∀ shelf ∈ books.shelves, shelf.variants ≠ []
  size : books.size = library.size

namespace Sorts

variable {library next : Library} {books : Shelves} {s : Snippet}

theorem empty : Sorts {} {} where
  increasing := .nil
  contents _ _ := rfl
  filled _ member := by cases member
  size := rfl

/-- Shelves go along with a library that changes under one role and name and has snippets there then. -/
theorem alter (h : books.Sorts library) (gain : Nat)
    (gains : ∀ variants, (change variants).length = variants.length + gain)
    (there : next.under role name = change (library.under role name))
    (elsewhere : ∀ role' name', ¬ (role = role' ∧ name = name') →
      next.under role' name' = library.under role' name')
    (some : next.under role name ≠ []) (grown : next.size = library.size + gain) :
    Sorts ⟨Shelf.alter role name change books.shelves⟩ next := by
  have increasing := Shelf.increasing_alter h.increasing role name change
  refine ⟨increasing, fun role' name' => ?_, fun shelf member => ?_, ?_⟩
  · rw [Shelf.contents_alter h.increasing]
    split
    next same =>
      obtain ⟨rfl, rfl⟩ := same
      rw [there, h.contents]
    next other => rw [elsewhere role' name' other, h.contents]
  · rcases Shelf.mem_alter member with ⟨rfl, rfl⟩ | kept
    · rw [← Shelf.contents_of_mem increasing member, Shelf.contents_alter h.increasing,
        if_pos ⟨rfl, rfl⟩, h.contents, ← there]
      exact some
    · exact h.filled shelf kept
  · rw [grown, ← h.size]
    exact Shelf.length_alter gains books.shelves

/-- Shelves answer as the library does, and go along with it whatever the answer is. -/
theorem register (h : books.Sorts library) (s : Snippet) :
    (books.register s).2 = (library.register s).map (fun _ => ()) ∧
      (books.register s).1.Sorts (library.offered s) := by
  have rivals : (Shelf.contents s.role s.name (Shelf.alter s.role s.name id books.shelves)).filter
      (·.packing = s.packing) = library.siblings s := by
    rw [Shelf.contents_alter h.increasing, if_pos ⟨rfl, rfl⟩, h.contents, siblings_eq]
    rfl
  by_cases unusable : (s.stages.isEmpty || s.dialects.isEmpty) = true
  · simp only [Shelves.register, offered, Library.register, unusable, if_true]
    exact ⟨rfl, h⟩
  · cases overlaps : (library.siblings s).findSome? (overlap? s) with
    | some taken =>
      simp only [Shelves.register, offered, Library.register, unusable, Bool.false_eq_true, if_false,
        rivals, overlaps]
      -- the shelf that was asked for was there, since a snippet on it is in the way
      refine ⟨rfl, h.alter 0 (fun _ => rfl) rfl (fun _ _ _ => rfl) ?_ rfl⟩
      obtain ⟨t, sibling, -⟩ := List.exists_of_findSome?_eq_some overlaps
      rw [siblings_eq] at sibling
      exact List.ne_nil_of_mem (List.mem_filter.1 sibling).1
    | none =>
      simp only [Shelves.register, offered, Library.register, unusable, Bool.false_eq_true, if_false,
        rivals, overlaps, Shelf.alter_alter]
      have new (role : Role) (name : String) : under ⟨library.snippets ++ [s]⟩ role name =
          library.under role name ++ if s.role = role ∧ s.name = name then [s] else [] := by
        simp only [under, List.filter_append, List.filter_cons, List.filter_nil, decide_eq_true_eq]
      refine ⟨rfl, h.alter 1 (fun variants => by simp) ?_ (fun role name other => ?_) ?_ ?_⟩
      · rw [new, if_pos ⟨rfl, rfl⟩]
        rfl
      · rw [new, if_neg other, List.append_nil]
      · rw [new, if_pos ⟨rfl, rfl⟩]
        exact List.append_ne_nil_of_right_ne_nil _ (List.cons_ne_nil _ _)
      · exact List.length_append

theorem foldl (h : books.Sorts library) (history : List Snippet) :
    (history.foldl (fun books s => (books.register s).1) books).Sorts (history.foldl offered library) := by
  induction history generalizing books library with
  | nil => exact h
  | cons s history ih => exact ih (h.register s).2

/-- Definitions are put on shelves as they are registered. -/
theorem registerDefinitions (h : books.Sorts library) (ds : List Snippet.Definition) :
    (books.registerDefinitions ds).Sorts (library.registerDefinitions ds).1 := by
  induction ds generalizing books library with
  | nil => exact h
  | cons d ds ih =>
    rw [Shelves.registerDefinitions, List.foldl_cons, ← Shelves.registerDefinitions,
      Library.registerDefinitions, registerDefinition]
    cases resolved : d.resolve with
    | error e => exact ih h
    | ok s =>
      have next := (h.register s).2
      rw [offered] at next
      cases registered : library.register s with
      | error e =>
        rw [registered] at next
        simpa [bind, Except.bind, registered] using ih next
      | ok after =>
        rw [registered] at next
        simpa [bind, Except.bind, registered] using ih next

end Sorts

end Shelves

/-! ## The books -/

namespace Shelves.Sorts

variable {library : Library} {books : Shelves}

/-- There is a shelf just where there are snippets. -/
theorem exists_shelf_iff (h : books.Sorts library) :
    (∃ shelf ∈ books.shelves, shelf.IsOf role name) ↔
      ∃ s ∈ library.snippets, s.role = role ∧ s.name = name := by
  constructor
  · rintro ⟨shelf, member, rfl, rfl⟩
    have filled := h.filled shelf member
    rw [← Shelf.contents_of_mem h.increasing member, h.contents] at filled
    obtain ⟨s, hs⟩ := List.exists_mem_of_ne_nil _ filled
    exact ⟨s, mem_under.1 hs⟩
  · rintro ⟨s, hs⟩
    have filled := List.ne_nil_of_mem (mem_under.2 hs)
    rw [← h.contents] at filled
    exact Shelf.exists_of_contents filled

/-- Without snippets there is no shelf, since none would have a snippet on it. -/
theorem isEmpty_iff (h : books.Sorts library) : books.isEmpty = true ↔ books.size = 0 := by
  rw [isEmpty, List.isEmpty_iff, Shelves.size, List.length_eq_zero_iff, List.flatMap_eq_nil_iff]
  constructor
  · intro none shelf member
    rw [none] at member
    cases member
  · intro empty
    refine List.eq_nil_iff_forall_not_mem.2 fun shelf member => ?_
    exact h.filled shelf member (empty shelf member)

theorem mem_names (h : books.Sorts library) :
    name ∈ books.names role ↔ ∃ s ∈ library.snippets, s.role = role ∧ s.name = name := by
  rw [← h.exists_shelf_iff]
  simp [names, Shelf.IsOf, and_assoc]

/-- The names of a role increase, since its shelves do. -/
theorem names_increasing (h : books.Sorts library) (role : Role) :
    (books.names role).Pairwise (· < ·) := by
  rw [names, List.pairwise_map]
  refine (h.increasing.filter _).imp_of_mem fun {shelf other} hs ho before => ?_
  simp only [List.mem_filter, decide_eq_true_eq] at hs ho
  rcases before with less | ⟨-, less⟩
  · rw [hs.2, ho.2] at less
    exact absurd less (Nat.lt_irrefl _)
  · exact less

end Shelves.Sorts

namespace Library

variable {library : Library} {s : Snippet}

/-- A name is put at its place among increasing names. -/
theorem increasing_insertName {names : List String} (h : names.Pairwise (· < ·)) (name : String) :
    (insertName name names).Pairwise (· < ·) := by
  induction names with
  | nil => exact List.pairwise_singleton ..
  | cons other rest ih =>
    obtain ⟨front, increasing⟩ := List.pairwise_cons.1 h
    unfold insertName
    split
    next less =>
      refine List.pairwise_cons.2 ⟨fun later member => ?_, h⟩
      rcases List.mem_cons.1 member with rfl | member
      · exact less
      · exact String.lt_trans less (front later member)
    next notLess =>
      split
      · exact h
      next differ =>
        refine List.pairwise_cons.2 ⟨fun later member => ?_, ih increasing⟩
        rcases mem_insertName.1 member with rfl | member
        · exact String.not_le.1 fun le => differ (String.le_antisymm le (String.not_lt.1 notLess))
        · exact front later member

theorem names_increasing (library : Library) (role : Role) : (library.names role).Pairwise (· < ·) := by
  unfold names
  induction (library.snippets.filter (·.role = role)).map (·.name) with
  | nil => exact .nil
  | cons name rest ih => exact increasing_insertName ih name

/-- Increasing lists with the same members are the same. -/
theorem eq_of_increasing {names others : List String} (hn : names.Pairwise (· < ·))
    (ho : others.Pairwise (· < ·)) (same : ∀ name, name ∈ names ↔ name ∈ others) : names = others := by
  have distinct {l : List String} (h : l.Pairwise (· < ·)) : l.Nodup := by
    show l.Pairwise (· ≠ ·)
    refine h.imp fun {a b} less same => ?_
    rw [same] at less
    exact String.lt_irrefl b less
  refine List.Perm.eq_of_pairwise (fun a b _ _ less more => ?_) hn ho ?_
  · exact absurd more (String.lt_asymm less)
  · exact (List.perm_ext_iff_of_nodup (distinct hn) (distinct ho)).2 same

/-! ## What was accepted -/

/-- The snippets that a library takes when snippets are offered to it in order, and that have a case. -/
def accepted (library : Library) : List Snippet → List Snippet
  | [] => []
  | s :: rest =>
    let later := (library.offered s).accepted rest
    if !s.stages.isEmpty && !s.dialects.isEmpty && (library.register s).isOk then s :: later
    else later

theorem snippets_offered_eq (library : Library) (s : Snippet) :
    (library.offered s).snippets = library.snippets ++
      if !s.stages.isEmpty && !s.dialects.isEmpty && (library.register s).isOk then [s] else [] := by
  have usable : (!s.stages.isEmpty && !s.dialects.isEmpty) = !(s.stages.isEmpty || s.dialects.isEmpty) :=
    (Bool.not_or ..).symm
  unfold offered register
  rw [usable]
  by_cases unusable : (s.stages.isEmpty || s.dialects.isEmpty) = true
  · simp [unusable]
  · simp only [unusable, Bool.false_eq_true, if_false]
    cases (library.siblings s).findSome? (overlap? s) with
    | some taken => simp [Except.isOk, Except.toBool]
    | none => simp [Except.isOk, Except.toBool]

/-- What is accepted is put behind the snippets that were there, in order. -/
theorem snippets_foldl_offered_eq (library : Library) (history : List Snippet) :
    (history.foldl offered library).snippets = library.snippets ++ library.accepted history := by
  induction history generalizing library with
  | nil => exact (List.append_nil _).symm
  | cons s history ih =>
    rw [List.foldl_cons, ih, snippets_offered_eq, accepted, List.append_assoc]
    split <;> rfl

end Library

/-- The shelves after snippets were offered in order, some of which were refused. -/
def Shelves.ofOffers (history : List Snippet) : Shelves :=
  history.foldl (fun books s => (books.register s).1) {}

/--
The books of a library are exact after any history of offers, refusals and snippets without a case among
them. They count the snippets that were accepted and have a case; there is no shelf just where they count
none; and the names of a role increase and are those under which such a snippet was accepted. The library
itself counts and names the same, and it takes or refuses what the shelves take or refuse.
-/
theorem Library.bookkeeping_exact (history : List Snippet) :
    let library := ofOffers history
    let books := Shelves.ofOffers history
    let accepted := Library.accepted {} history
    books.size = accepted.length ∧ (books.isEmpty = true ↔ books.size = 0) ∧
      (∀ role, (books.names role).Pairwise (· < ·) ∧
        ∀ name, name ∈ books.names role ↔ ∃ s ∈ accepted, s.role = role ∧ s.name = name) ∧
      library.size = books.size ∧ (∀ role, library.names role = books.names role) ∧
      ∀ s, (books.register s).2 = (library.register s).map fun _ => () := by
  intro library books accepted
  have sorts : books.Sorts library := Shelves.Sorts.empty.foldl history
  have snippets : library.snippets = accepted := snippets_foldl_offered_eq {} history
  have size : library.size = accepted.length := congrArg List.length snippets
  have members (role : Role) (name : String) := @Shelves.Sorts.mem_names role name _ _ sorts
  rw [snippets] at members
  refine ⟨sorts.size.trans size, sorts.isEmpty_iff, fun role => ⟨sorts.names_increasing role, members role⟩,
    sorts.size.symm, fun role => ?_, fun s => (sorts.register s).1⟩
  refine eq_of_increasing (library.names_increasing role) (sorts.names_increasing role) fun name => ?_
  rw [Library.mem_names, sorts.mem_names]

/-- A refused snippet and one without a dialect are not counted, and the names come in order. -/
example :
    let slate := { Library.brick [.glsl120] "slate" with name := "Slate" }
    let books := Shelves.ofOffers [Library.brick [.glsl120] "old", slate, Library.brick [] "none",
      Library.brick [.glsl120, .glsl130] "both", { Library.brick [] "none" with role := .fog }]
    books.size = 2 ∧ books.names .diffuseMapping = ["Slate", "brick"] ∧ books.names .fog = [] ∧
      books.isEmpty = false := by
  cbv

end ShaderComposition
