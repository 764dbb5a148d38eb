import ShaderComposition.Library

/-!
# First come, first served

What a library answers is a partial map from cases to snippets. Offered a snippet, the map takes it if
none of its cases is taken and refuses it as a whole otherwise. `Refines` says that a library answers
every case as the map does; one registration keeps this up (`Refines.step`), and so does any history of
registrations (`refines_ofOffers`).
-/

namespace ShaderComposition

/-- A case that a snippet can be asked for. -/
structure Case where
  role : Role
  name : String
  stage : Stage
  dialect : Dialect
  packing : Packing
deriving DecidableEq

/-- How a snippet is refused for a case that is taken. -/
def Case.refusal (c : Case) : BuildError :=
  .duplicateVariant c.role c.name c.stage c.dialect c.packing

/-- The cases that a snippet is written for: each of its stages with each of its dialects. -/
def Snippet.cases (s : Snippet) : List Case :=
  s.stages.toList.flatMap fun stage => s.dialects.toList.map fun dialect =>
    ⟨s.role, s.name, stage, dialect, s.packing⟩

/-- The snippet that each case is served by, if there is one. -/
abbrev Assignment := Case → Option Snippet

namespace Assignment

/-- No case is taken. -/
def empty : Assignment := fun _ => none

/-- None of the snippet's cases is taken. -/
def accepts (m : Assignment) (s : Snippet) : Bool :=
  s.cases.all fun c => (m c).isNone

/-- The snippet takes all of its cases. -/
def assign (m : Assignment) (s : Snippet) : Assignment := fun c =>
  if c ∈ s.cases then some s else m c

/-- First come, first served: a snippet takes all of its cases or none. -/
def offer (m : Assignment) (s : Snippet) : Assignment :=
  if m.accepts s then m.assign s else m

/-- What is assigned after snippets were offered in order. -/
def ofOffers (history : List Snippet) : Assignment :=
  history.foldl offer empty

theorem accepts_iff {m : Assignment} {s : Snippet} :
    m.accepts s = true ↔ ∀ c ∈ s.cases, m c = none := by
  simp [accepts]

end Assignment

namespace Snippet

variable {s t : Snippet} {c : Case}

theorem mem_cases : c ∈ s.cases ↔ s.role = c.role ∧ s.name = c.name ∧ s.packing = c.packing ∧
    s.supports c.stage c.dialect = true := by
  simp only [cases, List.mem_flatMap, List.mem_map, SymbolSet.mem_toList, supports,
    Bool.and_eq_true]
  constructor
  · rintro ⟨stage, hs, dialect, hd, rfl⟩
    exact ⟨rfl, rfl, rfl, hs, hd⟩
  · rintro ⟨role, name, packing, hs, hd⟩
    exact ⟨c.stage, hs, c.dialect, hd, by rw [role, name, packing]⟩

/-- A snippet that is written for no stage or for no dialect has no case. -/
theorem cases_eq_nil (h : s.stages.isEmpty = true ∨ s.dialects.isEmpty = true) : s.cases = [] := by
  rcases h with none | none
  · simp [cases, SymbolSet.isEmpty_iff.1 none]
  · simp [cases, SymbolSet.isEmpty_iff.1 none]

end Snippet

namespace Library

variable {library : Library} {s t : Snippet} {c : Case} {stage : Stage} {dialect : Dialect}
  {m : Assignment}

/-! ## What two snippets have in common -/

theorem overlap?_eq_some (h : overlap? s t = some (stage, dialect)) :
    s.supports stage dialect = true ∧ t.supports stage dialect = true := by
  unfold overlap? at h
  split at h
  next stage' stages dialect' dialects hs hd =>
    cases h
    have hs : stage ∈ (s.stages.inter t.stages).toList := hs ▸ List.mem_cons_self
    have hd : dialect ∈ (s.dialects.inter t.dialects).toList := hd ▸ List.mem_cons_self
    simp only [SymbolSet.mem_toList, SymbolSet.contains_inter, Bool.and_eq_true] at hs hd
    simp only [Snippet.supports, Bool.and_eq_true]
    exact ⟨⟨hs.1, hd.1⟩, hs.2, hd.2⟩
  · cases h

theorem overlap?_ne_none (hs : s.supports stage dialect = true)
    (ht : t.supports stage dialect = true) : overlap? s t ≠ none := by
  simp only [Snippet.supports, Bool.and_eq_true] at hs ht
  have stages : stage ∈ (s.stages.inter t.stages).toList := by
    simp [SymbolSet.mem_toList, hs.1, ht.1]
  have dialects : dialect ∈ (s.dialects.inter t.dialects).toList := by
    simp [SymbolSet.mem_toList, hs.2, ht.2]
  unfold overlap?
  split
  · simp
  next none =>
    obtain ⟨_, _, first⟩ := List.exists_cons_of_ne_nil (List.ne_nil_of_mem stages)
    obtain ⟨_, _, second⟩ := List.exists_cons_of_ne_nil (List.ne_nil_of_mem dialects)
    exact absurd second (none _ _ _ _ first)

/-! ## What a library answers -/

/-- The snippet that a case is served by, packed exactly as asked. -/
def answer (library : Library) : Assignment := fun c =>
  library.find? c.role c.name c.stage c.dialect c.packing

theorem answer_eq (library : Library) (c : Case) :
    library.answer c = library.snippets.find? (c ∈ ·.cases) := by
  unfold answer find?
  congr 1
  funext s
  rw [Bool.eq_iff_iff]
  simp [Snippet.mem_cases, and_assoc]

theorem answer_eq_none_iff :
    library.answer c = none ↔ ∀ t ∈ library.snippets, c ∉ t.cases := by
  simp [answer_eq]

theorem answer_append (snippets : List Snippet) (s : Snippet) (c : Case) :
    (Library.mk (snippets ++ [s])).answer c =
      ((Library.mk snippets).answer c).or (if c ∈ s.cases then some s else none) := by
  rw [answer_eq, answer_eq, List.find?_append]
  by_cases member : c ∈ s.cases <;> simp [member]

/-- What is refused has a case that is taken, and the refusal names such a case. -/
theorem register_of_overlap
    (h : (library.siblings s).findSome? (overlap? s) = some (stage, dialect)) :
    ∃ c ∈ s.cases, library.answer c ≠ none ∧
      c.refusal = .duplicateVariant s.role s.name stage dialect s.packing := by
  obtain ⟨t, member, common⟩ := List.exists_of_findSome?_eq_some h
  obtain ⟨hs, ht⟩ := overlap?_eq_some common
  simp only [siblings, List.mem_filter, Bool.and_eq_true, decide_eq_true_eq] at member
  obtain ⟨known, ⟨role, name⟩, packing⟩ := member
  refine ⟨⟨s.role, s.name, stage, dialect, s.packing⟩, ?_, ?_, rfl⟩
  · exact Snippet.mem_cases.2 ⟨rfl, rfl, rfl, hs⟩
  · intro free
    exact answer_eq_none_iff.1 free t known (Snippet.mem_cases.2 ⟨role, name, packing, ht⟩)

/-- What has no common case with its siblings has no case that is taken. -/
theorem answer_eq_none_of_no_overlap
    (h : (library.siblings s).findSome? (overlap? s) = none) (hc : c ∈ s.cases) :
    library.answer c = none := by
  rw [answer_eq_none_iff]
  intro t known covers
  obtain ⟨role, name, packing, hs⟩ := Snippet.mem_cases.1 hc
  obtain ⟨role', name', packing', ht⟩ := Snippet.mem_cases.1 covers
  have sibling : t ∈ library.siblings s := by
    simp [siblings, known, role, role', name, name', packing, packing']
  exact overlap?_ne_none hs ht (List.findSome?_eq_none_iff.1 h t sibling)

/-- A snippet takes all of its cases, or one of them is taken and it is refused for that. -/
theorem register_cases (library : Library) (s : Snippet) :
    (∃ next, library.register s = .ok next ∧ (∀ c ∈ s.cases, library.answer c = none) ∧
        next.answer = library.answer.assign s) ∨
      ∃ c ∈ s.cases, library.answer c ≠ none ∧ library.register s = .error c.refusal := by
  unfold register
  split
  next unusable =>
    have none := Snippet.cases_eq_nil (Bool.or_eq_true_iff.1 unusable)
    refine .inl ⟨library, rfl, by simp [none], ?_⟩
    funext c
    simp [Assignment.assign, none]
  next =>
    split
    next stage dialect common =>
      obtain ⟨c, hc, known, refusal⟩ := register_of_overlap common
      exact .inr ⟨c, hc, known, by rw [refusal]⟩
    next apart =>
      have free (c : Case) (hc : c ∈ s.cases) := answer_eq_none_of_no_overlap apart hc
      refine .inl ⟨_, rfl, free, ?_⟩
      funext c
      rw [answer_append, Assignment.assign]
      by_cases hc : c ∈ s.cases
      · simp [hc, free c hc]
      · simp [hc]

/-! ## Histories -/

/-- The library after a snippet was offered to it: one that is refused leaves no trace. -/
def offered (library : Library) (s : Snippet) : Library :=
  match library.register s with
  | .ok next => next
  | .error _ => library

/-- What an empty library becomes when snippets are offered to it in order. -/
def ofOffers (history : List Snippet) : Library :=
  history.foldl offered {}

/-- The library answers every case as it is assigned. -/
def Refines (library : Library) (m : Assignment) : Prop :=
  ∀ c, library.answer c = m c

theorem refines_empty : Refines {} Assignment.empty :=
  fun _ => rfl

namespace Refines

/-- A snippet is registered just where it is accepted. -/
theorem register_isOk (h : library.Refines m) (s : Snippet) :
    (library.register s).isOk = m.accepts s := by
  rw [Bool.eq_iff_iff, Assignment.accepts_iff]
  rcases library.register_cases s with ⟨next, registered, free, -⟩ | ⟨c, hc, known, refused⟩
  · simp only [registered, Except.isOk, Except.toBool, true_iff]
    exact fun c hc => h c ▸ free c hc
  · simp only [refused, Except.isOk, Except.toBool, Bool.false_eq_true, false_iff]
    exact fun free => known ((h c).trans (free c hc))

/-- A refusal names a case that is taken. -/
theorem register_error (h : library.Refines m) {e : BuildError}
    (refused : library.register s = .error e) : ∃ c ∈ s.cases, m c ≠ none ∧ e = c.refusal := by
  rcases library.register_cases s with ⟨next, registered, -⟩ | ⟨c, hc, known, refusal⟩
  · rw [registered] at refused
    cases refused
  · rw [refusal] at refused
    cases refused
    exact ⟨c, hc, h c ▸ known, rfl⟩

/-- One offer is served in the library as it is in the assignment. -/
theorem step (h : library.Refines m) (s : Snippet) : (library.offered s).Refines (m.offer s) := by
  have accepted := h.register_isOk s
  intro c
  -- both take the snippet or both pass it over, since they agree on what is taken
  rcases library.register_cases s with ⟨next, registered, -, answers⟩ | ⟨_, -, -, refused⟩
  · rw [registered] at accepted
    simp only [offered, registered, answers, Assignment.offer, ← accepted, Except.isOk,
      Except.toBool, if_true, Assignment.assign, h c]
  · rw [refused] at accepted
    simp only [offered, refused, Assignment.offer, ← accepted, Except.isOk, Except.toBool,
      Bool.false_eq_true, if_false, h c]

theorem foldl (h : library.Refines m) (history : List Snippet) :
    (history.foldl offered library).Refines (history.foldl Assignment.offer m) := by
  induction history generalizing library m with
  | nil => exact h
  | cons s history ih => exact ih (h.step s)

/-- Where merged packing is asked for and not assigned, plain packing is looked up. -/
theorem lookup (h : library.Refines m) (role : Role) (name : String) (stage : Stage)
    (dialect : Dialect) :
    library.lookup role name stage dialect .default = m ⟨role, name, stage, dialect, .default⟩ ∧
      library.lookup role name stage dialect .merged =
        (m ⟨role, name, stage, dialect, .merged⟩).or (m ⟨role, name, stage, dialect, .default⟩) := by
  have plain := h ⟨role, name, stage, dialect, .default⟩
  have merged := h ⟨role, name, stage, dialect, .merged⟩
  exact ⟨plain, by rw [← plain, ← merged]; rfl⟩

end Refines

/-- Any history of offers is served in the library as it is in the assignment. -/
theorem refines_ofOffers (history : List Snippet) :
    (ofOffers history).Refines (.ofOffers history) :=
  refines_empty.foldl history

/--
A library serves first come, first served. After any history of offers it registers a snippet just
where none of the snippet's cases is taken; it refuses a snippet for one of its cases that is taken, and
stays as it is; and it looks up what is assigned, plainly packed where merged packing is not.
-/
theorem first_come_first_served (history : List Snippet) (s : Snippet) :
    let library := ofOffers history
    let assigned := Assignment.ofOffers history
    (library.register s).isOk = assigned.accepts s ∧
      (∀ e, library.register s = .error e → library.offered s = library ∧
        ∃ c ∈ s.cases, assigned c ≠ none ∧ e = c.refusal) ∧
      ∀ role name stage dialect,
        library.lookup role name stage dialect .default =
            assigned ⟨role, name, stage, dialect, .default⟩ ∧
          library.lookup role name stage dialect .merged =
            (assigned ⟨role, name, stage, dialect, .merged⟩).or
              (assigned ⟨role, name, stage, dialect, .default⟩) := by
  intro library assigned
  have refines : library.Refines assigned := refines_ofOffers history
  refine ⟨refines.register_isOk s, fun e refused => ⟨?_, refines.register_error refused⟩, ?_⟩
  · rw [offered, refused]
  · exact fun role name stage dialect => refines.lookup role name stage dialect

/-- A snippet for some dialects. -/
def brick (dialects : List Dialect) (body : String) : Snippet :=
  { Snippet.plain .diffuseMapping "brick" body with dialects := .ofList dialects }

/-- What overlaps is refused as a whole: the dialect that it alone covers goes to a later snippet. -/
theorem brick_first_come :
    let old := brick [.glsl120, .glsl130] "old"
    let both := brick [.glsl130, .glsl140] "both"
    let new := brick [.glsl140] "new"
    let library := ofOffers [old, both, new]
    (∃ c ∈ both.cases, c.dialect = .glsl130 ∧ (ofOffers [old]).register both = .error c.refusal) ∧
      library.lookup .diffuseMapping "brick" .fragment .glsl130 .default = some old ∧
      library.lookup .diffuseMapping "brick" .fragment .glsl140 .merged = some new := by
  intro old both new library
  have refused : (ofOffers [old]).register both =
      .error (.duplicateVariant .diffuseMapping "brick" .fragment .glsl130 .default) := by cbv
  obtain ⟨-, refusals, -⟩ := first_come_first_served [old] both
  obtain ⟨-, c, hc, -, same⟩ := refusals _ refused
  obtain ⟨-, -, served⟩ := first_come_first_served [old, both, new] old
  refine ⟨⟨c, hc, ?_, same ▸ refused⟩, ?_, ?_⟩
  · exact (BuildError.duplicateVariant.inj same).2.2.2.1.symm
  · exact (served ..).1.trans (by decide)
  · exact (served ..).2.trans (by decide)

end Library

end ShaderComposition
