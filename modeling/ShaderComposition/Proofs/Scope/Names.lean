import ShaderComposition.Parameter

/-!
# Lists of declarations by name

Declarations are looked up by name, and the first of a name is the one that counts. Where every name
occurs once, looking a name up and being in the list are the same (`firstNamed_eq_some_iff`).
-/

namespace ShaderComposition

/-- The first of some declarations that has the name. -/
def firstNamed (ds : List Parameter) (n : String) : Option Parameter :=
  ds.find? (·.name == n)

/-- No name occurs twice. -/
def DistinctNames (ds : List Parameter) : Prop :=
  (ds.map (·.name)).Nodup

section FirstNamed

variable {ds : List Parameter} {d : Parameter} {n : String}

@[simp] theorem firstNamed_nil : firstNamed [] n = none := rfl

theorem firstNamed_cons : firstNamed (d :: ds) n = if d.name = n then some d else firstNamed ds n := by
  by_cases h : d.name = n <;> simp [firstNamed, h]

theorem firstNamed_append {es : List Parameter} :
    firstNamed (ds ++ es) n = (firstNamed ds n).or (firstNamed es n) :=
  List.find?_append

theorem firstNamed_eq_none : firstNamed ds n = none ↔ ∀ d ∈ ds, d.name ≠ n := by
  simp [firstNamed]

theorem name_of_firstNamed (h : firstNamed ds n = some d) : d.name = n := by
  simpa using List.find?_some h

theorem mem_of_firstNamed (h : firstNamed ds n = some d) : d ∈ ds :=
  List.mem_of_find?_eq_some h

theorem exists_firstNamed (h : d ∈ ds) : ∃ e, firstNamed ds d.name = some e := by
  cases found : firstNamed ds d.name with
  | some e => exact ⟨e, rfl⟩
  | none => exact absurd rfl (firstNamed_eq_none.1 found d h)

/-- Leaving out some names does not change what the others stand for. -/
theorem firstNamed_filter (keep : String → Bool) :
    firstNamed (ds.filter fun d => keep d.name) n = if keep n then firstNamed ds n else none := by
  induction ds with
  | nil => simp
  | cons d ds ih =>
    by_cases same : d.name = n
    · subst same
      by_cases kept : keep d.name = true
      · simp [kept, firstNamed_cons]
      · simp only [kept, Bool.false_eq_true, if_false] at ih
        simpa [kept] using ih
    · by_cases kept : keep d.name = true <;> simp [kept, firstNamed_cons, same, ih]

/-- The declarations of a name, in order. -/
def named (ds : List Parameter) (n : String) : List Parameter :=
  ds.filter (·.name == n)

theorem mem_named : d ∈ named ds n ↔ d ∈ ds ∧ d.name = n := by
  simp [named]

theorem named_eq_nil : named ds n = [] ↔ ∀ d ∈ ds, d.name ≠ n := by
  simp [named]

theorem head?_named : (named ds n).head? = firstNamed ds n :=
  List.head?_filter

end FirstNamed

section DistinctNames

variable {ds es : List Parameter} {d e : Parameter} {n : String}

theorem DistinctNames.eq_of_name (distinct : DistinctNames ds) (hd : d ∈ ds) (he : e ∈ ds)
    (same : d.name = e.name) : d = e :=
  eq_of_nodup_map distinct hd he same

theorem firstNamed_eq_some_iff (distinct : DistinctNames ds) :
    firstNamed ds n = some d ↔ d ∈ ds ∧ d.name = n := by
  refine ⟨fun h => ⟨mem_of_firstNamed h, name_of_firstNamed h⟩, ?_⟩
  rintro ⟨hd, rfl⟩
  obtain ⟨e, he⟩ := exists_firstNamed hd
  rw [he, distinct.eq_of_name hd (mem_of_firstNamed he) (name_of_firstNamed he).symm]

/-- With distinct names the order of the list does not matter. -/
theorem firstNamed_congr (hd : DistinctNames ds) (he : DistinctNames es)
    (same : ∀ d, d ∈ ds ↔ d ∈ es) : firstNamed ds n = firstNamed es n := by
  apply Option.ext
  intro d
  rw [firstNamed_eq_some_iff hd, firstNamed_eq_some_iff he, same]

theorem DistinctNames.left (h : DistinctNames (ds ++ es)) : DistinctNames ds :=
  (List.nodup_append.1 (by simpa [DistinctNames] using h)).1

/-- A name in front does not occur behind. -/
theorem DistinctNames.apart (h : DistinctNames (ds ++ es)) (hd : d ∈ ds) (he : e ∈ es) :
    d.name ≠ e.name :=
  (List.nodup_append.1 (by simpa [DistinctNames] using h)).2.2 _ (List.mem_map_of_mem hd) _
    (List.mem_map_of_mem he)

/-- With distinct names a declaration is the only one of its name. -/
theorem DistinctNames.named_eq (distinct : DistinctNames ds) (hd : d ∈ ds) : named ds d.name = [d] := by
  obtain ⟨before, after, rfl⟩ := List.append_of_mem hd
  have front : named before d.name = [] :=
    named_eq_nil.2 fun e he => distinct.apart he List.mem_cons_self
  have back : named after d.name = [] := by
    rw [← List.singleton_append, ← List.append_assoc] at distinct
    refine named_eq_nil.2 fun e he => (distinct.apart ?_ he).symm
    exact List.mem_append_right _ List.mem_cons_self
  unfold named at *
  rw [List.filter_append, front, List.filter_cons_of_pos (by simp), back, List.nil_append]

end DistinctNames

end ShaderComposition
