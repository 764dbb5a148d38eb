import ShaderComposition.Glsl.Type

/-!
# Names of types

The types of both kinds have one list of names, and no name stands for two of them
(`GlslType.spelling_injective`). A name is a single word of letters and digits
(`GlslType.exists_spelling_eq`), so it can be told apart from what is written around it.
-/

namespace ShaderComposition.GlslType

theorem spelling_ne_alias (type : GlslType) : type.spelling ≠ "unsigned int" := by
  rcases type with d | k
  · cases d <;> decide
  · cases k <;> decide

theorem ofSpelling?_spelling (type : GlslType) : ofSpelling? type.spelling = some type := by
  have same : normalize type.spelling = type.spelling := if_neg (spelling_ne_alias type)
  rw [ofSpelling?, same]
  cases type with
  | data d => rw [spelling, Vocabulary.symbol?_spelling]; rfl
  | sampler k =>
    have apart : (Vocabulary.symbol? (Vocabulary.spelling k) : Option DataType) = none := by
      cases k <;> decide
    rw [spelling, apart, Vocabulary.symbol?_spelling]
    rfl

theorem spelling_injective {s t : GlslType} (h : s.spelling = t.spelling) : s = t :=
  Option.some.inj ((ofSpelling?_spelling s).symm.trans (h ▸ ofSpelling?_spelling t))

/-- The name of a type is a word of letters and digits. -/
theorem exists_spelling_eq (type : GlslType) :
    ∃ c word, type.spelling.toList = c :: word ∧ c.isAlphanum = true ∧ ∀ d ∈ word, d.isAlphanum = true := by
  have letters : type.spelling.toList ≠ [] ∧ type.spelling.toList.all Char.isAlphanum = true := by
    cases type with
    | data type => cases type <;> decide
    | sampler kind => cases kind <;> decide
  obtain ⟨c, word, same⟩ := List.exists_cons_of_ne_nil letters.1
  rw [same, List.all_cons, Bool.and_eq_true, List.all_eq_true] at letters
  exact ⟨c, word, same, letters.2.1, letters.2.2⟩

end ShaderComposition.GlslType
