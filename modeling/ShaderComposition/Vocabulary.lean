/-!
# Closed vocabularies

A vocabulary is a finite list of symbols, each with one spelling. Reading a spelling is a search in
the list, so reading and spelling are inverse to each other (`symbol?_spelling`,
`symbol?_eq_some_iff`), and a symbol's position is its place in the list.
-/

namespace ShaderComposition

/-- Members of a list that a function tells apart are equal where it takes them to the same. -/
theorem eq_of_nodup_map {α β : Type} {f : α → β} {l : List α} (distinct : (l.map f).Nodup) {a b : α}
    (ha : a ∈ l) (hb : b ∈ l) (same : f a = f b) : a = b := by
  obtain ⟨i, hi, rfl⟩ := List.getElem_of_mem ha
  obtain ⟨j, hj, rfl⟩ := List.getElem_of_mem hb
  have differ := List.pairwise_iff_getElem.1 (List.pairwise_map.1 distinct)
  rcases Nat.lt_trichotomy i j with less | rfl | more
  · exact absurd same (differ i j hi hj less)
  · rfl
  · exact absurd same.symm (differ j i hj hi more)

/-- A finite type whose members have distinct spellings, listed in a fixed order. -/
class Vocabulary (α : Type) [DecidableEq α] where
  /-- The name that reports give to the vocabulary. -/
  catalog : String
  /-- Every symbol, in the vocabulary's order. -/
  symbols : List α
  spelling : α → String
  complete : ∀ a, a ∈ symbols
  distinct : (symbols.map spelling).Nodup

namespace Vocabulary

variable {α : Type} [DecidableEq α] [Vocabulary α]

/-- Every symbol of a vocabulary, in its order. -/
abbrev all (α : Type) [DecidableEq α] [Vocabulary α] : List α := symbols

/-- The symbol that a text spells. -/
def symbol? (text : String) : Option α :=
  (all α).find? (spelling · == text)

/-- The place of a symbol in its vocabulary, from zero. -/
def position (a : α) : Nat :=
  (all α).idxOf a

theorem nodup_all : (all α).Nodup :=
  (List.pairwise_map.1 distinct).imp fun differ same => differ (congrArg spelling same)

theorem spelling_injective {a b : α} (h : spelling a = spelling b) : a = b :=
  eq_of_nodup_map distinct (complete a) (complete b) h

theorem spelling_of_symbol? {text : String} {a : α} (h : symbol? text = some a) :
    spelling a = text := by
  simpa using List.find?_some h

theorem symbol?_spelling (a : α) : symbol? (spelling a) = some a := by
  cases h : (symbol? (spelling a) : Option α) with
  | none => simpa using List.find?_eq_none.1 h a (complete a)
  | some b => rw [spelling_injective (spelling_of_symbol? h)]

theorem symbol?_eq_some_iff {text : String} {a : α} :
    symbol? text = some a ↔ spelling a = text :=
  ⟨spelling_of_symbol?, fun h => h ▸ symbol?_spelling a⟩

theorem position_lt (a : α) : position a < (all α).length :=
  List.idxOf_lt_length_of_mem (complete a)

theorem getElem?_position (a : α) : (all α)[position a]? = some a := by
  rw [List.getElem?_eq_getElem (position_lt a)]
  exact congrArg some (List.getElem_idxOf _)

theorem position_injective {a b : α} (h : position a = position b) : a = b :=
  Option.some.inj ((getElem?_position a).symm.trans (h ▸ getElem?_position b))

end Vocabulary

end ShaderComposition
