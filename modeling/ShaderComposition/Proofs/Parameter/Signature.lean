import ShaderComposition.Proofs.Glsl.TypeNames
import ShaderComposition.Proofs.Scope.Refusal

/-!
# Signatures

A signature is a row of words: the qualifier, the type, the size class and a number. A word ends at the
first character that is no letter of its kind (`word_inj`), so signatures are equal only if they agree
word for word. The size is written in four ways, but what stands in its brackets is always a word for
the size class, which is empty for a single value, and a number that is left out if it is one
(`Shape.sizeText_eq`).
-/

namespace ShaderComposition

open Vocabulary (spelling)

/-! ## Words -/

section Words

variable {isLetter : Char → Bool} {v w r s : String} {c : Char}

/-- The text does not begin with a letter of the kind. -/
def EndsWord (isLetter : Char → Bool) (text : String) : Prop :=
  ∀ c ∈ text.toList.head?, isLetter c = false

theorem endsWord_empty : EndsWord isLetter "" := by
  intro c first
  cases first

theorem endsWord_append (first : v.toList.head? = some c) (other : isLetter c = false) (text : String) :
    EndsWord isLetter (v ++ text) := by
  intro d found
  rw [String.toList_append, List.head?_append, first, Option.some_or] at found
  cases found
  exact other

/-- A word is as much of a text as there are letters. -/
theorem EndsWord.takeWhile_eq (ends : EndsWord isLetter r) (word : v.toList.all isLetter = true) :
    (v ++ r).toList.takeWhile isLetter = v.toList := by
  rw [String.toList_append, List.takeWhile_append_of_pos (List.all_eq_true.1 word)]
  have none : r.toList.takeWhile isLetter = [] := by
    cases behind : r.toList with
    | nil => rfl
    | cons c text =>
      have other : isLetter c = false := ends c (by rw [behind]; rfl)
      rw [List.takeWhile_cons_of_neg (by rw [other]; exact Bool.false_ne_true)]
  rw [none, List.append_nil]

/-- Two words and what stands behind them are equal where they are equal together. -/
theorem word_inj (v_word : v.toList.all isLetter = true) (w_word : w.toList.all isLetter = true)
    (v_ends : EndsWord isLetter r) (w_ends : EndsWord isLetter s) (same : v ++ r = w ++ s) :
    v = w ∧ r = s := by
  have words : v = w := by
    apply String.toList_inj.1
    rw [← v_ends.takeWhile_eq v_word, same, w_ends.takeWhile_eq w_word]
  subst words
  exact ⟨rfl, (String.append_right_inj v).1 same⟩

end Words

/-! ## Sizes -/

theorem Scale.eq_one_or (k : Scale) : k = .one ∨ 1 < k.toNat := by
  have positive := k.toNat_pos
  have one : Scale.one.toNat = 1 := rfl
  rw [← toNat_inj]
  omega

namespace SizeClass

/-- The word for what an array counts. -/
def word : SizeClass → String
  | one => ""
  | c => spelling c

/-- What stands between the word and a number. -/
def times : SizeClass → String
  | one => ""
  | _ => " * "

theorem word_injective {c d : SizeClass} (h : c.word = d.word) : c = d :=
  eq_of_nodup_map (by decide) (Vocabulary.complete c) (Vocabulary.complete d) h

end SizeClass

namespace Shape

variable {s t : Shape}

/-- The scale behind the word for the size class; nothing if it is one. -/
def factor (s : Shape) : String :=
  if 1 < s.scale.toNat then s.sizeClass.times ++ toString s.scale.toNat else ""

/-- What stands in the brackets of a size. -/
def sizeWords (s : Shape) : String :=
  s.sizeClass.word ++ s.factor

theorem sizeText_eq (s : Shape) :
    s.sizeText = if s.sizeWords = "" then "" else "[" ++ s.sizeWords ++ "]" := by
  obtain ⟨type, sizeClass, scale⟩ := s
  have named (counts : sizeClass ≠ .one) : sizeClass.word ≠ "" :=
    fun none => counts (SizeClass.word_injective none)
  cases sizeClass with
  | one =>
    by_cases scaled : 1 < scale.toNat <;>
      simp [sizeText, sizeWords, factor, SizeClass.word, SizeClass.times, scaled]
  | _ =>
    rw [if_neg (by simp [sizeWords, named])]
    simp [sizeText, sizeWords, factor, SizeClass.word, SizeClass.times, String.append_assoc]

theorem sizeText_eq_iff : s.sizeText = t.sizeText ↔ s.sizeWords = t.sizeWords := by
  rw [sizeText_eq, sizeText_eq]
  by_cases left : s.sizeWords = "" <;> by_cases right : t.sizeWords = "" <;> simp [left, right]

theorem factor_of_one (single : s.scale = .one) : s.factor = "" := by
  rw [factor, single]
  rfl

theorem factor_of_many (many : 1 < s.scale.toNat) :
    s.factor = s.sizeClass.times ++ s.scale.toNat.repr := by
  rw [factor, if_pos many, Nat.toString_eq_repr]

theorem factor_ne_empty (many : 1 < s.scale.toNat) : s.factor ≠ "" := by
  rw [factor_of_many many, Ne, String.append_eq_empty_iff, not_and]
  exact fun _ => Nat.repr_ne_empty

theorem factor_injective (counted : s.sizeClass = t.sizeClass) (h : s.factor = t.factor) :
    s.scale = t.scale := by
  rcases s.scale.eq_one_or with left | left <;> rcases t.scale.eq_one_or with right | right
  · rw [left, right]
  · exact absurd (h.symm.trans (factor_of_one left)) (factor_ne_empty right)
  · exact absurd (h.trans (factor_of_one right)) (factor_ne_empty left)
  · rw [factor_of_many left, factor_of_many right, counted, String.append_right_inj] at h
    have digits := congrArg String.toList h
    rw [Nat.toList_repr, Nat.toList_repr] at digits
    have number := congrArg (Nat.ofDigitChars 10 · 0) digits
    simp only [Nat.ofDigitChars_ten_toDigits] at number
    exact Scale.toNat_inj.1 number

/-- A number begins with a digit, and what stands between a word and a number with a blank. -/
theorem endsWord_factor (s : Shape) : EndsWord (fun c => !c.isDigit && c != ' ') s.factor := by
  rcases s.scale.eq_one_or with single | many
  · rw [factor_of_one single]
    exact endsWord_empty
  rw [factor_of_many many]
  cases s.sizeClass with
  | one =>
    intro c first
    rw [SizeClass.times, String.empty_append, Nat.toList_repr] at first
    have digit := Nat.isDigit_of_mem_toDigits (by decide) (by decide) (List.mem_of_mem_head? first)
    simp [digit]
  | _ => exact endsWord_append (c := ' ') (by decide) (by decide) _

theorem sizeText_injective (h : s.sizeText = t.sizeText) :
    s.sizeClass = t.sizeClass ∧ s.scale = t.scale := by
  have letters (c : SizeClass) : c.word.toList.all (fun c => !c.isDigit && c != ' ') = true := by
    cases c <;> decide
  obtain ⟨words, factors⟩ := word_inj (letters s.sizeClass) (letters t.sizeClass) s.endsWord_factor
    t.endsWord_factor (sizeText_eq_iff.1 h)
  have counted := SizeClass.word_injective words
  exact ⟨counted, factor_injective counted factors⟩

/-- A size begins with a bracket. -/
theorem endsWord_sizeText (s : Shape) : EndsWord Char.isAlphanum s.sizeText := by
  rw [sizeText_eq]
  split
  · exact endsWord_empty
  · rw [String.append_assoc]
    exact endsWord_append (c := '[') (by decide) (by decide) _

end Shape

namespace Parameter

variable {p q : Parameter}

theorem signature_eq_iff :
    p.signature = q.signature ↔
      p.qualifier = q.qualifier ∧ p.shape.type = q.shape.type ∧ p.shape.sameSize q.shape = true := by
  have qualifiers (q : Qualifier) : (spelling q).toList.all Char.isAlphanum = true := by
    cases q <;> decide
  have types (type : GlslType) : type.spelling.toList.all Char.isAlphanum = true := by
    obtain ⟨c, word, same, letter, letters⟩ := type.exists_spelling_eq
    rw [same, List.all_cons, letter, List.all_eq_true.2 letters]
    rfl
  have blank (text : String) : EndsWord Char.isAlphanum (" " ++ text) :=
    endsWord_append (c := ' ') (by decide) (by decide) text
  constructor
  · intro same
    simp only [signature, String.append_assoc] at same
    obtain ⟨qualifier, behind⟩ := word_inj (qualifiers _) (qualifiers _) (blank _) (blank _) same
    obtain ⟨type, size⟩ := word_inj (types _) (types _) (Shape.endsWord_sizeText _)
      (Shape.endsWord_sizeText _) ((String.append_right_inj " ").1 behind)
    obtain ⟨counts, scale⟩ := Shape.sizeText_injective size
    exact ⟨Vocabulary.spelling_injective qualifier, GlslType.spelling_injective type, by
      simp [Shape.sameSize, counts, scale]⟩
  · rintro ⟨qualifier, type, size⟩
    rw [signature, signature, qualifier, Shape.eq_of_sameSize type size]

/-- What has the signature of a declaration is provided for by it. -/
theorem provides_of_signature (stage : Stage) (same : p.signature = q.signature) :
    Scope.provides stage p q = .ok true := by
  obtain ⟨qualifier, type, size⟩ := signature_eq_iff.1 same
  unfold Scope.provides
  rw [if_neg (by simp [type]), if_neg (by simp [size]), qualifier]
  cases q.qualifier <;> rfl

/--
Two declarations have one signature exactly where they have the same qualifier, type and size. So
whatever an existing declaration refuses has another signature, and the report of the conflict shows
both.
-/
theorem signatures_tell_apart (p q : Parameter) :
    (p.signature = q.signature ↔
      p.qualifier = q.qualifier ∧ p.shape.type = q.shape.type ∧ p.shape.sameSize q.shape = true) ∧
      ∀ stage refusal, Scope.provides stage p q = .error refusal →
        p.signature ≠ q.signature ∧
          ∃ on, refusal = .parameterConflict stage on p q ∧
            refusal.message = spelling stage ++ " parameter '" ++ p.name ++ "' " ++ on.text ++
              " conflict: '" ++ p.source ++ "' declares " ++ p.signature ++ " but '" ++ q.source ++
              "' declares " ++ q.signature := by
  refine ⟨signature_eq_iff, fun stage refusal refused => ⟨fun same => ?_, ?_⟩⟩
  · rw [provides_of_signature stage same] at refused
    cases refused
  · obtain ⟨on, rfl⟩ := Scope.provides_eq_error refused
    exact ⟨on, rfl, rfl⟩

/-- Two for each light and two in all are sizes that a report tells apart. -/
theorem scaled_lights_told_apart :
    let hemispheres : Parameter :=
      { name := "hemispheres"
        shape := { type := .data .vec4, sizeClass := .lights, scale := .ofUInt16 2 }, source := "light: sky" }
    let pair : Parameter :=
      { name := "hemispheres", shape := { type := .data .vec4, scale := .ofUInt16 2 }, source := "fog: sky" }
    Scope.provides .fragment hemispheres pair =
        .error (.parameterConflict .fragment .size hemispheres pair) ∧
      hemispheres.signature = "in vec4[lights * 2]" ∧ pair.signature = "in vec4[2]" ∧
      hemispheres.signature ≠ pair.signature := by
  intro hemispheres pair
  have refused : Scope.provides .fragment hemispheres pair =
      .error (.parameterConflict .fragment .size hemispheres pair) := rfl
  exact ⟨refused, by decide, by decide,
    ((signatures_tell_apart hemispheres pair).2 _ _ refused).1⟩

end Parameter

end ShaderComposition
