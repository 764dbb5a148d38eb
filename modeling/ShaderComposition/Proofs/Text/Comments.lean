import ShaderComposition.Proofs.Program.Occurrence

/-!
# Text without its comments

Block comments go from each opening mark to the next closing mark. A blank is part of neither, so a text
can be cut in front of a blank if one knows whether a comment is open there (`uncomment_append_blank`).
A line that is to be a comment, whatever stands in it, then has no influence on what is left of the text
around it (`withoutComments_commentLine`).
-/

namespace ShaderComposition

/-- A piece of a text is a run of its characters. -/
theorem occurs_iff_run {piece text : String} :
    Occurs piece text ↔ piece.toList <:+: text.toList := by
  constructor
  · rintro ⟨before, after, rfl⟩
    exact ⟨before.toList, after.toList, by simp only [String.toList_append]⟩
  · rintro ⟨before, after, same⟩
    refine ⟨.ofList before, .ofList after, String.toList_inj.1 ?_⟩
    simp only [String.toList_append, String.toList_ofList, same]

namespace Text

/-- What is left of a text without its block comments, where one may be open at the start. -/
def uncomment : Bool → List Char → List Char
  | _, [] => []
  | false, '/' :: '*' :: rest => uncomment true rest
  | true, '*' :: '/' :: rest => uncomment false rest
  | false, c :: rest => c :: uncomment false rest
  | true, _ :: rest => uncomment true rest

/-- Whether a block comment is open at the end of a text, where one may be open at the start. -/
def endsInside : Bool → List Char → Bool
  | inside, [] => inside
  | false, '/' :: '*' :: rest => endsInside true rest
  | true, '*' :: '/' :: rest => endsInside false rest
  | inside, _ :: rest => endsInside inside rest

/-- The text without its block comments; one that is not closed goes on to the end. -/
def withoutComments (text : String) : String :=
  .ofList (uncomment false text.toList)

variable {inside : Bool} {text rest : List Char} {c : Char}

/-- Where no mark starts, a character is left outside of comments and taken away inside. -/
theorem uncomment_cons (opens : ∀ rest, inside = false → c = '/' → text = '*' :: rest → False)
    (closes : ∀ rest, inside = true → c = '*' → text = '/' :: rest → False) :
    uncomment inside (c :: text) = (if inside then [] else [c]) ++ uncomment inside text := by
  cases inside with
  | false => rw [uncomment] <;> simp_all
  | true => rw [uncomment] <;> simp_all

/-- No mark goes on across a blank. -/
theorem uncomment_append_blank (inside : Bool) (text rest : List Char) :
    uncomment inside (text ++ ' ' :: rest) =
      uncomment inside text ++ uncomment (endsInside inside text) (' ' :: rest) := by
  fun_induction endsInside inside text with
  | case1 inside => rfl
  | case2 text ih => simpa [uncomment] using ih
  | case3 text ih => simpa [uncomment] using ih
  | case4 inside c text opens closes ih =>
    -- what starts no mark in front of the rest of the text starts none in front of the blank either
    have behind {d : Char} (mark : d ≠ ' ') {more : List Char}
        (h : text ++ ' ' :: rest = d :: more) : ∃ more', text = d :: more' := by
      cases text with
      | nil => exact absurd (List.cons.inj h).1.symm mark
      | cons _ text => exact ⟨text, by rw [(List.cons.inj h).1]⟩
    rw [List.cons_append, uncomment_cons opens closes, uncomment_cons, ih, List.append_assoc]
    · intro more out slash h
      obtain ⟨more', h⟩ := behind (by decide) h
      exact opens more' out slash h
    · intro more ins star h
      obtain ⟨more', h⟩ := behind (by decide) h
      exact closes more' ins star h

/-- A text without a slash is left as it is. -/
theorem uncomment_append_of_plain (plain : '/' ∉ text) (rest : List Char) :
    uncomment false (text ++ rest) = text ++ uncomment false rest := by
  induction text with
  | nil => rfl
  | cons c text ih =>
    rw [List.mem_cons, not_or] at plain
    rw [List.cons_append, uncomment_cons, ih plain.2]
    · rfl
    · exact fun _ _ slash _ => plain.1 slash.symm
    · exact fun _ inside _ _ => Bool.false_ne_true inside

/-- A comment goes on over a text that does not close it. -/
theorem uncomment_of_unclosed (unclosed : ¬ ['*', '/'] <:+: text) :
    uncomment true text = [] ∧ endsInside true text = true := by
  induction text with
  | nil => exact ⟨rfl, rfl⟩
  | cons c text ih =>
    have closes (rest : List Char) (star : c = '*') : text ≠ '/' :: rest := by
      rintro rfl
      exact unclosed ⟨[], rest, by rw [star]; rfl⟩
    obtain ⟨nothing, inside⟩ := ih fun closed => unclosed (List.infix_cons closed)
    constructor
    · rw [uncomment_cons, nothing]
      · rfl
      · exact fun _ outside _ _ => Bool.false_ne_true outside.symm
      · exact fun rest _ star h => closes rest star h
    · rw [endsInside, inside]
      · exact fun _ outside _ _ => Bool.false_ne_true outside.symm
      · exact fun rest _ star h => closes rest star h

/-- Behind the end of a line that closes a comment no comment is open. -/
theorem uncomment_closing (inside : Bool) (rest : List Char) :
    uncomment inside (' ' :: '*' :: '/' :: '\n' :: rest) =
      uncomment inside [' ', '*', '/', '\n'] ++ uncomment false rest := by
  cases inside <;> rfl

theorem uncomment_commentLine (content rest : List Char) :
    uncomment false ('/' :: '*' :: (' ' :: content ++ ' ' :: '*' :: '/' :: '\n' :: rest)) =
      uncomment false ('/' :: '*' :: (' ' :: content ++ [' ', '*', '/', '\n'])) ++
        uncomment false rest := by
  rw [uncomment, uncomment, uncomment_append_blank, uncomment_append_blank true (' ' :: content),
    uncomment_closing, List.append_assoc]

/--
Whatever stands in a comment line behind a text without slashes, what is left of the text in front of it
and behind it does not depend on it.
-/
theorem withoutComments_commentLine {before : String} (plain : '/' ∉ before.toList)
    (content after : String) :
    withoutComments (before ++ ("/* " ++ content ++ " */\n" ++ after)) =
      before ++ (withoutComments ("/* " ++ content ++ " */\n") ++ withoutComments after) := by
  refine String.toList_inj.1 ?_
  simp only [withoutComments, String.toList_append, String.toList_ofList]
  rw [uncomment_append_of_plain plain]
  have line := uncomment_commentLine content.toList after.toList
  simpa using line

end Text

end ShaderComposition
