import ShaderComposition.Program.FrontEnd
import ShaderComposition.Proofs.Text.Lines

/-!
# Searching lines for loose uniforms

The search goes from line to line, so it can be cut behind each piece of a text that ends with its line
(`looseUniform?_append`). In a line that begins as the declaration of a uniform does, all that
counts are two marks: the one that ends a declaration, and the one that opens a block
(`isSome_looseUniformOf_iff`). They are looked for in the whole line, whatever part of it they stand in.
-/

namespace ShaderComposition

namespace FrontEnd

open Text (Ended firstLine lines notMem_firstLine trim trimEnd isWhite)

/-! ## One line -/

theorem splitAt?_append (separator text : List Char) :
    splitAt? separator (separator ++ text) = some ([], text) := by
  cases separator with
  | nil => cases text <;> rfl
  | cons c separator => simp [splitAt?, dropPrefix?]

/-- A line that declares a uniform does so with a mark at its end, and opens no block. -/
theorem isSome_looseUniformOf_of_trim {line rest : List Char}
    (trimmed : trim line = "uniform ".toList ++ rest)
    (word : Text.lastWord (rest.takeWhile (· != ';')) ≠ []) :
    (looseUniformOf line).isSome ↔ ';' ∈ rest ∧ '\x7b' ∉ rest := by
  have marks : ';' ∉ "uniform ".toList ∧ '\x7b' ∉ "uniform ".toList := by decide
  have ended : ("uniform ".toList ++ rest).contains ';' = rest.contains ';' := by
    rw [Bool.eq_iff_iff, List.contains_iff_mem, List.contains_iff_mem, List.mem_append,
      or_iff_right marks.1]
  have opened : ("uniform ".toList ++ rest).contains '\x7b' = rest.contains '\x7b' := by
    rw [Bool.eq_iff_iff, List.contains_iff_mem, List.contains_iff_mem, List.mem_append,
      or_iff_right marks.2]
  unfold looseUniformOf
  simp only [trimmed, splitAt?_append, ended, opened]
  cases last : Text.lastWord (rest.takeWhile (· != ';')) with
  | nil => exact absurd last word
  | cons c name => by_cases ';' ∈ rest <;> by_cases '\x7b' ∈ rest <;> simp_all

/-- Behind the keyword and the first letter of a type, all that counts are the marks in the line. -/
theorem isSome_looseUniformOf_iff {c : Char} (letter : c.isAlphanum = true) (rest : List Char) :
    (looseUniformOf ("uniform ".toList ++ c :: rest)).isSome ↔ ';' ∈ rest ∧ '\x7b' ∉ rest := by
  have solid := Text.isWhite_eq_false_of_isAlphanum letter
  have notEnd : ';' ≠ c := by
    rintro rfl
    exact absurd letter (by decide)
  have notOpen : '\x7b' ≠ c := by
    rintro rfl
    exact absurd letter (by decide)
  have trimmed : trim ("uniform ".toList ++ c :: rest) = "uniform ".toList ++ c :: trimEnd rest := by
    rw [← Text.trimEnd_append_cons solid]
    rfl
  have word : Text.lastWord ((c :: trimEnd rest).takeWhile (· != ';')) ≠ [] := by
    refine Text.lastWord_ne_nil (c := c) ?_ solid
    rw [List.takeWhile_cons_of_pos (by simp [notEnd.symm])]
    exact List.mem_cons_self
  rw [isSome_looseUniformOf_of_trim trimmed word, List.mem_cons, List.mem_cons, or_iff_right notEnd,
    or_iff_right notOpen, Text.mem_trimEnd_iff (by decide), Text.mem_trimEnd_iff (by decide)]

/-! ## The lines of a text -/

/-- The lines of a text are gone through before those of the text behind it. -/
theorem looseUniform?_append {text : String} (ended : Ended text) (rest : String) :
    looseUniform? (text ++ rest) = (looseUniform? text).or (looseUniform? rest) := by
  rcases ended with rfl | ⟨before, rfl⟩
  · rw [String.empty_append]
    rfl
  · unfold looseUniform?
    have feed : (before ++ "\n" ++ rest).toList = before.toList ++ '\n' :: rest.toList := by simp
    rw [feed, Text.lines_append, List.findSome?_append, String.toList_append]
    rfl

theorem isSome_looseUniform?_join {texts : List String} (ended : ∀ text ∈ texts, Ended text) :
    (looseUniform? (String.join texts)).isSome ↔ ∃ text ∈ texts, (looseUniform? text).isSome := by
  induction texts with
  | nil => simp [looseUniform?, lines]
  | cons text texts ih =>
    rw [String.join_cons, looseUniform?_append (ended text List.mem_cons_self), Option.isSome_or,
      Bool.or_eq_true, ih fun t ht => ended t (List.mem_cons_of_mem _ ht)]
    simp

theorem looseUniformOf_congr {line other : List Char} (same : trim line = trim other) :
    looseUniformOf line = looseUniformOf other := by
  simp only [looseUniformOf, same]

/-- The search through a line, which may go on over line feeds, begins with what is in front of them. -/
theorem exists_looseUniform?_line (line : String) :
    ∃ more, looseUniform? (line ++ "\n") = (looseUniformOf (firstLine line.toList)).or more ∧
      ('\n' ∉ line.toList → more = none) := by
  obtain ⟨rest, same, single⟩ := Text.exists_eq_firstLine_append line.toList
  obtain ⟨kept, lines, trimmed⟩ := Text.exists_lines_of_notMem (notMem_firstLine line.toList)
  refine ⟨(Text.lines rest).findSome? looseUniformOf, ?_, fun none => by rw [single none]; rfl⟩
  have feed : (line ++ "\n").toList = line.toList ++ ['\n'] := String.toList_append
  rw [looseUniform?, feed, same, Text.lines_append, lines, List.findSome?_append,
    ← looseUniformOf_congr trimmed]
  simp

end FrontEnd

end ShaderComposition
