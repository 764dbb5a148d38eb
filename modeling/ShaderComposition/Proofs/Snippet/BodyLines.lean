import Mathlib.Data.List.Forall2
import Mathlib.Data.List.Induction
import ShaderComposition.Proofs.Text.Lines
import ShaderComposition.Snippet.Text

/-!
# Bodies line by line

A body is written line by line, whichever way its lines end. A carriage return in front of a line feed is
white space at the end of a line, and that is cut off in any case, so it makes no difference whether
carriage returns are taken away before the text falls into lines (`map_indentLine_unifyLineEnds`) or are
put in (`map_indentLine_returnLineEnds`). What is written is blank only where every line is
(`isBlank_indentLines`). So the block that a snippet is written as has the lines of its body in it, unless
there is nothing but white space (`Snippet.block_text`).
-/

namespace ShaderComposition

namespace Text

variable {n : Nat} {text line rest out : List Char} {c : Char}

/-- The text with a carriage return in front of each line feed. -/
def returnLineEnds (text : List Char) : List Char :=
  text.flatMap fun c => if c = '\n' then ['\r', '\n'] else [c]

/--
What a line is written as: nothing if it is blank, and otherwise the tabs and all up to its last
character that is not white space.
-/
inductive Indented (n : Nat) : List Char → List Char → Prop
  | blank {line : List Char} : isBlank line = true → Indented n line []
  | filled {front back : List Char} {c : Char} : isWhite c = false → isBlank back = true →
      Indented n (front ++ c :: back) (List.replicate n '\t' ++ front ++ [c])

/-! ## One line -/

theorem isBlank_append_white (white : isWhite c = true) (line : List Char) :
    isBlank (line ++ [c]) = isBlank line := by
  simp [isBlank, white]

theorem indentLine_append_white (white : isWhite c = true) (line : List Char) :
    indentLine n (line ++ [c]) = indentLine n line := by
  rw [indentLine, isBlank_append_white white, trimEnd_append_white white, ← indentLine]

theorem indentLine_withoutReturn (line : List Char) :
    indentLine n (withoutReturn line) = indentLine n line :=
  apply_withoutReturn (indentLine_append_white (by decide)) line

theorem Indented.append_white (h : Indented n line out) (white : isWhite c = true) :
    Indented n (line ++ [c]) out := by
  cases h with
  | blank blank => exact .blank ((isBlank_append_white white _).trans blank)
  | filled solid blank =>
    rw [List.append_assoc, List.cons_append]
    exact .filled solid ((isBlank_append_white white _).trans blank)

theorem indented_indentLine (n : Nat) (line : List Char) : Indented n line (indentLine n line) := by
  induction line using List.reverseRecOn with
  | nil => exact .blank rfl
  | append_singleton front c ih =>
    cases white : isWhite c with
    | true =>
      rw [indentLine_append_white white]
      exact ih.append_white white
    | false =>
      have filled : isBlank (front ++ [c]) = false := by simp [isBlank, white]
      rw [indentLine, filled, trimEnd_append_cons white, if_neg Bool.false_ne_true, ← List.append_assoc]
      exact .filled white rfl

theorem Indented.notMem (h : Indented n line out) (single : '\n' ∉ line) : '\n' ∉ out := by
  cases h with
  | blank => exact List.not_mem_nil
  | filled => simp_all

theorem Indented.getLast?_ne (h : Indented n line out) : out.getLast? ≠ some '\r' := by
  cases h with
  | blank => simp
  | filled solid =>
    rw [List.getLast?_concat]
    rintro ⟨⟩
    exact absurd solid (by decide)

/-- Only blank lines are written as blank ones. -/
theorem Indented.isBlank_eq (h : Indented n line out) : isBlank out = isBlank line := by
  cases h with
  | blank blank => exact blank.symm
  | filled solid => simp [isBlank, solid]

/-! ## All lines -/

theorem mem_withoutReturn_iff : '\n' ∈ withoutReturn text ↔ '\n' ∈ text :=
  iff_of_eq (apply_withoutReturn (f := ('\n' ∈ ·)) (by simp) text)

theorem notMem_of_mem_lines (member : line ∈ lines text) : '\n' ∉ line := by
  induction text using line_induction with
  | last text single =>
    by_cases filled : text = []
    · rw [filled] at member
      cases member
    · rw [lines_of_notMem filled single] at member
      rwa [List.mem_singleton.1 member]
  | feed first rest single ih =>
    rw [lines_feed single] at member
    rcases List.mem_cons.1 member with rfl | later
    · exact mt mem_withoutReturn_iff.1 single
    · exact ih later

theorem map_indentLine_feed (single : '\n' ∉ line) (rest : List Char) :
    (lines (line ++ '\n' :: rest)).map (indentLine n) =
      indentLine n line :: (lines rest).map (indentLine n) := by
  rw [lines_feed single, List.map_cons, indentLine_withoutReturn]

theorem unifyLineEnds_of_notMem (single : '\n' ∉ text) : unifyLineEnds text = text := by
  fun_induction unifyLineEnds text with
  | case1 => rfl
  | case2 => simp at single
  | case3 c rest _ ih =>
    rw [List.mem_cons, not_or] at single
    rw [ih single.2]

theorem unifyLineEnds_feed (single : '\n' ∉ line) (rest : List Char) :
    unifyLineEnds (line ++ '\n' :: rest) = withoutReturn line ++ '\n' :: unifyLineEnds rest := by
  fun_induction withoutReturn line with
  | case1 => rfl
  | case2 => rfl
  | case3 c line more ih =>
    rw [List.mem_cons, not_or] at single
    rw [List.cons_append, List.cons_append, unifyLineEnds, ih single.2]
    exact ne_feed_of_more more single.2

/-- Line ends that are unified beforehand make no difference. -/
theorem map_indentLine_unifyLineEnds (n : Nat) (text : List Char) :
    (lines (unifyLineEnds text)).map (indentLine n) = (lines text).map (indentLine n) := by
  induction text using line_induction with
  | last text single => rw [unifyLineEnds_of_notMem single]
  | feed line rest single ih =>
    have cut : '\n' ∉ withoutReturn line := mt mem_withoutReturn_iff.1 single
    rw [unifyLineEnds_feed single, map_indentLine_feed cut, ih, indentLine_withoutReturn,
      map_indentLine_feed single]

theorem returnLineEnds_of_notMem (single : '\n' ∉ text) : returnLineEnds text = text := by
  induction text with
  | nil => rfl
  | cons c text ih =>
    rw [List.mem_cons, not_or] at single
    rw [returnLineEnds, List.flatMap_cons, ← returnLineEnds, ih single.2, if_neg (Ne.symm single.1)]
    rfl

theorem returnLineEnds_feed (single : '\n' ∉ line) (rest : List Char) :
    returnLineEnds (line ++ '\n' :: rest) = line ++ ['\r'] ++ '\n' :: returnLineEnds rest := by
  have front : returnLineEnds line = line := returnLineEnds_of_notMem single
  rw [returnLineEnds, List.flatMap_append, ← returnLineEnds, front, List.append_assoc]
  rfl

/-- Nor do carriage returns in front of the line feeds. -/
theorem map_indentLine_returnLineEnds (n : Nat) (text : List Char) :
    (lines (returnLineEnds text)).map (indentLine n) = (lines text).map (indentLine n) := by
  induction text using line_induction with
  | last text single => rw [returnLineEnds_of_notMem single]
  | feed line rest single ih =>
    have returned : '\n' ∉ line ++ ['\r'] := by simp [single]
    rw [returnLineEnds_feed single, map_indentLine_feed returned, ih,
      indentLine_append_white (by decide), map_indentLine_feed single]

theorem indentLines_eq (n : Nat) (text : List Char) :
    indentLines n text = List.intercalate ['\n'] ((lines text).map (indentLine n)) := by
  rw [indentLines, map_indentLine_unifyLineEnds]

theorem indentLines_returnLineEnds (n : Nat) (text : List Char) :
    indentLines n (returnLineEnds text) = indentLines n text := by
  rw [indentLines_eq, map_indentLine_returnLineEnds, ← indentLines_eq]

theorem isBlank_append (text rest : List Char) : isBlank (text ++ rest) = (isBlank text && isBlank rest) :=
  List.all_append

/-- The line feeds between lines are blank themselves. -/
theorem isBlank_intercalate (written : List (List Char)) :
    isBlank (List.intercalate ['\n'] written) = written.all isBlank := by
  induction written with
  | nil => rfl
  | cons line more ih =>
    cases more with
    | nil => rw [List.intercalate_singleton, List.all_cons, List.all_nil, Bool.and_true]
    | cons next more =>
      have feed : isBlank ['\n'] = true := by decide
      rw [List.intercalate_cons_cons, isBlank_append, isBlank_append, ih, feed, Bool.and_true,
        ← List.all_cons]

theorem isBlank_indentLines (n : Nat) (text : List Char) :
    isBlank (indentLines n text) = (lines text).all isBlank := by
  rw [indentLines_eq, isBlank_intercalate, List.all_map]
  exact congrArg _ (funext fun line => (indented_indentLine n line).isBlank_eq)

/-- The lines of a text become the lines of what is written. -/
theorem exists_indented (n : Nat) (text : List Char) :
    ∃ written, List.Forall₂ (Indented n) (lines text) written ∧
      indentLines n text = List.intercalate ['\n'] written ∧
      ∀ line ∈ written, '\n' ∉ line ∧ line.getLast? ≠ some '\r' := by
  refine ⟨(lines text).map (indentLine n), ?_, indentLines_eq n text, fun line member => ?_⟩
  · rw [List.forall₂_map_right_iff, List.forall₂_same]
    exact fun line _ => indented_indentLine n line
  · obtain ⟨line, among, rfl⟩ := List.mem_map.1 member
    have indented := indented_indentLine n line
    exact ⟨indented.notMem (notMem_of_mem_lines among), indented.getLast?_ne⟩

/-- A line feed behind lines is the end of the last one. -/
theorem intercalate_append_feed {written : List (List Char)} (some : written ≠ []) :
    String.ofList (List.intercalate ['\n'] written) ++ "\n" =
      String.join (written.map fun line => String.ofList line ++ "\n") := by
  induction written with
  | nil => exact absurd rfl some
  | cons line more ih =>
    cases more with
    | nil => simp
    | cons next more =>
      rw [List.intercalate_cons_cons, List.map_cons, String.join_cons, ← ih (List.cons_ne_nil _ _)]
      simp only [String.ofList_append, String.append_assoc]

end Text

namespace Snippet

/--
What a snippet is written as at an indentation: a comment with its label, and a block that has a line for
each line of its body in it, unless all of them are blank.
-/
inductive Block (s : Snippet) (n : Nat) : String → Prop
  | filled {written : List (List Char)} :
      (∃ line ∈ Text.lines s.body.toList, Text.isBlank line = false) →
      List.Forall₂ (Text.Indented (n + 1)) (Text.lines s.body.toList) written →
      Block s n (Text.line n ("/* " ++ s.label ++ " */") ++ Text.line n "\x7b" ++
        String.join (written.map fun line => String.ofList line ++ "\n") ++ Text.line n "\x7d")
  | blank : (∀ line ∈ Text.lines s.body.toList, Text.isBlank line = true) →
      Block s n (Text.line n ("/* " ++ s.label ++ " */") ++ Text.line n "\x7b" ++ Text.line n "\x7d")

theorem bodyText_eq (body : String) (n : Nat) :
    bodyText body n =
      if ∃ line ∈ Text.lines body.toList, Text.isBlank line = false then
        String.ofList (Text.indentLines n body.toList) ++ "\n"
      else "" := by
  rw [bodyText, Text.isBlank_indentLines]
  by_cases filled : ∃ line ∈ Text.lines body.toList, Text.isBlank line = false
  · have some : ¬ (Text.lines body.toList).all Text.isBlank = true := by
      intro blank
      obtain ⟨line, member, solid⟩ := filled
      rw [List.all_eq_true.1 blank line member] at solid
      cases solid
    rw [if_neg some, if_pos filled]
  · have none : (Text.lines body.toList).all Text.isBlank = true :=
      List.all_eq_true.2 fun line member =>
        Bool.of_not_eq_false fun solid => filled ⟨line, member, solid⟩
    rw [if_pos none, if_neg filled]

theorem block_text (s : Snippet) (n : Nat) : s.Block n (s.text n) := by
  rw [text, bodyText_eq]
  split
  next filled =>
    obtain ⟨written, indented, lines, -⟩ := Text.exists_indented (n + 1) s.body.toList
    have some : written ≠ [] := by
      obtain ⟨line, member, -⟩ := filled
      rintro rfl
      rw [List.forall₂_nil_right_iff.1 indented] at member
      cases member
    rw [lines, Text.intercalate_append_feed some]
    exact .filled filled indented
  next none =>
    rw [String.append_empty]
    refine .blank fun line member => ?_
    exact Bool.of_not_eq_false fun solid => none ⟨line, member, solid⟩

/--
The body of a snippet is written line by line: each of its lines becomes one line, which is empty if it
is blank and otherwise the same behind tabs, without white space at its end, and so without a carriage
return. Line feeds only stand between these lines, so it does not matter if a carriage return stands in
front of each line feed of the body. The block of the snippet has this text in it where some line of the
body is not blank, and is empty where there is none.
-/
theorem body_line_by_line (s : Snippet) (n : Nat) :
    (∃ written, List.Forall₂ (Text.Indented n) (Text.lines s.body.toList) written ∧
      Text.indentLines n s.body.toList = List.intercalate ['\n'] written ∧
      ∀ line ∈ written, '\n' ∉ line ∧ line.getLast? ≠ some '\r') ∧
    Text.indentLines n (Text.returnLineEnds s.body.toList) = Text.indentLines n s.body.toList ∧
    s.text n =
      Text.line n ("/* " ++ s.label ++ " */") ++ Text.line n "\x7b" ++
        (if ∃ line ∈ Text.lines s.body.toList, Text.isBlank line = false then
          String.ofList (Text.indentLines (n + 1) s.body.toList) ++ "\n"
        else "") ++ Text.line n "\x7d" := by
  refine ⟨Text.exists_indented n _, Text.indentLines_returnLineEnds n _, ?_⟩
  rw [text, bodyText_eq]

/-- A stray carriage return inside of a line is kept, and one at its end is not. -/
example :
    bodyText "float a\r= 1.0;\r\r\n\n \t\r\na += b; \n" 1 = "\tfloat a\r= 1.0;\n\n\n\ta += b;\n" := by
  decide

end Snippet

end ShaderComposition
