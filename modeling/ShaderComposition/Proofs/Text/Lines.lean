import Mathlib.Data.List.TakeWhile
import ShaderComposition.Text.Line

/-!
# Lines and words

A text falls into lines behind each of its line feeds (`lines_append`), so a search through the lines of
a text can be cut there. White space at the ends of a line is of no account to what is read from it,
so it does not matter that a carriage return in front of a line feed is lost.
-/

namespace ShaderComposition.Text

variable {text rest : List Char} {c : Char}

/-! ## White space at the ends -/

theorem isWhite_eq_false_of_isAlphanum (h : c.isAlphanum = true) : isWhite c = false := by
  have marks : whiteSpace.all (!·.isAlphanum) = true := by decide
  rw [Bool.eq_false_iff]
  intro white
  have mark := List.all_eq_true.1 marks c (List.contains_iff_mem.1 white)
  rw [h] at mark
  exact Bool.false_ne_true mark

theorem trimStart_cons_of_not_white (h : isWhite c = false) : trimStart (c :: rest) = c :: rest :=
  List.dropWhile_cons_of_neg (by simp [h])

/-- What stands behind a character that is not white is trimmed by itself. -/
theorem trimEnd_append_cons (h : isWhite c = false) (text rest : List Char) :
    trimEnd (text ++ c :: rest) = text ++ c :: trimEnd rest := by
  have stop : (c :: text.reverse).dropWhile isWhite = c :: text.reverse :=
    trimStart_cons_of_not_white h
  have back : (text ++ c :: rest).reverse = rest.reverse ++ (c :: text.reverse) := by simp
  unfold trimEnd
  rw [back, List.dropWhile_append, stop]
  split <;> simp_all

theorem trimEnd_append_white (h : isWhite c = true) (text : List Char) :
    trimEnd (text ++ [c]) = trimEnd text := by
  simp [trimEnd, h]

theorem trim_append_white (h : isWhite c = true) (text : List Char) :
    trim (text ++ [c]) = trim text := by
  unfold trim trimStart
  rw [List.dropWhile_append]
  split
  · next blank => simp [List.isEmpty_iff.1 blank, h]
  · exact trimEnd_append_white h _

/-- Trimming takes away white space only. -/
theorem mem_trimEnd_iff (h : isWhite c = false) : c ∈ trimEnd text ↔ c ∈ text := by
  constructor
  · intro member
    exact List.mem_reverse.1 ((List.dropWhile_sublist _).mem (List.mem_reverse.1 member))
  · intro member
    obtain ⟨before, after, rfl⟩ := List.append_of_mem member
    rw [trimEnd_append_cons h]
    exact List.mem_append_right _ List.mem_cons_self

/-- A text has a last word unless it is white all over. -/
theorem lastWord_ne_nil (member : c ∈ text) (h : isWhite c = false) : lastWord text ≠ [] := by
  unfold lastWord firstWord
  have filled : trimStart text.reverse ≠ [] := by
    intro none
    have white := List.dropWhile_eq_nil_iff.1 none c (List.mem_reverse.2 member)
    rw [h] at white
    exact Bool.false_ne_true white
  obtain ⟨d, more, cut⟩ := List.exists_cons_of_ne_nil filled
  have word : isWhite d = false := by
    have head := List.head?_dropWhile_not isWhite text.reverse
    rw [← trimStart, cut] at head
    exact head
  rw [cut]
  simp [word]

/-! ## Lines -/

theorem lines_ne_nil (h : text ≠ []) : lines text ≠ [] := by
  fun_cases lines text <;> simp_all

/-- A character that ends no line is put in front of the first line behind it. -/
theorem lines_cons (feed : c ≠ '\n') (both : ∀ rest', c = '\r' → rest ≠ '\n' :: rest') :
    lines (c :: rest) = (c :: (lines rest).headD []) :: (lines rest).tail := by
  rw [lines]
  · cases lines rest <;> rfl
  · exact feed
  · exact both

/-- A line that ends further behind goes on with a character in front of it. -/
theorem lines_cons_append (feed : c ≠ '\n') (both : ∀ rest', c = '\r' → text ≠ '\n' :: rest')
    (behind : lines (text ++ '\n' :: rest) = lines (text ++ ['\n']) ++ lines rest) :
    lines (c :: text ++ '\n' :: rest) = lines (c :: text ++ ['\n']) ++ lines rest := by
  cases text with
  | nil =>
    by_cases carriage : c = '\r'
    · rw [carriage]
      rfl
    · have alone (rest' more : List Char) (h : c = '\r') : rest' ≠ '\n' :: more :=
        absurd h carriage
      show lines (c :: '\n' :: rest) = lines [c, '\n'] ++ lines rest
      rw [lines_cons feed (alone _), lines_cons feed (alone _)]
      rfl
  | cons d text =>
    have apart (rest' more : List Char) (h : c = '\r') : d :: text ++ rest' ≠ '\n' :: more := by
      intro same
      exact both text h (by rw [(List.cons.inj same).1])
    have filled : d :: text ++ ['\n'] ≠ [] := List.cons_ne_nil _ _
    obtain ⟨line, more, found⟩ := List.exists_cons_of_ne_nil (lines_ne_nil filled)
    show lines (c :: (d :: text ++ '\n' :: rest)) = lines (c :: (d :: text ++ ['\n'])) ++ lines rest
    rw [lines_cons feed (apart _), lines_cons feed (apart _), behind, found]
    rfl

/-- A text falls apart behind a line feed. -/
theorem lines_append (text rest : List Char) :
    lines (text ++ '\n' :: rest) = lines (text ++ ['\n']) ++ lines rest := by
  fun_induction lines text with
  | case1 => rfl
  | case2 text ih => exact congrArg (List.cons []) ih
  | case3 text ih => exact congrArg (List.cons []) ih
  | case4 c text feed both none ih => exact lines_cons_append feed both ih
  | case5 c text feed both line more found ih => exact lines_cons_append feed both ih

/-- What is left of a line in front of its end, which may begin with a carriage return. -/
def withoutReturn : List Char → List Char
  | [] => []
  | ['\r'] => []
  | c :: rest => c :: withoutReturn rest

theorem eq_withoutReturn_or (text : List Char) :
    text = withoutReturn text ∨ text = withoutReturn text ++ ['\r'] := by
  fun_induction withoutReturn text with
  | case1 => exact .inl rfl
  | case2 => exact .inr rfl
  | case3 c rest _ ih => exact ih.imp (congrArg (c :: ·)) (congrArg (c :: ·))

/-- What does not depend on a carriage return at the end of a line takes no notice of the end. -/
theorem apply_withoutReturn {α : Type} {f : List Char → α} (blind : ∀ line, f (line ++ ['\r']) = f line)
    (text : List Char) : f (withoutReturn text) = f text := by
  rcases eq_withoutReturn_or text with same | same
  · rw [← same]
  · exact (blind _).symm.trans (congrArg f same.symm)

/-- A carriage return with more of the line behind it ends nothing. -/
theorem ne_feed_of_more (more : c = '\r' → text = [] → False) (single : '\n' ∉ text)
    (behind : List Char) (carriage : c = '\r') : text ++ '\n' :: rest ≠ '\n' :: behind := by
  intro feed
  cases text with
  | nil => exact more carriage rfl
  | cons d text => exact single ((List.cons.inj feed).1 ▸ List.mem_cons_self)

/-- A run of characters without a line feed is a line, but for a carriage return at its end. -/
theorem lines_append_feed (single : '\n' ∉ text) : lines (text ++ ['\n']) = [withoutReturn text] := by
  fun_induction withoutReturn text with
  | case1 => rfl
  | case2 => rfl
  | case3 c rest more ih =>
    rw [List.mem_cons, not_or] at single
    rw [List.cons_append, lines_cons (Ne.symm single.1) (ne_feed_of_more more single.2), ih single.2]
    rfl

/-- The text goes on behind the end of its first line. -/
theorem lines_feed (single : '\n' ∉ text) (rest : List Char) :
    lines (text ++ '\n' :: rest) = withoutReturn text :: lines rest := by
  rw [lines_append, lines_append_feed single, List.singleton_append]

/-- A text without a line feed is its only line. -/
theorem lines_of_notMem (filled : text ≠ []) (single : '\n' ∉ text) : lines text = [text] := by
  induction text with
  | nil => exact absurd rfl filled
  | cons c text ih =>
    rw [List.mem_cons, not_or] at single
    rw [lines_cons (Ne.symm single.1)]
    · by_cases last : text = []
      · rw [last]
        rfl
      · rw [ih last single.2]
        rfl
    · rintro behind - rfl
      exact single.2 List.mem_cons_self

theorem exists_lines_of_notMem (single : '\n' ∉ text) :
    ∃ line, lines (text ++ ['\n']) = [line] ∧ trim line = trim text :=
  ⟨_, lines_append_feed single, apply_withoutReturn (trim_append_white (by decide)) text⟩

/-- Every text is a line, or a line and a line feed in front of a text. -/
theorem line_induction {motive : List Char → Prop} (last : ∀ line, '\n' ∉ line → motive line)
    (feed : ∀ line rest, '\n' ∉ line → motive rest → motive (line ++ '\n' :: rest))
    (text : List Char) : motive text := by
  by_cases feeds : '\n' ∈ text
  · obtain ⟨line, rest, same, single⟩ := List.eq_append_cons_of_mem feeds
    have shorter : rest.length < text.length := by simp [same]; omega
    rw [same]
    exact feed line rest single (line_induction last feed rest)
  · exact last text feeds
termination_by text.length

/-! ## First lines -/

/-- The line that a text begins with. -/
def firstLine (text : List Char) : List Char :=
  text.takeWhile (· != '\n')

theorem firstLine_append {text : List Char} (single : '\n' ∉ text) (rest : List Char) :
    firstLine (text ++ rest) = text ++ firstLine rest :=
  List.takeWhile_append_of_pos fun c hc => by
    simpa using ne_of_mem_of_not_mem hc single

theorem mem_firstLine_append_iff {c : Char} {text rest : List Char} :
    c ∈ firstLine (text ++ rest) ↔ c ∈ firstLine text ∨ '\n' ∉ text ∧ c ∈ firstLine rest := by
  induction text with
  | nil => simp [firstLine]
  | cons d text ih =>
    by_cases feed : d = '\n'
    · simp [firstLine, feed]
    · have cons (more : List Char) : firstLine (d :: more) = d :: firstLine more :=
        List.takeWhile_cons_of_pos (by simp [feed])
      rw [List.cons_append, cons, cons, List.mem_cons, List.mem_cons, ih, List.mem_cons, not_or,
        or_assoc]
      simp [Ne.symm feed]

theorem notMem_firstLine (text : List Char) : '\n' ∉ firstLine text := by
  intro member
  have others := List.all_eq_true.1 (List.all_takeWhile (p := (· != '\n')) (l := text)) _ member
  simp at others

/-- Behind the first line of a text its other lines follow, if there are any. -/
theorem exists_eq_firstLine_append (text : List Char) :
    ∃ rest, text ++ ['\n'] = firstLine text ++ '\n' :: rest ∧ ('\n' ∉ text → rest = []) := by
  cases behind : text.dropWhile (· != '\n') with
  | nil =>
    have whole : firstLine text = text := by
      rw [firstLine, ← List.append_nil (List.takeWhile _ _), ← behind, List.takeWhile_append_dropWhile]
    exact ⟨[], by rw [whole], fun _ => rfl⟩
  | cons c rest =>
    have cut : text = firstLine text ++ c :: rest := by
      rw [firstLine, ← behind, List.takeWhile_append_dropWhile]
    have feed : c = '\n' := by
      have head := List.head?_dropWhile_not (· != '\n') text
      rw [behind] at head
      simpa using head
    subst feed
    have among : '\n' ∈ text := cut ▸ List.mem_append_right _ List.mem_cons_self
    refine ⟨rest ++ ['\n'], ?_, fun none => absurd among none⟩
    rw [← List.cons_append, ← List.append_assoc, ← cut]

/-! ## Texts that end with a line -/

/-- A text with nothing behind its last line. -/
def Ended (text : String) : Prop :=
  text = "" ∨ ∃ before, text = before ++ "\n"

theorem Ended.append {text more : String} (ended : Ended text) (more_ended : Ended more) :
    Ended (text ++ more) := by
  rcases more_ended with rfl | ⟨before, rfl⟩
  · rwa [String.append_empty]
  · exact .inr ⟨text ++ before, (String.append_assoc ..).symm⟩

theorem Ended.join {texts : List String} (ended : ∀ text ∈ texts, Ended text) :
    Ended (String.join texts) := by
  induction texts with
  | nil => exact .inl rfl
  | cons text texts ih =>
    rw [String.join_cons]
    exact (ended text List.mem_cons_self).append (ih fun t ht => ended t (List.mem_cons_of_mem _ ht))

end ShaderComposition.Text
