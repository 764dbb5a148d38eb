import ShaderComposition.Text.Blank

/-!
# Lines of text

A line ends with a line feed, or with a carriage return and a line feed; the last one may go without.
-/

namespace ShaderComposition.Text

/-- The lines of a text without their ends. -/
def lines : List Char → List (List Char)
  | [] => []
  | '\n' :: rest => [] :: lines rest
  | '\r' :: '\n' :: rest => [] :: lines rest
  | c :: rest =>
    match lines rest with
    | [] => [[c]]
    | line :: more => (c :: line) :: more

/-- The text with a bare line feed in place of each carriage return and line feed. -/
def unifyLineEnds : List Char → List Char
  | [] => []
  | '\r' :: '\n' :: rest => '\n' :: unifyLineEnds rest
  | c :: rest => c :: unifyLineEnds rest

/-- One line of program text, indented by tabs. -/
def line (indent : Nat) (text : String) : String :=
  String.ofList (List.replicate indent '\t') ++ text ++ "\n"

/-- A line of a body, indented by tabs and without white space at its end; a blank one is empty. -/
def indentLine (indent : Nat) (text : List Char) : List Char :=
  if isBlank text then [] else List.replicate indent '\t' ++ trimEnd text

/-- The lines of a body, each indented by tabs, with a line feed between them. -/
def indentLines (indent : Nat) (body : List Char) : List Char :=
  List.intercalate ['\n'] ((lines (unifyLineEnds body)).map (indentLine indent))

end ShaderComposition.Text
