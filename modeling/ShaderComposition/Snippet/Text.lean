import ShaderComposition.Snippet
import ShaderComposition.Text.Line

/-!
# How snippets are written into a program

A snippet is announced by a comment and stands in a block of its own, so that what it declares does
not meet what other snippets declare.
-/

namespace ShaderComposition.Snippet

/-- The body of a snippet as indented lines; nothing where there is only white space. -/
def bodyText (body : String) (indent : Nat) : String :=
  let lines := Text.indentLines indent body.toList
  if Text.isBlank lines then "" else String.ofList lines ++ "\n"

/-- The comment and the block of a snippet. -/
def text (s : Snippet) (indent : Nat) : String :=
  Text.line indent ("/* " ++ s.label ++ " */") ++ Text.line indent "\x7b" ++
    bodyText s.body (indent + 1) ++ Text.line indent "\x7d"

end ShaderComposition.Snippet
