import ShaderComposition.Text.Line

/-!
# Expressions and statements of the shading language

The statements that a program needs besides its snippets are written as trees, so that one value
gives both their text and the variables that they use.
-/

namespace ShaderComposition

/-- The operators between two operands. -/
inductive Operator
  | plus | minus | times | less
deriving DecidableEq

def Operator.text : Operator → String
  | plus => " + "
  | minus => " - "
  | times => " * "
  | less => " < "

/-- Expressions. Grouping is written out, so a tree is rendered without regard to precedence. -/
inductive Expression
  /-- A variable that the program declares. -/
  | var (name : String)
  /-- A variable that the language or the pipeline supplies. -/
  | builtin (name : String)
  | literal (text : String)
  | component (of : Expression) (names : String)
  | element (array index : Expression)
  | call (function : String) (arguments : Expression)
  /-- Several arguments of a call. -/
  | pair (first rest : Expression)
  | binary (operator : Operator) (left right : Expression)
  | negate (operand : Expression)
  | group (inner : Expression)
deriving DecidableEq

namespace Expression

def text : Expression → String
  | var name => name
  | builtin name => name
  | literal text => text
  | component e names => e.text ++ "." ++ names
  | element array index => array.text ++ "[" ++ index.text ++ "]"
  | call function arguments => function ++ "(" ++ arguments.text ++ ")"
  | pair first rest => first.text ++ ", " ++ rest.text
  | binary operator left right => left.text ++ operator.text ++ right.text
  | negate operand => "-" ++ operand.text
  | group inner => "(" ++ inner.text ++ ")"

/-- The declared variables that an expression uses. -/
def uses : Expression → List String
  | var name => [name]
  | builtin _ | literal _ => []
  | component e _ => e.uses
  | element array index => array.uses ++ index.uses
  | call _ arguments => arguments.uses
  | pair first rest => first.uses ++ rest.uses
  | binary _ left right => left.uses ++ right.uses
  | negate operand => operand.uses
  | group inner => inner.uses

/-- The constant `n` as an index or a bound. -/
def ofNat (n : Nat) : Expression :=
  literal (toString n)

end Expression

/-- The statements that a program has besides its snippets. -/
inductive Statement
  | assign (target value : Expression)
  | increase (target value : Expression)
  | discardIf (condition : Expression)
deriving DecidableEq

namespace Statement

def text : Statement → String
  | assign target value => target.text ++ " = " ++ value.text ++ ";"
  | increase target value => target.text ++ " += " ++ value.text ++ ";"
  | discardIf condition => "if (" ++ condition.text ++ ") discard;"

/-- The declared variables that a statement uses. -/
def uses : Statement → List String
  | assign target value => target.uses ++ value.uses
  | increase target value => target.uses ++ value.uses
  | discardIf condition => condition.uses

/-- Statements as lines of a program. -/
def lines (indent : Nat) (statements : List Statement) : String :=
  String.join (statements.map fun s => Text.line indent s.text)

end Statement

end ShaderComposition
