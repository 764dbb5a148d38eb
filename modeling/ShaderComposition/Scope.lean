import ShaderComposition.BuildError

/-!
# Scopes

A scope collects the parameters that are declared while one stage, or one block inside it, is put
together. Its globals become the interface and the temporaries of the stage, its locals stay inside
the block. A declaration whose name is there already adds nothing: it is satisfied by the entry of
that name or refused because of it.
-/

namespace ShaderComposition

/-- The parameters declared so far, in order of declaration. -/
structure Scope where
  stage : Stage
  globals : List Parameter := []
  locals : List Parameter := []
deriving DecidableEq

namespace Scope

/-- The entry of a name. -/
def find? (s : Scope) (name : String) : Option Parameter :=
  (s.globals ++ s.locals).find? (·.name == name)

/--
Whether an existing declaration already provides what a later one of the same name asks for. They
must have the same shape, and a value must not be produced after it was read; a value that was only
read cannot be changed either, which is left to the caller to report.
-/
def provides (stage : Stage) (existing candidate : Parameter) : Except BuildError Bool :=
  if existing.shape.type ≠ candidate.shape.type then
    .error (.parameterConflict stage .type existing candidate)
  else if !existing.shape.sameSize candidate.shape then
    .error (.parameterConflict stage .size existing candidate)
  else match existing.qualifier, candidate.qualifier with
    | .input, .input | .output, _ | .inout, .input | .inout, .inout => .ok true
    | .input, .inout => .ok false
    | .input, .output | .inout, .output =>
      .error (.parameterConflict stage .qualifier existing candidate)

/-- Whether an entry of the scope provides the candidate. -/
def satisfies (s : Scope) (candidate : Parameter) : Except BuildError Bool :=
  match s.find? candidate.name with
  | some existing => provides s.stage existing candidate
  | none => .ok false

/-- Whether the candidate needs an entry of its own; a value to be changed cannot be the first. -/
def needsEntry (s : Scope) (candidate : Parameter) : Except BuildError Bool :=
  match s.satisfies candidate with
  | .error e => .error e
  | .ok true => .ok false
  | .ok false =>
    if candidate.qualifier = .inout then
      .error (.unsatisfiableInOut s.stage candidate.source candidate.name)
    else .ok true

/-- Declares a value of the stage; tells whether it is a new one. -/
def declare (s : Scope) (candidate : Parameter) : Except BuildError (Bool × Scope) :=
  match s.needsEntry candidate with
  | .error e => .error e
  | .ok false => .ok (false, s)
  | .ok true => .ok (true, { s with globals := s.globals ++ [candidate] })

/-- Declares a value that stays inside the block; tells whether it is a new one. -/
def declareLocal (s : Scope) (candidate : Parameter) : Except BuildError (Bool × Scope) :=
  match s.needsEntry candidate with
  | .error e => .error e
  | .ok false => .ok (false, s)
  | .ok true => .ok (true, { s with locals := s.locals ++ [candidate] })

/-- Declares values in order, up to the first that is refused. -/
def declareAll (s : Scope) : List Parameter → Scope × Except BuildError Unit
  | [] => (s, .ok ())
  | candidate :: rest =>
    match s.declare candidate with
    | .error e => (s, .error e)
    | .ok (_, s') => s'.declareAll rest

/-- Moves a global to the locals; nothing where the name is not a global's. -/
def demote? (s : Scope) (name : String) : Option Scope :=
  match s.globals.find? (·.name == name) with
  | none => none
  | some p =>
    some { s with globals := s.globals.eraseP (·.name == name), locals := s.locals ++ [p] }

/-- Moves a global to the locals where there is one of that name. -/
def demote (s : Scope) (name : String) : Scope :=
  (s.demote? name).getD s

/-- Declares the globals of an inner scope here; its locals are handed back. -/
def absorb (s inner : Scope) : Scope × Except BuildError (List Parameter) :=
  match s.declareAll inner.globals with
  | (s', .ok ()) => (s', .ok inner.locals)
  | (s', .error e) => (s', .error e)

/-- The scope after declaring values in order, if none is refused. -/
def extend (s : Scope) (candidates : List Parameter) : Except BuildError Scope :=
  match s.declareAll candidates with
  | (s', .ok ()) => .ok s'
  | (_, .error e) => .error e

/-- The scope after declaring values in order that stay inside the block, if none is refused. -/
def extendLocals (s : Scope) : List Parameter → Except BuildError Scope
  | [] => .ok s
  | candidate :: rest =>
    match s.declareLocal candidate with
    | .error e => .error e
    | .ok (_, s') => s'.extendLocals rest

end Scope

end ShaderComposition
