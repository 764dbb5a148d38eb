import ShaderComposition.Program.Optimizer

/-!
# Checking a program with a front end

A front end that reads a stage can stand in as an optimizer that changes nothing. It reads only new
versions of the language and no uniforms outside blocks, so two checks come first: the version that
the preamble states, and a search for lines that declare a loose uniform.
-/

namespace ShaderComposition.FrontEnd

/-- Why a text is no number of sixteen bits. -/
inductive NumberFault
  | digit | large
deriving DecidableEq

def NumberFault.message : NumberFault → String
  | digit => "invalid digit found in string"
  | large => "number too large to fit in target type"

/-- Reads digits behind a number that was read so far. -/
def readDigits (read : Nat) : List Char → Except NumberFault Nat
  | [] => .ok read
  | c :: rest =>
    if !c.isDigit then .error .digit
    else if 65535 < read * 10 + (c.toNat - '0'.toNat) then .error .large
    else readDigits (read * 10 + (c.toNat - '0'.toNat)) rest

/-- Reads a number of sixteen bits, in front of which a plus sign may stand. -/
def readNumber : List Char → Except NumberFault Nat
  | [] | ['+'] => .error .digit
  | '+' :: digits => readDigits 0 digits
  | digits => readDigits 0 digits

/-- Why a stage is refused. -/
inductive Refusal
  | noVersionLine
  | emptyVersionLine
  | badVersion (text : String) (fault : NumberFault)
  | oldVersion (version : Nat)
  | looseUniform (name : String)
  /-- The front end itself refused the text. -/
  | rejected (log : String)
deriving DecidableEq

/-- The oldest version that the front end reads. -/
def oldestVersion : Nat := 440

def Refusal.message : Refusal → String
  | noVersionLine => "preamble has no #version line"
  | emptyVersionLine => "empty #version line"
  | badVersion text fault => "bad GLSL version '" ++ text ++ "': " ++ fault.message
  | oldVersion version =>
    "GLSL " ++ toString version ++ " is older than naga reads (needs " ++ toString oldestVersion ++
      " or newer)"
  | looseUniform name =>
    "naga requires uniforms inside blocks with explicit bindings; '" ++ name ++
      "' is a loose uniform"
  | rejected log => log

/-- What follows a text at the start of another. -/
def dropPrefix? (start : List Char) (text : List Char) : Option (List Char) :=
  if start.isPrefixOf text then some (text.drop start.length) else none

/-- What stands before and after the first occurrence of a text in another. -/
def splitAt? (separator : List Char) : List Char → Option (List Char × List Char)
  | [] => if separator.isEmpty then some ([], []) else none
  | c :: rest =>
    match dropPrefix? separator (c :: rest) with
    | some after => some ([], after)
    | none => (splitAt? separator rest).map fun (before, after) => (c :: before, after)

/-- The version that a preamble states in its first `#version` line. -/
def statedVersion (preamble : String) : Except Refusal Nat :=
  let directive (line : List Char) := dropPrefix? "#version".toList (Text.trim line)
  match (Text.lines preamble.toList).findSome? directive with
  | none => .error .noVersionLine
  | some rest =>
    match Text.firstWord rest with
    | [] => .error .emptyVersionLine
    | word =>
      match readNumber word with
      | .ok version => .ok version
      | .error fault => .error (.badVersion (String.ofList word) fault)

/-- The uniform that a line declares outside a block. -/
def looseUniformOf (line : List Char) : Option String :=
  let line := Text.trim line
  match splitAt? "uniform ".toList line with
  | none => none
  | some (before, after) =>
    if !(before.isEmpty || "layout(".toList.isPrefixOf before) then none
    else if line.contains '\x7b' || !line.contains ';' then none
    else match Text.lastWord (after.takeWhile (· != ';')) with
      | [] => none
      | name => some (String.ofList (name.takeWhile (· != '[')))

/-- The first uniform that is declared outside a block. -/
def looseUniform? (source : String) : Option String :=
  (Text.lines source.toList).findSome? looseUniformOf

/-- Checks a stage, first by what the front end is known not to read. -/
def check (read : String → Stage → Except String Unit) (preamble source : String) (stage : Stage) :
    Except Refusal Unit :=
  match statedVersion preamble with
  | .error refusal => .error refusal
  | .ok version =>
    if version < oldestVersion then .error (.oldVersion version)
    else match looseUniform? source with
      | some name => .error (.looseUniform name)
      | none =>
        match read (preamble ++ source) stage with
        | .ok () => .ok ()
        | .error log => .error (.rejected log)

/-- The optimizer that hands back every stage that the front end reads. -/
def optimizer (read : String → Stage → Except String Unit) : Optimizer :=
  fun preamble source stage =>
    match check read preamble source stage with
    | .ok () => .ok source
    | .error refusal => .error { stage, log := refusal.message }

end ShaderComposition.FrontEnd
