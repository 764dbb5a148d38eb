import ShaderComposition.Json
import ShaderComposition.Number.Shortest

/-!
# Writing JSON texts

The compact text of a tree: no white space, and escapes for control characters, quotes and backslashes
only.
-/

namespace ShaderComposition.Json

/-- A character inside the quotes of a string. -/
def escapeChar (c : Char) : List Char :=
  match c with
  | '"' => ['\\', '"']
  | '\\' => ['\\', '\\']
  | '\u0008' => ['\\', 'b']
  | '\u000c' => ['\\', 'f']
  | '\n' => ['\\', 'n']
  | '\r' => ['\\', 'r']
  | '\t' => ['\\', 't']
  | c =>
    if c.toNat < 0x20 then
      let digits := Nat.toDigits 16 c.toNat
      ['\\', 'u'] ++ List.replicate (4 - digits.length) '0' ++ digits
    else [c]

/-- A text as a JSON string. -/
def quote (text : String) : String :=
  "\"" ++ String.ofList (text.toList.flatMap escapeChar) ++ "\""

def numberText : JsonNumber → String
  | .integer value => toString value
  | .double value => Shortest.ofDouble value

mutual

/-- The compact text of a tree; what could not be read is written `null`. -/
def text : Json → String
  | .bool value => if value then "true" else "false"
  | .number value => numberText value
  | .string value => quote value
  | .array items _ => "[" ++ ",".intercalate (itemTexts items) ++ "]"
  | .object members _ => "\x7b" ++ ",".intercalate (memberTexts members) ++ "\x7d"
  | _ => "null"

def itemTexts : List Json → List String
  | [] => []
  | item :: rest => text item :: itemTexts rest

def memberTexts : List (Option String × Json) → List String
  | [] => []
  | (key, value) :: rest => (quote (key.getD "") ++ ":" ++ text value) :: memberTexts rest

end

/-- Puts a member at its place in a list with increasing keys; of two with one key the later stays. -/
def insertMember (key : String) (value : Json) :
    List (Option String × Json) → List (Option String × Json)
  | [] => [(some key, value)]
  | (other, v) :: rest =>
    if key < other.getD "" then (some key, value) :: (other, v) :: rest
    else if key = other.getD "" then (some key, value) :: rest
    else (other, v) :: insertMember key value rest

mutual

/-- The tree with the keys of every object in increasing order. -/
def sorted : Json → Json
  | .array items defect => .array (sortedItems items) defect
  | .object members defect => .object (sortedMembers members []) defect
  | other => other

def sortedItems : List Json → List Json
  | [] => []
  | item :: rest => sorted item :: sortedItems rest

def sortedMembers :
    List (Option String × Json) → List (Option String × Json) → List (Option String × Json)
  | [], done => done
  | (key, value) :: rest, done =>
    sortedMembers rest (insertMember (key.getD "") (sorted value) done)

end

end ShaderComposition.Json
