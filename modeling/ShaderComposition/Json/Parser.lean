import ShaderComposition.Json.Number
import ShaderComposition.Json.Text

/-!
# Reading JSON texts

The tree of a text. What follows a defect is not looked at.
-/

namespace ShaderComposition.Json

/-- The characters that may stand between the tokens of a text. -/
def isGap (c : Char) : Bool :=
  c = ' ' || c = '\n' || c = '\t' || c = '\r'

/-- A text from its next token on. -/
def nextToken (text : List Char) : List Char :=
  text.dropWhile isGap

/-- A value, and what follows it unless it has a defect. -/
structure Parsed (α : Type) where
  value : α
  rest : Option (List Char)

namespace Parsed

def failed (defect : JsonDefect) : Parsed Json :=
  ⟨.broken defect, none⟩

/-- A token that can be read or, if not, may still be passed over. -/
def ofToken {α : Type} (make : α → Json) (read : Except JsonFault (α × List Char))
    (skip : Except JsonFault (List Char)) : Parsed Json :=
  match read, skip with
  | .ok (value, rest), _ => ⟨make value, some rest⟩
  | .error _, .ok rest => ⟨.unreadable, some rest⟩
  | .error whenRead, .error whenSkipped => failed ⟨whenRead, whenSkipped⟩

/-- The rest of a word that stands for a value. -/
def ofWord (value : Json) : (word text : List Char) → Parsed Json
  | [], text => ⟨value, some text⟩
  | _ :: _, [] => failed .truncated
  | c :: word, d :: text => if c = d then ofWord value word text else failed .malformed

/-- A token that is neither an array nor an object. -/
def ofScalar : List Char → Parsed Json
  | [] => failed .truncated
  | 'n' :: text => ofWord .null ['u', 'l', 'l'] text
  | 't' :: text => ofWord (.bool true) ['r', 'u', 'e'] text
  | 'f' :: text => ofWord (.bool false) ['a', 'l', 's', 'e'] text
  | '"' :: text => ofToken .string (JsonText.read text) (JsonText.skip text)
  | c :: text =>
    if c = '-' || c.isDigit then
      ofToken .number (JsonNumber.read (c :: text)) (JsonNumber.skip (c :: text))
    else failed .malformed

end Parsed

/-- The items of an array, and the defect that ends them. -/
abbrev Items := List Json × Option JsonDefect

/-- The members of an object, and the defect that ends them. -/
abbrev Members := List (Option String × Json) × Option JsonDefect

mutual

/-- The value at the front of a text, whose brackets are fewer than `fuel`. -/
def parseValue (fuel : Nat) (text : List Char) : Parsed Json :=
  match fuel with
  | 0 => .failed .malformed
  | fuel + 1 =>
    match nextToken text with
    | '[' :: rest =>
      let body : Parsed Items := match nextToken rest with
        | ']' :: after => ⟨([], none), some after⟩
        | [] => ⟨([], some .truncated), none⟩
        | token => parseItems fuel token
      ⟨.array body.value.1 body.value.2, body.rest⟩
    | '\x7b' :: rest =>
      let body : Parsed Members := match nextToken rest with
        | '\x7d' :: after => ⟨([], none), some after⟩
        | token => parseMembers fuel token
      ⟨.object body.value.1 body.value.2, body.rest⟩
    | token => .ofScalar token

/-- The items of an array from the next one on. -/
def parseItems (fuel : Nat) (text : List Char) : Parsed Items :=
  match fuel with
  | 0 => ⟨([], some .malformed), none⟩
  | fuel + 1 =>
    let item := parseValue fuel text
    match item.rest.map nextToken with
    | none => ⟨([item.value], none), none⟩
    | some (']' :: after) => ⟨([item.value], none), some after⟩
    | some (',' :: after) =>
      let more := parseItems fuel after
      ⟨(item.value :: more.value.1, more.value.2), more.rest⟩
    | some [] => ⟨([item.value], some .truncated), none⟩
    | some _ => ⟨([item.value], some .malformed), none⟩

/-- The members of an object from the next key on. -/
def parseMembers (fuel : Nat) (text : List Char) : Parsed Members :=
  match fuel with
  | 0 => ⟨([], some .malformed), none⟩
  | fuel + 1 =>
    match nextToken text with
    | [] => ⟨([], some .truncated), none⟩
    | '"' :: quoted =>
      let key := Parsed.ofToken .string (JsonText.read quoted) (JsonText.skip quoted)
      let name : Option String := match key.value with
        | .string name => some name
        | _ => none
      match key.value, key.rest.map nextToken with
      | .broken defect, _ => ⟨([], some defect), none⟩
      | _, some (':' :: after) =>
        let value := parseValue fuel after
        match value.rest.map nextToken with
        | none => ⟨([(name, value.value)], none), none⟩
        | some ('\x7d' :: after) => ⟨([(name, value.value)], none), some after⟩
        | some (',' :: after) =>
          let more := parseMembers fuel after
          ⟨((name, value.value) :: more.value.1, more.value.2), more.rest⟩
        | some [] => ⟨([(name, value.value)], some .truncated), none⟩
        | some _ => ⟨([(name, value.value)], some .malformed), none⟩
      | _, some (_ :: _) => ⟨([(name, .broken .malformed)], none), none⟩
      | _, _ => ⟨([(name, .broken .truncated)], none), none⟩
    | _ => ⟨([], some .malformed), none⟩

end

/-- A text as a tree, with whether anything but white space follows the value. -/
structure Document where
  value : Json
  trailing : Bool

/-- The tree of a text. -/
def parse (text : String) : Document :=
  let parsed := parseValue (2 * text.length + 2) text.toList
  ⟨parsed.value, parsed.rest.any fun rest => !(nextToken rest).isEmpty⟩

end ShaderComposition.Json
