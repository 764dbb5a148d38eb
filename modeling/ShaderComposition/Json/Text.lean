import ShaderComposition.Json

/-!
# JSON strings

What stands between the quotes of a JSON string. Control characters are not allowed, and an escaped
surrogate must be one of a pair.
-/

namespace ShaderComposition.JsonText

/-- The value of a hexadecimal digit. -/
def hexDigit? (c : Char) : Option Nat :=
  if c.isDigit then some (c.toNat - '0'.toNat)
  else if 'a' ≤ c ∧ c ≤ 'f' then some (c.toNat - 'a'.toNat + 10)
  else if 'A' ≤ c ∧ c ≤ 'F' then some (c.toNat - 'A'.toNat + 10)
  else none

/-- The length of a text in UTF-8. -/
def byteLength (text : List Char) : Nat :=
  text.foldl (fun n c => n + c.utf8Size) 0

/-- The number of four hexadecimal digits, for which four bytes must be left. -/
def hexEscape (text : List Char) : Except JsonFault Nat :=
  match text with
  | a :: b :: c :: d :: _ =>
    match hexDigit? a, hexDigit? b, hexDigit? c, hexDigit? d with
    | some a, some b, some c, some d => .ok (((a * 16 + b) * 16 + c) * 16 + d)
    | _, _, _, _ => .error .malformed
  | _ => .error (if byteLength text < 4 then .truncated else .malformed)

/-- The character of an escape of one letter. -/
def letterEscape? : Char → Option Char
  | '"' => some '"'
  | '\\' => some '\\'
  | '/' => some '/'
  | 'b' => some '\u0008'
  | 'f' => some '\u000c'
  | 'n' => some '\n'
  | 'r' => some '\r'
  | 't' => some '\t'
  | _ => none

/-- The first of two surrogates. -/
def isHighSurrogate (n : Nat) : Bool :=
  0xd800 ≤ n && n ≤ 0xdbff

/-- The second of two surrogates. -/
def isLowSurrogate (n : Nat) : Bool :=
  0xdc00 ≤ n && n ≤ 0xdfff

/-- The character of two surrogates. -/
def ofSurrogates (high low : Nat) : Char :=
  .ofNat (0x10000 + (high - 0xd800) * 0x400 + (low - 0xdc00))

/--
Reads the rest of a string, up to its closing quote. `done` is what was read, last character first.
-/
def readFrom (done : List Char) : List Char → Except JsonFault (String × List Char)
  | [] => .error .truncated
  | '"' :: rest => .ok (.ofList done.reverse, rest)
  | '\\' :: rest =>
    match rest with
    | [] => .error .truncated
    | 'u' :: digits =>
      match hexEscape digits with
      | .error fault => .error fault
      | .ok n =>
        if isLowSurrogate n then .error .malformed
        else if isHighSurrogate n then
          match digits with
          | _ :: _ :: _ :: _ :: [] => .error .truncated
          | _ :: _ :: _ :: _ :: '\\' :: [] => .error .truncated
          | _ :: _ :: _ :: _ :: '\\' :: 'u' :: more =>
            match hexEscape more with
            | .error fault => .error fault
            | .ok m =>
              if !isLowSurrogate m then .error .malformed
              else match more with
                | _ :: _ :: _ :: _ :: after => readFrom (ofSurrogates n m :: done) after
                | _ => .error .malformed
          | _ => .error .malformed
        else match digits with
          | _ :: _ :: _ :: _ :: after => readFrom (.ofNat n :: done) after
          | _ => .error .malformed
    | c :: after =>
      match letterEscape? c with
      | some escaped => readFrom (escaped :: done) after
      | none => .error .malformed
  | c :: rest => if c.toNat < 0x20 then .error .malformed else readFrom (c :: done) rest

/-- Reads a string after its opening quote. -/
def read (text : List Char) : Except JsonFault (String × List Char) :=
  readFrom [] text

/-- Passes over a string after its opening quote; surrogates need not be paired. -/
def skip : List Char → Except JsonFault (List Char)
  | [] => .error .truncated
  | '"' :: rest => .ok rest
  | '\\' :: rest =>
    match rest with
    | [] => .error .truncated
    | 'u' :: digits =>
      match hexEscape digits with
      | .error fault => .error fault
      | .ok _ =>
        match digits with
        | _ :: _ :: _ :: _ :: after => skip after
        | _ => .error .malformed
    | c :: after => if (letterEscape? c).isSome then skip after else .error .malformed
  | c :: rest => if c.toNat < 0x20 then .error .malformed else skip rest

end ShaderComposition.JsonText
