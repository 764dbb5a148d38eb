import ShaderComposition.Json

/-!
# JSON numbers

A number without a fraction and an exponent is an integer if it has at most 64 bits; every other one
is a double. The digits of a double are taken up to 64 bits, and the result is scaled by a power of
ten; it is nearest to what is written for numbers of ordinary length.
-/

namespace ShaderComposition.JsonNumber

/-- What is left of a text after a number that was read or passed over. -/
abbrev Rest (α : Type) := Except JsonFault (α × List Char)

/-- The value of a decimal digit. -/
def digit (c : Char) : Nat :=
  c.toNat - '0'.toNat

/-- The largest number that the digits of a double may add up to. -/
def limit : Nat := 18446744073709551615

/-- A power of ten, as a double. -/
def powerOfTen (n : Nat) : Float :=
  Float.ofScientific 1 false n

/-- The value of digits times a power of ten, if a double is that large. -/
def scale (digits : Nat) (exponent : Int) : Option Float :=
  let value := (UInt64.ofNat digits).toFloat
  if digits = 0 then some value
  else if 308 < exponent then none
  else if 0 ≤ exponent then
    let scaled := value * powerOfTen exponent.toNat
    if scaled.isInf then none else some scaled
  else if -308 ≤ exponent then some (value / powerOfTen (-exponent).toNat)
  else if -616 ≤ exponent then
    some (value / powerOfTen 308 / powerOfTen (-exponent - 308).toNat)
  else some 0

/-- The double of a sign, digits and an exponent; one that is too large is malformed. -/
def ofDigits (negative : Bool) (digits : Nat) (exponent : Int) (rest : List Char) :
    Rest JsonNumber :=
  match scale digits exponent with
  | some value => .ok (.double (if negative then -value else value), rest)
  | none => .error .malformed

/-- The number that digits at the front of a text spell, and what follows them. -/
def digits (text : List Char) : Nat × List Char :=
  ((text.takeWhile (·.isDigit)).foldl (fun n c => n * 10 + digit c) 0, text.dropWhile (·.isDigit))

/-- Reads the exponent of a double, which must have a digit. -/
def readExponent (negative : Bool) (value : Nat) (exponent : Int) (text : List Char) :
    Rest JsonNumber :=
  let (sign, text) : Int × List Char := match text with
    | '+' :: rest => (1, rest)
    | '-' :: rest => (-1, rest)
    | _ => (1, text)
  match text with
  | [] => .error .truncated
  | c :: _ =>
    if !c.isDigit then .error .malformed
    else
      let (power, rest) := digits text
      ofDigits negative value (exponent + sign * power) rest

/-- Reads what may follow the digits of a double: an exponent. -/
def readScale (negative : Bool) (value : Nat) (exponent : Int) : List Char → Rest JsonNumber
  | 'e' :: rest | 'E' :: rest => readExponent negative value exponent rest
  | text => ofDigits negative value exponent text

/-- Reads the digits of a fraction; from the first that would make the number too long all are dropped. -/
def readFraction (negative : Bool) (value : Nat) (exponent : Int) : List Char → Rest JsonNumber
  | [] => readScale negative value exponent []
  | c :: rest =>
    if !c.isDigit then readScale negative value exponent (c :: rest)
    else if limit < value * 10 + digit c then
      readScale negative value exponent (rest.dropWhile (·.isDigit))
    else readFraction negative (value * 10 + digit c) (exponent - 1) rest

/-- Reads a fraction, which must have a digit. -/
def readPoint (negative : Bool) (value : Nat) (exponent : Int) (text : List Char) :
    Rest JsonNumber :=
  match text with
  | [] => .error .truncated
  | c :: _ =>
    if c.isDigit then readFraction negative value exponent text else .error .malformed

/-- The number that an integer is: one of at most 64 bits, or else a double. -/
def ofInteger (negative : Bool) (value : Nat) : JsonNumber :=
  if !negative then .integer value
  else if value = 0 ∨ 9223372036854775808 < value then .double (-(UInt64.ofNat value).toFloat)
  else .integer (-value)

/-- Reads what follows an integer of at most 64 bits. -/
def readAfter (negative : Bool) (value : Nat) : List Char → Rest JsonNumber
  | '.' :: rest => readPoint negative value 0 rest
  | 'e' :: rest | 'E' :: rest => readExponent negative value 0 rest
  | text => .ok (ofInteger negative value, text)

/-- Reads the rest of an integer that is too long: its digits only add to the exponent. -/
def readLong (negative : Bool) (value : Nat) (exponent : Int) : List Char → Rest JsonNumber
  | [] => ofDigits negative value exponent []
  | c :: rest =>
    if c.isDigit then readLong negative value (exponent + 1) rest
    else match c with
      | '.' => readPoint negative value exponent rest
      | _ => readScale negative value exponent (c :: rest)

/-- Reads the digits of an integer. -/
def readInteger (negative : Bool) (value : Nat) : List Char → Rest JsonNumber
  | [] => readAfter negative value []
  | c :: rest =>
    if !c.isDigit then readAfter negative value (c :: rest)
    else if limit < value * 10 + digit c then readLong negative value 0 (c :: rest)
    else readInteger negative (value * 10 + digit c) rest

/-- Reads a number without its sign; no digit may follow a leading zero. -/
def readUnsigned (negative : Bool) : List Char → Rest JsonNumber
  | [] => .error .truncated
  | '0' :: rest =>
    if rest.head?.any (·.isDigit) then .error .malformed else readAfter negative 0 rest
  | c :: rest =>
    if c.isDigit then readInteger negative (digit c) rest else .error .malformed

/-- Reads a number. -/
def read : List Char → Rest JsonNumber
  | '-' :: rest => readUnsigned true rest
  | text => readUnsigned false text

/-- Passes over at least one digit. -/
def skipDigits : List Char → Except JsonFault (List Char)
  | [] => .error .malformed
  | c :: rest => if c.isDigit then .ok (rest.dropWhile (·.isDigit)) else .error .malformed

/-- Passes over an exponent. -/
def skipExponent : List Char → Except JsonFault (List Char)
  | 'e' :: '+' :: rest | 'E' :: '+' :: rest | 'e' :: '-' :: rest | 'E' :: '-' :: rest
  | 'e' :: rest | 'E' :: rest => skipDigits rest
  | text => .ok text

/-- Passes over a fraction and an exponent. -/
def skipFraction : List Char → Except JsonFault (List Char)
  | '.' :: rest => do skipExponent (← skipDigits rest)
  | text => skipExponent text

/-- Passes over a number without its sign. -/
def skipUnsigned : List Char → Except JsonFault (List Char)
  | '0' :: rest => if rest.head?.any (·.isDigit) then .error .malformed else skipFraction rest
  | text => do skipFraction (← skipDigits text)

/-- Passes over a number, which may be larger than any double. -/
def skip : List Char → Except JsonFault (List Char)
  | '-' :: rest => skipUnsigned rest
  | text => skipUnsigned text

end ShaderComposition.JsonNumber
