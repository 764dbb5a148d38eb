import ShaderComposition.Number.Binary

/-!
# Float literals of the shading language

A literal has at most six decimal places and at least one, so that it is read as a float.
-/

namespace ShaderComposition

namespace FloatLiteral

/-- The number of decimal places that a value is rounded to. -/
def places : Nat := 6

/-- How many units of the last place make one. -/
def unit : Nat := Nat.pow 10 places

/-- The digits after the point: trailing zeros are left out, but the first digit is kept. -/
def fraction (digits : List Char) : List Char :=
  match (digits.reverse.dropWhile (· = '0')).reverse with
  | [] => ['0']
  | kept => kept

/-- The text of a number of units in the last place. -/
def ofUnits (units : Nat) : String :=
  let digits := Nat.toDigits 10 (units % unit)
  let padded := List.replicate (places - digits.length) '0' ++ digits
  toString (units / unit) ++ "." ++ String.ofList (fraction padded)

end FloatLiteral

/-- The literal of a single-precision value; what is not a number has the literal of zero. -/
def floatLiteral (x : Float32) : String :=
  match Binary.ofSingle x with
  | .finite negative mantissa exponent =>
    let units := roundHalfEven (mantissa * FloatLiteral.unit * Nat.pow 2 exponent.toNat)
      (Nat.pow 2 (-exponent).toNat)
    (if negative then "-" else "") ++ FloatLiteral.ofUnits units
  | _ => "0.0"

end ShaderComposition
