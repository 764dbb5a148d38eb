/-!
# Binary floating-point values

A floating-point word stands for a whole number times a power of two. Texts of such values are made
from these two numbers with exact arithmetic.
-/

namespace ShaderComposition

/-- The quotient of two numbers, rounded to the nearest whole number, a half to the even one. -/
def roundHalfEven (num den : Nat) : Nat :=
  let quotient := num / den
  let twice := 2 * (num % den)
  if den < twice ∨ (den = twice ∧ quotient % 2 = 1) then quotient + 1 else quotient

/-- What a floating-point word stands for. -/
inductive Binary
  /-- The value `mantissa * 2 ^ exponent`, or its negative. -/
  | finite (negative : Bool) (mantissa : Nat) (exponent : Int)
  | infinite (negative : Bool)
  | notANumber
deriving DecidableEq

namespace Binary

/-- How many bits of a word hold the fraction and the exponent. -/
structure Format where
  fractionBits : Nat
  exponentBits : Nat

def Format.single : Format := ⟨23, 8⟩

def Format.double : Format := ⟨52, 11⟩

/-- The leading bit of a mantissa, which a word does not hold. -/
def Format.hidden (f : Format) : Nat :=
  Nat.pow 2 f.fractionBits

/-- The least exponent that a value can have. -/
def Format.least (f : Format) : Int :=
  2 - (Nat.pow 2 (f.exponentBits - 1) : Nat) - f.fractionBits

/-- The value of a word in a format, whose bits are the sign, the exponent and the fraction. -/
def ofBits (f : Format) (bits : Nat) : Binary :=
  let fraction := bits % f.hidden
  let exponent := bits / f.hidden % Nat.pow 2 f.exponentBits
  let negative := bits / f.hidden / Nat.pow 2 f.exponentBits % 2 = 1
  if exponent = 0 then .finite negative fraction f.least
  else if exponent = Nat.pow 2 f.exponentBits - 1 then
    if fraction = 0 then .infinite negative else .notANumber
  else .finite negative (fraction + f.hidden) (f.least + exponent - 1)

def ofSingle (x : Float32) : Binary :=
  ofBits .single x.toBits.toNat

def ofDouble (x : Float) : Binary :=
  ofBits .double x.toBits.toNat

end Binary

end ShaderComposition
