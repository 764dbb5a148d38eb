import ShaderComposition.Number.Binary

/-!
# Shortest decimal texts

A floating-point value is written with the fewest digits that still read back as the same value, and
of those with the digits nearest to it.
-/

namespace ShaderComposition

/-- A decimal number `digits * 10 ^ exponent`. -/
structure Decimal where
  digits : Nat
  exponent : Int
deriving DecidableEq

namespace Shortest

/--
The values that are read as `mantissa * 2 ^ exponent`, in quarters of the last place: from halfway to
the value below to halfway to the value above. The value below a power of two is half as far away.
-/
def interval (f : Binary.Format) (mantissa : Nat) (exponent : Int) : Nat × Nat :=
  let below := if mantissa = f.hidden ∧ f.least < exponent then 1 else 2
  (4 * mantissa - below, 4 * mantissa + 2)

/--
The multiple of `10 ^ place` that is read as the value and nearest to it, if one is: quarters of the
last place are `num / den` units of `10 ^ place`.
-/
def onGrid (mantissa low high num den : Nat) : Option Nat :=
  let inside (d : Nat) : Bool :=
    if mantissa % 2 = 0 then low * num ≤ d * den ∧ d * den ≤ high * num
    else low * num < d * den ∧ d * den < high * num
  let nearest := roundHalfEven (4 * mantissa * num) den
  let other := if nearest * den < 4 * mantissa * num then nearest + 1 else nearest - 1
  [nearest, other].find? inside

/-- Tries ever finer grids, from the given place down. -/
def search (f : Binary.Format) (mantissa : Nat) (exponent : Int) : Nat → Int → Option Decimal
  | 0, _ => none
  | fuel + 1, place =>
    let (low, high) := interval f mantissa exponent
    let num := Nat.pow 2 (exponent - 2).toNat * Nat.pow 10 (-place).toNat
    let den := Nat.pow 2 (2 - exponent).toNat * Nat.pow 10 place.toNat
    match onGrid mantissa low high num den with
    | some digits => some ⟨digits, place⟩
    | none => search f mantissa exponent fuel (place - 1)

/-- Leaves out trailing zeros, of which a number below `10 ^ fuel` has fewer than `fuel`. -/
def normalize : Nat → Decimal → Decimal
  | 0, d => d
  | fuel + 1, d =>
    if d.digits ≠ 0 ∧ d.digits % 10 = 0 then normalize fuel ⟨d.digits / 10, d.exponent + 1⟩ else d

/-- The shortest decimal number that is read as `mantissa * 2 ^ exponent`. -/
def decimal (f : Binary.Format) (mantissa : Nat) (exponent : Int) : Decimal :=
  if mantissa = 0 then ⟨0, 0⟩
  else
    let top := (exponent + mantissa.log2 + 1) * 30103 / 100000 + 1
    normalize 20 ((search f mantissa exponent 24 top).getD ⟨0, 0⟩)

/-- Between which places of the point a number is written without an exponent. -/
structure Layout where
  /-- The most digits before the point. -/
  most : Int
  /-- The most zeros after the point and before the first digit, less one. -/
  zeros : Int

/-- The power of ten behind a number, always with its sign. -/
def exponentText (exponent : Int) : String :=
  (if exponent < 0 then "e-" else "e+") ++ toString exponent.natAbs

/-- The text of a number that is not zero, by its digits and the place of the point in them. -/
def Layout.text (l : Layout) (d : Decimal) : String :=
  let digits := Nat.toDigits 10 d.digits
  let point := digits.length + d.exponent
  String.ofList <|
    if 0 ≤ d.exponent ∧ point ≤ l.most then
      digits ++ List.replicate d.exponent.toNat '0' ++ ['.', '0']
    else if 0 < point ∧ point ≤ l.most then
      digits.take point.toNat ++ '.' :: digits.drop point.toNat
    else if -l.zeros < point ∧ point ≤ 0 then
      '0' :: '.' :: List.replicate (-point).toNat '0' ++ digits
    else
      digits.take 1 ++ (if digits.length = 1 then [] else '.' :: digits.drop 1) ++
        (exponentText (point - 1)).toList

/-- The text of a floating-point value; one that is not finite is written `null`. -/
def text (f : Binary.Format) (l : Layout) : Binary → String
  | .finite negative mantissa exponent =>
    (if negative then "-" else "") ++
      if mantissa = 0 then "0.0" else l.text (decimal f mantissa exponent)
  | _ => "null"

/-- Doubles are written without an exponent up to sixteen digits before the point. -/
def ofDouble (x : Float) : String :=
  text .double ⟨16, 5⟩ (.ofDouble x)

/-- Singles are written without an exponent up to thirteen digits before the point. -/
def ofSingle (x : Float32) : String :=
  text .single ⟨13, 6⟩ (.ofSingle x)

end Shortest

end ShaderComposition
