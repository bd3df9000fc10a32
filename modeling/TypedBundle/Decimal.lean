/-!
# Floating-point numbers in decimal

How a binary floating-point number is written: the shortest decimal that rounds to it, in positional
or scientific notation.
-/

namespace TypedBundle

/-!
## Binary numbers

Numbers of the binary formats of 32 and 64 bits, read off their bits. A finite number is
`m * 2 ^ q`, up to its sign, for a natural number `m` and an integer `q`.
-/

/-- A binary format: the widths of its fields. -/
structure BinaryFormat where
  fractionBits : Nat
  exponentBits : Nat

namespace BinaryFormat

/-- The format of 32 bits. -/
def single : BinaryFormat := ⟨23, 8⟩

/-- The format of 64 bits. -/
def double : BinaryFormat := ⟨52, 11⟩

end BinaryFormat

/-- A finite magnitude `m * 2 ^ q`. -/
structure Magnitude where
  m : Nat
  q : Int
  /-- Whether the next smaller magnitude is only half as far away as the next larger one. -/
  isPowerOfTwo : Bool

/-- What the bits of a number mean. -/
inductive BinaryNumber where
  | nan
  | infinity (negative : Bool)
  | finite (negative : Bool) (magnitude : Magnitude)

namespace BinaryFormat

/-- The number with the bits. -/
def decode (f : BinaryFormat) (bits : Nat) : BinaryNumber :=
  let fraction := bits % Nat.pow 2 f.fractionBits
  let exponent := bits / Nat.pow 2 f.fractionBits % Nat.pow 2 f.exponentBits
  let negative := bits / Nat.pow 2 (f.fractionBits + f.exponentBits) % 2 == 1
  let lowest : Int := 2 - Nat.pow 2 (f.exponentBits - 1) - f.fractionBits
  if exponent = Nat.pow 2 f.exponentBits - 1 then
    if fraction = 0 then .infinity negative else .nan
  else if exponent = 0 then .finite negative ⟨fraction, lowest, false⟩
  else
    .finite negative ⟨Nat.pow 2 f.fractionBits + fraction, lowest + exponent - 1,
      fraction == 0 && exponent != 1⟩

/-- Whether two numbers are equal: neither is undefined, and the bits agree or both are zero. -/
def equal (f : BinaryFormat) (a b : Nat) : Bool :=
  match f.decode a, f.decode b with
  | .nan, _ => false
  | _, .nan => false
  | .finite _ ⟨0, _, _⟩, .finite _ ⟨0, _, _⟩ => true
  | _, _ => a == b

end BinaryFormat

/-!
## Shortest decimals

The decimal with the fewest digits that still rounds to a given binary number; of several the
nearest, and of two equally near ones the larger.

On the grid of all multiples of a power of ten only the two neighbours of the number need to be
looked at: if any multiple rounds to the number, so does one of them. So the search goes through
ever finer grids and stops at the first hit.
-/

/-- The decimal `digits * 10 ^ exponent`. -/
structure Decimal where
  digits : Nat
  exponent : Int
  deriving Repr, BEq, DecidableEq

namespace Decimal

/-- A positive real `numerator / denominator` and the reals that round to it, all in the same
unit. -/
structure Target where
  numerator : Nat
  low : Nat
  high : Nat
  denominator : Nat
  /-- Whether the ends of the interval round to the number too. -/
  closed : Bool

namespace Target

/-- The number in quarters of its unit, with the unit split into a fraction. -/
def ofMagnitude (x : Magnitude) : Target :=
  let scale := if 2 ≤ x.q then Nat.pow 2 (x.q - 2).toNat else 1
  let denominator := if x.q < 2 then Nat.pow 2 (2 - x.q).toNat else 1
  { numerator := 4 * x.m * scale
    low := (4 * x.m - (if x.isPowerOfTwo then 1 else 2)) * scale
    high := (4 * x.m + 2) * scale
    denominator
    closed := x.m % 2 == 0 }

/-- The number divided by a power of ten. -/
def shift (t : Target) (e : Int) : Target :=
  if 0 ≤ e then { t with denominator := t.denominator * Nat.pow 10 e.toNat }
  else
    let power := Nat.pow 10 (-e).toNat
    { t with numerator := t.numerator * power, low := t.low * power, high := t.high * power }

/-- Whether the integer rounds to the number. -/
def accepts (t : Target) (d : Nat) : Bool :=
  let x := d * t.denominator
  if t.closed then t.low ≤ x && x ≤ t.high else t.low < x && x < t.high

/-- The integer next to the number that rounds to it, if one does. -/
def neighbour? (t : Target) : Option Nat :=
  let below := t.numerator / t.denominator
  let twice := 2 * (t.numerator % t.denominator)
  if t.accepts (below + 1) && (!t.accepts below || t.denominator ≤ twice) then some (below + 1)
  else if t.accepts below then some below
  else none

/-- The largest power of ten that is not above the number, for a number below one. -/
def leadingBelowOne (t : Target) : Nat → Int
  | 0 => 0
  | fuel + 1 =>
    let t' := t.shift (-1)
    if t'.denominator ≤ t'.numerator then -1 else t'.leadingBelowOne fuel - 1

/-- The largest power of ten that is not above the number. The numbers of the formats at hand
lie above `10 ^ (-400)`. -/
def leading (t : Target) : Int :=
  if t.denominator ≤ t.numerator then
    (Nat.toDigits 10 (t.numerator / t.denominator)).length - 1
  else t.leadingBelowOne 400

end Target

/-- The first grid, from the given one on to finer ones, that has a number with the target's
rounding. -/
def search (t : Target) (e : Int) : Nat → Decimal
  | 0 => ⟨(t.shift e).numerator / (t.shift e).denominator, e⟩
  | fuel + 1 =>
    match (t.shift e).neighbour? with
    | some d => ⟨d, e⟩
    | none => search t (e - 1) fuel

/-- The decimal without zeros at its end. -/
def strip (d : Decimal) : Nat → Decimal
  | 0 => d
  | fuel + 1 =>
    if d.digits ≠ 0 ∧ d.digits % 10 = 0 then strip ⟨d.digits / 10, d.exponent + 1⟩ fuel else d

/-- The shortest decimal that rounds to the magnitude. Seventeen digits are always enough. -/
def shortest (x : Magnitude) : Decimal :=
  if x.m = 0 then ⟨0, 0⟩
  else
    let t := Target.ofMagnitude x
    (search t t.leading 17).strip 17

end Decimal

/-!
## Notation

Decimals in positional notation, with all zeros written out, and in scientific notation, with
one digit before the point. `FloatStyle` records the choices that a use has: from which powers
of ten on scientific notation is used, and whether a whole number keeps a point and a zero.
-/

namespace Decimal

/-- The digits as text. -/
def digitText (d : Decimal) : List Char := Nat.toDigits 10 d.digits

/-- The power of ten of the first digit. -/
def leadingPower (d : Decimal) : Int := d.digitText.length - 1 + d.exponent

/-- Positional notation; a whole number ends with `wholeTail`. -/
def positional (wholeTail : String) (d : Decimal) : String :=
  let ds := d.digitText
  if 0 ≤ d.exponent then
    String.ofList (ds ++ List.replicate d.exponent.toNat '0') ++ wholeTail
  else
    let places := (-d.exponent).toNat
    if places < ds.length then
      String.ofList (ds.take (ds.length - places)) ++ "." ++
        String.ofList (ds.drop (ds.length - places))
    else "0." ++ String.ofList (List.replicate (places - ds.length) '0' ++ ds)

/-- Scientific notation. -/
def scientific (d : Decimal) : String :=
  let mantissa :=
    match d.digitText with
    | [] => "0"
    | [c] => String.singleton c
    | c :: rest => String.singleton c ++ "." ++ String.ofList rest
  mantissa ++ "e" ++ toString d.leadingPower

end Decimal

/-- How floating-point numbers are written. -/
structure FloatStyle where
  /-- What follows a whole number in positional notation. -/
  wholeTail : String
  /-- Whether a number with the given leading power of ten is written in scientific notation. -/
  isScientific : Int → Bool

namespace FloatStyle

/-- For readers: positional throughout, and whole numbers as such. -/
def plain : FloatStyle := ⟨"", fun _ => false⟩

/-- For inspection: whole numbers keep a zero after the point, and very large and very small
numbers are in scientific notation. -/
def inspection : FloatStyle := ⟨".0", fun p => 16 ≤ p || p < -4⟩

/-- The text of a magnitude. -/
def magnitude (s : FloatStyle) (x : Magnitude) : String :=
  let d := Decimal.shortest x
  if d.digits ≠ 0 ∧ s.isScientific d.leadingPower then d.scientific
  else d.positional s.wholeTail

/-- The text of a number. -/
def text (s : FloatStyle) : BinaryNumber → String
  | .nan => "NaN"
  | .infinity negative => if negative then "-inf" else "inf"
  | .finite negative x => (if negative then "-" else "") ++ s.magnitude x

end FloatStyle

end TypedBundle
