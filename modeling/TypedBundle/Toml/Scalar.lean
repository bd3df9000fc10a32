import TypedBundle.Manifest.Document
import TypedBundle.Toml.Quoted

/-!
# Unquoted values in TOML

Truth values, integers in four bases, floating-point numbers and times. Of a number that is no
integer, and of a time, a manifest has no use: they are only checked.

A text can pass for a number and yet write none that can be held: it is too large, it stops after
the mark of its base, or there are letters among grouped digits. Such a number does not spoil the
text that it stands in; it is an unreadable value there.
-/

namespace TypedBundle.Toml

/-- Drops the underscores of a number. Each has to stand between two digits; `afterDigit` tells
whether a digit came just before. -/
def ungroupFrom (isDigit : Char → Bool) : (afterDigit : Bool) → List Char → Option (List Char)
  | _, [] => some []
  | afterDigit, '_' :: rest =>
    if afterDigit && rest.head?.any isDigit then ungroupFrom isDigit false rest else none
  | _, c :: rest => (c :: ·) <$> ungroupFrom isDigit (isDigit c) rest

/-- Drops the underscores of a number without a sign. -/
def ungroup (isDigit : Char → Bool) (cs : List Char) : Option (List Char) :=
  ungroupFrom isDigit false cs

/-- The number that digits make in a base. -/
def ofDigits (base : Nat) (ds : List Char) : Nat :=
  ds.foldl (fun n c => n * base + (hexDigit? c).getD 0) 0

/-- Whether the character is a digit of the base. -/
def isDigitOf (base : Nat) (c : Char) : Bool := (hexDigit? c).any (· < base)

/-- Whether the digits write a decimal number without idle zeros in front. -/
def hasPlainStart : List Char → Bool
  | '0' :: _ :: _ => false
  | _ => true

/-- Whether the integer can be held: in 128 bits, of which a negative one spends one on the
sign. -/
def inRange : Int → Bool
  | .ofNat n => n.log2 < 128
  | .negSucc n => n.log2 < 127

/-- The integer with the sign and the digits, if they are digits and it can be held. -/
def heldInteger (base : Nat) (sign : Int) (ds : List Char) : Document :=
  let n := sign * ofDigits base ds
  if !ds.isEmpty && ds.all (isDigitOf base) && inRange n then .integer n else .unreadable

/-- The integer in the base, from after the mark of the base. -/
def basedInteger? (base : Nat) (cs : List Char) : Option Document := do
  guard (cs.all fun c => isDigitOf base c || c == '_')
  return heldInteger base 1 (← ungroup (isDigitOf 16) cs)

/-- The decimal integer with the sign. Once the digits are grouped, letters are not told from
them. -/
def decimalInteger? (sign : Int) (cs : List Char) : Option Document := do
  guard (hasPlainStart cs && !cs.isEmpty)
  guard ((cs.dropWhile (isDigitOf 10)).head?.all (· == '_'))
  return heldInteger 10 sign (← ungroup (isDigitOf 16) cs)

/-- Whether the number with the digits and the decimal exponent rounds to a finite 64-bit
number. Numbers far from the limit are told by their length. -/
def isFinite (ds : List Char) (exponent : Int) : Bool :=
  let n := ofDigits 10 ds
  let length : Int := (Nat.toDigits 10 n).length
  if n = 0 || length + exponent ≤ 308 then true
  else if length + exponent > 309 then false
  else
    let limit := (Nat.pow 2 54 - 1) * Nat.pow 2 970
    if 0 ≤ exponent then n * Nat.pow 10 exponent.toNat < limit
    else n < limit * Nat.pow 10 (-exponent).toNat

/-- The number that one or more decimal digits make. -/
def someDigits? (cs : List Char) : Option Nat :=
  if !cs.isEmpty && cs.all (isDigitOf 10) then some (ofDigits 10 cs) else none

/-- The exponent part of a number, from its letter on; none counts as zero. -/
def exponent? : List Char → Option Int
  | [] => some 0
  | e :: rest =>
    if e == 'e' || e == 'E' then
      match rest with
      | '-' :: ds => (someDigits? ds).map fun n => -Int.ofNat n
      | '+' :: ds => (someDigits? ds).map Int.ofNat
      | ds => (someDigits? ds).map Int.ofNat
    else none

/-- The digits of a floating-point number without a sign, those of the fraction included, and the
decimal exponent of the last one. -/
def floatParts? (cs : List Char) : Option (List Char × Int) := do
  let whole := cs.takeWhile (isDigitOf 10)
  guard (!whole.isEmpty && hasPlainStart whole)
  match cs.dropWhile (isDigitOf 10) with
  | '.' :: rest =>
    let fraction := rest.takeWhile (isDigitOf 10)
    guard !fraction.isEmpty
    let exponent ← exponent? (rest.dropWhile (isDigitOf 10))
    return (whole ++ fraction, exponent - fraction.length)
  | rest => return (whole, ← exponent? rest)

/-- The floating-point number after a sign. -/
def float? (cs : List Char) : Option Document := do
  let (ds, exponent) ← floatParts? (← ungroup (isDigitOf 10) cs)
  return if isFinite ds exponent then .decimal else .unreadable

/-- The decimal number with the sign. A point or the letter of an exponent makes it a
floating-point number. -/
def decimal? (sign : Int) (cs : List Char) : Option Document :=
  if cs = "inf".toList ∨ cs = "nan".toList then some .decimal
  else if cs.any fun c => c == '.' || c == 'e' || c == 'E' then float? cs
  else decimalInteger? sign cs

/-- The number that the text writes. -/
def number? : List Char → Option Document
  | '0' :: 'x' :: cs => basedInteger? 16 cs
  | '0' :: 'o' :: cs => basedInteger? 8 cs
  | '0' :: 'b' :: cs => basedInteger? 2 cs
  | '-' :: cs => decimal? (-1) cs
  | '+' :: cs => decimal? 1 cs
  | cs => decimal? 1 cs

/-- The number made by exactly as many digits, and what follows them. -/
def fixed? (count : Nat) (cs : List Char) : Option (Nat × List Char) :=
  let ds := cs.take count
  if ds.length = count ∧ ds.all (isDigitOf 10) then some (ofDigits 10 ds, cs.drop count) else none

/-- What follows the character at the start. -/
def after? (c : Char) : List Char → Option (List Char)
  | d :: rest => if c = d then some rest else none
  | [] => none

/-- The number of days of a month. -/
def daysIn (year month : Nat) : Nat :=
  if month = 2 then
    if year % 4 = 0 ∧ (year % 100 ≠ 0 ∨ year % 400 = 0) then 29 else 28
  else if month = 4 ∨ month = 6 ∨ month = 9 ∨ month = 11 then 30
  else 31

/-- What follows a date at the start. -/
def afterDate? (cs : List Char) : Option (List Char) := do
  let (year, cs) ← fixed? 4 cs
  let (month, cs) ← fixed? 2 (← after? '-' cs)
  let (day, cs) ← fixed? 2 (← after? '-' cs)
  guard (1 ≤ month ∧ month ≤ 12 ∧ 1 ≤ day ∧ day ≤ daysIn year month)
  return cs

/-- What follows a time of day at the start. The sixtieth second can be one too many. -/
def afterTime? (cs : List Char) : Option (List Char) := do
  let (hour, cs) ← fixed? 2 cs
  let (minute, cs) ← fixed? 2 (← after? ':' cs)
  let (second, cs) ← fixed? 2 (← after? ':' cs)
  guard (hour ≤ 23 ∧ minute ≤ 59 ∧ second ≤ 60)
  match cs with
  | '.' :: rest =>
    guard (rest.head?.any (isDigitOf 10))
    return rest.dropWhile (isDigitOf 10)
  | _ => return cs

/-- Whether the text is an offset from universal time. -/
def isOffset (cs : List Char) : Bool :=
  match cs with
  | ['Z'] | ['z'] => true
  | sign :: rest =>
    (sign == '+' || sign == '-') &&
      ((do
        let (hour, cs) ← fixed? 2 rest
        let (minute, cs) ← fixed? 2 (← after? ':' cs)
        guard (hour ≤ 23 ∧ minute ≤ 59 ∧ cs.isEmpty)) : Option Unit).isSome
  | [] => false

/-- Whether the character separates a date from a time. -/
def isTimeMark (c : Char) : Bool := c == 'T' || c == 't' || c == ' '

/-- Whether the text is a date, a time, or both. -/
def isMoment (cs : List Char) : Bool :=
  match afterDate? cs with
  | some [] => true
  | some (mark :: rest) =>
    isTimeMark mark &&
      match afterTime? rest with
      | some [] => true
      | some offset => isOffset offset
      | none => false
  | none => afterTime? cs == some []

/-- The value that an unquoted text writes. -/
def scalarValue? (cs : List Char) : Option Document :=
  if cs = "true".toList then some (.bool true)
  else if cs = "false".toList then some (.bool false)
  else if isMoment cs then some .moment
  else number? cs

end TypedBundle.Toml
