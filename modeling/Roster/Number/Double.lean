import Roster.Text.Plain

/-!
Floating point numbers of 53 significant bits, by their exact values. A finite
number is a whole mantissa times a power of two; every operation computes the
exact result first and rounds it once, to the nearest number and a half to the
even mantissa.
-/

namespace Roster.Number

/-- A finite number is `mantissa * 2 ^ exponent`, with `-1074 ≤ exponent ≤ 971`
and `mantissa < 2 ^ 53`; the mantissa has all 53 bits unless the exponent is the
least. -/
inductive Double where
  | nan
  | infinite (negative : Bool)
  | finite (negative : Bool) (mantissa : Nat) (exponent : Int)
deriving DecidableEq, Repr

namespace Double

def leastExponent : Int := -1074
def greatestExponent : Int := 971

def roundQuotient (num den : Nat) : Nat :=
  let quotient := num / den
  let twice := 2 * (num % den)
  if twice < den then quotient
  else if den < twice then quotient + 1
  else quotient + quotient % 2

def inUnits (num den : Nat) (exponent : Int) : Nat × Nat :=
  if 0 ≤ exponent then (num, den * Nat.pow 2 exponent.toNat)
  else (num * Nat.pow 2 (-exponent).toNat, den)

def ratioLog (num den : Nat) : Int :=
  let guess : Int := (num.log2 : Int) - (den.log2 : Int)
  let (scaled, unit) := inUnits num den guess
  if unit ≤ scaled then guess else guess - 1

def ofRatio (negative : Bool) (num den : Nat) : Double :=
  if num = 0 then .finite negative 0 leastExponent
  else
    let exponent := max (ratioLog num den - 52) leastExponent
    let (scaled, unit) := inUnits num den exponent
    let mantissa := roundQuotient scaled unit
    let (mantissa, exponent) :=
      if mantissa = Nat.pow 2 53 then (Nat.pow 2 52, exponent + 1) else (mantissa, exponent)
    if greatestExponent < exponent then .infinite negative
    else .finite negative mantissa exponent

def ofScaled (negative : Bool) (mantissa : Nat) (exponent : Int) : Double :=
  if 0 ≤ exponent then ofRatio negative (mantissa * Nat.pow 2 exponent.toNat) 1
  else ofRatio negative mantissa (Nat.pow 2 (-exponent).toNat)

def ofNat (n : Nat) : Double := ofRatio false n 1

def zero : Double := .finite false 0 leastExponent

def mul : Double → Double → Double
  | .nan, _ | _, .nan => .nan
  | .infinite s, .infinite t => .infinite (s != t)
  | .infinite s, .finite t m _ | .finite t m _, .infinite s =>
    if m = 0 then .nan else .infinite (s != t)
  | .finite s m e, .finite t n f => ofScaled (s != t) (m * n) (e + f)

def signed (negative : Bool) (magnitude : Nat) : Int :=
  if negative then -(magnitude : Int) else magnitude

def align (s : Bool) (m : Nat) (e : Int) (t : Bool) (n : Nat) (f : Int) : Int × Int × Int :=
  let unit := min e f
  (signed s (m * Nat.pow 2 (e - unit).toNat), signed t (n * Nat.pow 2 (f - unit).toNat), unit)

def add : Double → Double → Double
  | .nan, _ | _, .nan => .nan
  | .infinite s, .infinite t => if s = t then .infinite s else .nan
  | .infinite s, .finite .. | .finite .., .infinite s => .infinite s
  | .finite s m e, .finite t n f =>
    let (left, right, unit) := align s m e t n f
    let sum := left + right
    -- A sum of zero is negative only when both numbers are.
    ofScaled (if sum = 0 then s && t else sum < 0) sum.natAbs unit

def le : Double → Double → Bool
  | .nan, _ | _, .nan => false
  | .infinite s, .infinite t => s || !t
  | .infinite s, .finite .. => s
  | .finite .., .infinite t => !t
  | .finite s m e, .finite t n f =>
    let (left, right, _) := align s m e t n f
    left ≤ right

/-- The whole part, clamped to the numbers from 0 to `limit`; not a number counts as 0. -/
def clamp (limit : Nat) : Double → Nat
  | .nan => 0
  | .infinite negative => if negative then 0 else limit
  | .finite negative m e =>
    if negative then 0
    else
      let (scaled, unit) := inUnits m 1 (-e)
      min limit (scaled / unit)

/-- The 64 bits of the interchange format; all that is not a number is alike and has none. -/
def bits? : Double → Option Nat
  | .nan => none
  | .infinite negative => some (sign negative + 0x7FF * Nat.pow 2 52)
  | .finite negative m e =>
    some (sign negative +
      if m < Nat.pow 2 52 then m else (e + 1075).toNat * Nat.pow 2 52 + (m - Nat.pow 2 52))
where
  sign (negative : Bool) : Nat := if negative then Nat.pow 2 63 else 0

end Double

/-!
Decimal texts of floating point numbers. Reading takes the exact decimal value
and rounds it once. Writing takes the coarsest decimal grid that has a point
among the reals that round to the number, and of its points the nearest, the upper one
of two that are equally near.
-/

inductive DecimalFault where
  | empty
  | invalid
deriving DecidableEq, Repr

def DecimalFault.message : DecimalFault → String
  | .empty => "cannot parse float from empty string"
  | .invalid => "invalid float literal"

namespace Double

def decimalReach : Int := 400

def ofDecimal (negative : Bool) (digits : Nat) (exponent : Int) : Double :=
  let leading := exponent + (if digits = 0 then 0 else (Text.digits digits).length : Nat)
  if digits = 0 then ofRatio negative 0 1
  else if decimalReach < leading then .infinite negative
  else if leading < -decimalReach then ofRatio negative 0 1
  else if 0 ≤ exponent then ofRatio negative (digits * Nat.pow 10 exponent.toNat) 1
  else ofRatio negative digits (Nat.pow 10 (-exponent).toNat)

def digitsValue (value : Nat) (digits : List Char) : Nat :=
  digits.foldl (fun value c => value * 10 + (c.toNat - 48)) value

def readExponent? (text : List Char) : Option Int :=
  let (negative, digits) := match text with
    | '-' :: rest => (true, rest)
    | '+' :: rest => (false, rest)
    | rest => (false, rest)
  if digits.isEmpty || !digits.all Char.isDigit then none
  else some (signed negative (digitsValue 0 digits))

def readUnsigned? (negative : Bool) (text : List Char) : Option Double :=
  let whole := text.takeWhile Char.isDigit
  let rest := text.dropWhile Char.isDigit
  let (fraction, rest) := match rest with
    | '.' :: tail => (tail.takeWhile Char.isDigit, tail.dropWhile Char.isDigit)
    | other => ([], other)
  if whole.isEmpty && fraction.isEmpty then none
  else
    let value := digitsValue (digitsValue 0 whole) fraction
    match rest with
    | [] => some (ofDecimal negative value (-(fraction.length : Int)))
    | mark :: tail =>
      if mark = 'e' || mark = 'E' then
        (readExponent? tail).map fun exponent =>
          ofDecimal negative value (exponent - fraction.length)
      else none

def readWord? (negative : Bool) (text : List Char) : Option Double :=
  let word := String.ofList (text.map Char.toLower)
  if word = "nan" then some .nan
  else if word = "inf" || word = "infinity" then some (.infinite negative)
  else none

def read (text : List Char) : Except DecimalFault Double :=
  let (negative, body) := match text with
    | '-' :: rest => (true, rest)
    | '+' :: rest => (false, rest)
    | rest => (false, rest)
  if text.isEmpty then .error .empty
  else match readUnsigned? negative body <|> readWord? negative body with
    | some value => .ok value
    | none => .error .invalid

/-- Whether `point * 10 ^ place` is one of the reals that round to
`mantissa * 2 ^ exponent`. Below a power of two the neighbour is half as far. -/
def roundsTo (mantissa : Nat) (exponent : Int) (point : Nat) (place : Int) : Bool :=
  let below := if mantissa = Nat.pow 2 52 && leastExponent < exponent then 1 else 2
  -- All sides in quarters of the last binary place, over a common denominator.
  let (binary, binaryUnit) := if 0 ≤ exponent then (Nat.pow 2 exponent.toNat, 1)
    else (1, Nat.pow 2 (-exponent).toNat)
  let (decimal, decimalUnit) := if 0 ≤ place then (Nat.pow 10 place.toNat, 1)
    else (1, Nat.pow 10 (-place).toNat)
  let value := 4 * point * decimal * binaryUnit
  let low := (4 * mantissa - below) * binary * decimalUnit
  let high := (4 * mantissa + 2) * binary * decimalUnit
  if mantissa % 2 = 0 then low ≤ value && value ≤ high else low < value && value < high

/-- The nearer of the two points of a decimal grid around a number that rounds to it, if one
does. Of two equally near points the upper one is taken. -/
def gridPoint? (mantissa : Nat) (exponent place : Int) : Option Nat :=
  let (num, den) := inUnits mantissa 1 (-exponent)
  let (num, den) := if 0 ≤ place then (num, den * Nat.pow 10 place.toNat)
    else (num * Nat.pow 10 (-place).toNat, den)
  let floor := num / den
  let nearer := if 2 * (num % den) < den then [floor, floor + 1] else [floor + 1, floor]
  nearer.find? fun point => roundsTo mantissa exponent point place

/-- The fewest decimal digits that read back as a number, and their place. -/
def shortest (mantissa : Nat) (exponent : Int) : Nat × Int :=
  let places := (List.range 640).map fun (n : Nat) => (309 : Int) - n
  (places.findSome? fun place =>
    (gridPoint? mantissa exponent place).bind fun point =>
      if point = 0 then none else some (point, place)).getD (0, 0)

def positional (point : Nat) (place : Int) : List Char :=
  let digits := Text.digits point
  if 0 ≤ place then digits ++ List.replicate place.toNat '0'
  else
    let places := (-place).toNat
    let digits := Text.padded (places + 1) point
    digits.take (digits.length - places) ++ '.' :: digits.drop (digits.length - places)

def text : Double → String
  | .nan => "NaN"
  | .infinite negative => if negative then "-inf" else "inf"
  | .finite negative mantissa exponent =>
    let body :=
      if mantissa = 0 then ['0']
      else
        let (point, place) := shortest mantissa exponent
        positional point place
    String.ofList (if negative then '-' :: body else body)

end Double
end Roster.Number
