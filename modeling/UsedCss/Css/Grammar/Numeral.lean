import UsedCss.Css.Grammar.Binary
/-!
# Numerals

A numeral is a decimal number as a stylesheet writes it. It is read digit by digit in double
precision, and its value is what is left of that in single precision. `Magnitude.render` writes
a value with the fewest decimal digits that lead back to it.
-/

namespace UsedCss.Css

/-- A decimal number: the digits in front of the point and those behind it, and the power of
ten that it is multiplied by, if one is written. -/
structure Numeral where
  /-- Whether a sign is written. -/
  signed : Bool := false
  negative : Bool := false
  integral : List Nat
  fraction : List Nat := []
  power : Option Int := none
deriving DecidableEq, Repr

namespace Magnitude

/-- The power of ten of the first digit of a fraction that is not zero. -/
def leadingPower (n d : Nat) : Int :=
  let guess : Int := ((toString n).length : Int) - (toString d).length
  let reached : Bool :=
    if 0 ≤ guess then d * Nat.pow 10 guess.toNat ≤ n
    else d ≤ n * Nat.pow 10 (-guess).toNat
  if reached then guess else guess - 1

/-- The decimals next to a fraction whose last digit counts in the given power of ten, the
nearer one first, or the greater one if both are equally near. -/
def neighbours (n d : Nat) (power : Int) : List Nat :=
  let (n, d) := if 0 ≤ power then (n, d * Nat.pow 10 power.toNat)
    else (n * Nat.pow 10 (-power).toNat, d)
  let q := n / d
  if 2 * (n % d) < d then [q, q + 1] else [q + 1, q]

/-- The decimal of at most the given number of digits that leads back to a value of single
precision. -/
def decimalOf? (mantissa : Nat) (exponent : Int) (count : Nat) : Option (Nat × Int) :=
  let (n, d) := if 0 ≤ exponent then (mantissa <<< exponent.toNat, 1)
    else (mantissa, 1 <<< (-exponent).toNat)
  let power := leadingPower n d - (count - 1 : Nat)
  ((neighbours n d power).find? fun k =>
    ofDecimal .single k power = .finite mantissa exponent).map fun k => (k, power)

/-- The fewest digits that lead back to a value, and the power of ten that they count in. Nine
are always enough. -/
def shortest (mantissa : Nat) (exponent : Int) : Nat × Int :=
  ((List.range' 1 9).findSome? (decimalOf? mantissa exponent)).getD (mantissa, exponent)

/-- A decimal in positional notation, with at least one digit on either side of the point. -/
def positional (digits : List Char) (power : Int) : List Char :=
  if 0 ≤ power then digits ++ List.replicate power.toNat '0' ++ ['.', '0']
  else
    let places := (-power).toNat
    let padded := List.replicate (places + 1 - digits.length) '0' ++ digits
    padded.take (padded.length - places) ++ '.' :: padded.drop (padded.length - places)

/-- A decimal in scientific notation. -/
def scientific (digits : List Char) (power : Int) : List Char :=
  let fraction := digits.drop 1
  digits.take 1 ++ (if fraction.isEmpty then [] else '.' :: fraction) ++
    'e' :: (toString (power + fraction.length)).toList

/-- A value of single precision in words. From a ten-thousandth up to ten quadrillions notation
is positional. -/
def render : Magnitude → String
  | .undefined => "NaN"
  | .infinite => "inf"
  | .finite 0 _ => "0.0"
  | .finite m e =>
    let (k, power) := shortest m e
    let digits := ((toString k).toList.reverse.dropWhile (· == '0')).reverse
    let power := power + ((toString k).length - digits.length : Nat)
    let leading := power + digits.length - 1
    String.ofList
      (if -4 ≤ leading && leading < 16 then positional digits power else scientific digits power)

end Magnitude

namespace Numeral

/-- Whether a numeral is that of a whole number: neither a point nor a power is written. -/
def whole (n : Numeral) : Bool := n.fraction.isEmpty && n.power.isNone

/-- The digits in front of the point, each of which moves those before it one place up. -/
def ofIntegral (digits : List Nat) : Magnitude :=
  digits.foldl
    (fun v d => .add .double (.mul .double v (.finite 10 0)) (.finite d 0)) (.finite 0 0)

/-- The digits behind the point, each of which counts a tenth of what the one before it does. -/
def ofPlaces (digits : List Nat) : Magnitude :=
  let tenth := Magnitude.ofFraction .double 1 10
  (digits.foldl
    (fun (v, place) d =>
      (.add .double v (.mul .double (.finite d 0) place), .mul .double place tenth))
    (.finite 0 0, tenth)).1

/-- The absolute value in double precision. -/
def precise (n : Numeral) : Magnitude :=
  let v := Magnitude.add .double (ofIntegral n.integral) (ofPlaces n.fraction)
  n.power.elim v fun p => .mul .double v (.tenTo .double p)

/-- The absolute value. -/
def magnitude (n : Numeral) : Magnitude := n.precise.into .single

/-- A value with the sign of a numeral, in words. -/
def describe (n : Numeral) (v : Magnitude) : String :=
  (if n.negative && v ≠ .undefined then "-" else "") ++ v.render

/-- The value in words. -/
def value (n : Numeral) : String := n.describe n.magnitude

/-- The value of a percentage in words: a hundredth of its numeral. -/
def hundredth (n : Numeral) : String :=
  n.describe ((n.precise.part .double 100).into .single)

/-- The value of a whole number, cut to 32 bits. -/
def integer? (n : Numeral) : Option Int :=
  if n.whole then
    let digits := n.integral.dropWhile (· == 0)
    let v : Nat := if 10 < digits.length then 1 <<< 31 else digits.foldl (fun v d => v * 10 + d) 0
    some (if n.negative then max (-2147483648) (-(v : Int)) else min 2147483647 v)
  else none

end Numeral

end UsedCss.Css
