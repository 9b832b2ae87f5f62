/-!
# Binary numbers

The numbers that fit a binary format: a mantissa with a limited number of digits, which counts
in a power of two. An operation gives the number of its format that is nearest to the exact
result; of two equally near ones, the one with the even mantissa. Signs are kept elsewhere.
-/

namespace UsedCss.Css

/-- A binary format: how many digits a mantissa has, and which powers of two it can count in. -/
structure BinaryFormat where
  digits : Nat
  least : Int
  greatest : Int
deriving DecidableEq, Repr

/-- Single precision. -/
def BinaryFormat.single : BinaryFormat := ⟨24, -149, 104⟩

/-- Double precision. -/
def BinaryFormat.double : BinaryFormat := ⟨53, -1074, 971⟩

/-- A number without its sign. What is infinite times zero is no number. -/
inductive Magnitude
  | finite (mantissa : Nat) (exponent : Int)
  | infinite
  | undefined
deriving DecidableEq, Repr

namespace Magnitude

/-- The quotient to the nearest whole number; a half goes to the even neighbour. -/
def roundedQuotient (n d : Nat) : Nat :=
  let q := n / d
  let r := n % d
  if 2 * r < d || (2 * r = d && q % 2 = 0) then q else q + 1

/-- The fraction `n / d` in the power `2 ^ e`, as a fraction again. -/
def scaled (n d : Nat) (e : Int) : Nat × Nat :=
  if 0 ≤ e then (n, d <<< e.toNat) else (n <<< (-e).toNat, d)

/-- The number of a format nearest to a fraction. The mantissa has all its digits, unless the
number is smaller than every such one. -/
def ofFraction (f : BinaryFormat) (n d : Nat) : Magnitude :=
  if n = 0 then .finite 0 0
  else
    let limit := 1 <<< (f.digits - 1)
    let size : Int := n.log2 - d.log2
    let guess := max f.least (size - (f.digits - 1 : Nat))
    let (p, q) := scaled n d guess
    let e := if p / q < limit then max f.least (guess - 1) else guess
    let (p, q) := scaled n d e
    let m := roundedQuotient p q
    let (m, e) := if m = 2 * limit then (limit, e + 1) else (m, e)
    if f.greatest < e then .infinite else .finite m e

/-- The number of a format nearest to `m * 2 ^ e / d`. -/
def ofBinary (f : BinaryFormat) (m : Nat) (e : Int) (d : Nat) : Magnitude :=
  if 0 ≤ e then ofFraction f (m <<< e.toNat) d else ofFraction f m (d <<< (-e).toNat)

/-- The number of a format nearest to a number of another one. -/
def into (f : BinaryFormat) : Magnitude → Magnitude
  | finite m e => ofBinary f m e 1
  | infinite => infinite
  | undefined => undefined

/-- A sum. -/
def add (f : BinaryFormat) : Magnitude → Magnitude → Magnitude
  | finite m e, finite n k =>
    let low := min e k
    ofBinary f (m <<< (e - low).toNat + n <<< (k - low).toNat) low 1
  | undefined, _ | _, undefined => undefined
  | _, _ => infinite

/-- A product. -/
def mul (f : BinaryFormat) : Magnitude → Magnitude → Magnitude
  | finite m e, finite n k => ofBinary f (m * n) (e + k) 1
  | infinite, finite 0 _ | finite 0 _, infinite | undefined, _ | _, undefined => undefined
  | _, _ => infinite

/-- A part of a number: the number divided by a whole one. -/
def part (f : BinaryFormat) (d : Nat) : Magnitude → Magnitude
  | finite m e => ofBinary f m e d
  | infinite => infinite
  | undefined => undefined

/-- A power of ten. Far outside every format it is settled without computing it. -/
def tenTo (f : BinaryFormat) (power : Int) : Magnitude :=
  if 400 < power then .infinite
  else if power < -400 then .finite 0 0
  else if 0 ≤ power then ofFraction f (Nat.pow 10 power.toNat) 1
  else ofFraction f 1 (Nat.pow 10 (-power).toNat)

/-- The decimal `digits * 10 ^ power`. -/
def ofDecimal (f : BinaryFormat) (digits : Nat) (power : Int) : Magnitude :=
  if 0 ≤ power then ofFraction f (digits * Nat.pow 10 power.toNat) 1
  else ofFraction f digits (Nat.pow 10 (-power).toNat)

end Magnitude

end UsedCss.Css
