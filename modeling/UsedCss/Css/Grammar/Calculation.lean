import UsedCss.Css.Grammar.Cursor
/-!
# Calculations

`calc` and the other functions that calculate, with quantities of one kind. What is known when
a stylesheet is read is worked out in single precision: a quotient needs a divisor that is a
number and not zero, and of two factors one has to be a number. A calculation that depends on
what is known only later, such as the size of a font, comes to a sum, a product or a function.
-/

namespace UsedCss.Css

/-- The kinds of quantities that calculations are about. -/
inductive QuantityKind
  | number
  | length
  | percentage
  | lengthPercentage
  | angle
  | anglePercentage
  | time
deriving DecidableEq, Repr

/-- An amount in a unit; the unit of a percentage is `%`. -/
structure Quantity where
  amount : Float32
  unit : String
deriving Repr

namespace Quantity

/-- The units that can be turned into others, each with the unit for its family and how many of
those it makes. -/
def families : List (String × String × Float32) :=
  [("px", "px", 1), ("in", "px", 96), ("cm", "px", 96 / 2.54), ("mm", "px", 96 / 25.4),
    ("q", "px", 96 / 101.6), ("pt", "px", 96 / 72), ("pc", "px", 96 / 6), ("deg", "deg", 1),
    ("grad", "deg", 0.9), ("turn", "deg", 360), ("rad", "deg", 57.29577951308232),
    ("s", "ms", 1000), ("ms", "ms", 1)]

/-- A quantity in the unit for its family. -/
def common (q : Quantity) : Quantity :=
  match families.lookup q.unit with
  | some (unit, size) => ⟨q.amount * size, unit⟩
  | none => q

/-- An operation on the amounts of two quantities, if they have a unit in common. -/
def combine? (f : Float32 → Float32 → Float32) (a b : Quantity) : Option Quantity :=
  if a.unit = b.unit then some ⟨f a.amount b.amount, a.unit⟩
  else if a.common.unit = b.common.unit then
    some ⟨f a.common.amount b.common.amount, a.common.unit⟩
  else none

/-- How two quantities compare, if they have a unit in common and are numbers. -/
def compare? (a b : Quantity) : Option Ordering :=
  let (a, b) := if a.unit = b.unit then (a, b) else (a.common, b.common)
  if a.unit ≠ b.unit then none
  else if a.amount < b.amount then some .lt
  else if a.amount == b.amount then some .eq
  else if b.amount < a.amount then some .gt
  else none

/-- The size of an angle in radians. -/
def radians (q : Quantity) : Float32 := q.common.amount / 57.29577951308232

end Quantity

/-- The number that a numeral in single precision stands for. -/
def Numeral.real (n : Numeral) : Float32 :=
  let v :=
    match n.magnitude with
    | .undefined => 0 / 0
    | .infinite => 1 / 0
    | .finite m e =>
      if m < 1 <<< 23 then Float32.ofBits m.toUInt32
      else Float32.ofBits ((e + 150).toNat <<< 23 + (m - 1 <<< 23)).toUInt32
  if n.negative then -v else v

/-- What a calculation comes to. -/
inductive Calculated
  | number (value : Float32)
  | quantity (value : Quantity)
  /-- A sum that cannot be worked out. -/
  | sum
  /-- A function that cannot be worked out, taken some times. -/
  | multiple (times : Float32)
  /-- A function that cannot be worked out. -/
  | function
deriving Repr

namespace Calculated

/-- A calculation taken some times. -/
def scale (c : Calculated) (x : Float32) : Calculated :=
  if x == 1 then c
  else
    match c with
    | number y => number (y * x)
    | quantity q => quantity { q with amount := q.amount * x }
    | sum => sum
    | multiple y => if y * x == 1 then function else multiple (y * x)
    | function => multiple x

/-- Whether a quantity of a kind can itself be a sum that is not worked out. -/
def absorbsSums : QuantityKind → Bool
  | .length | .lengthPercentage | .anglePercentage => true
  | _ => false

/-- A sum. There is none of a quantity and a sum that is not worked out, unless quantities of
this kind can be such sums. -/
def add? (kind : QuantityKind) : Calculated → Calculated → Option Calculated
  | number x, number y => some (number (x + y))
  | quantity p, quantity q => some (((p.combine? (· + ·) q).map quantity).getD sum)
  | quantity _, sum | sum, quantity _ | sum, sum => if absorbsSums kind then some sum else none
  | _, _ => some sum

/-- An operation on two calculations of the same sort, if both are worked out. -/
def combine? (f : Float32 → Float32 → Float32) : Calculated → Calculated → Option Calculated
  | number x, number y => some (number (f x y))
  | quantity p, quantity q => (p.combine? f q).map quantity
  | _, _ => none

/-- An operation on a calculation that is worked out and is no percentage. -/
def map? (f : Float32 → Float32) : Calculated → Option Calculated
  | number x => some (number (f x))
  | quantity q => if q.unit = "%" then none else some (quantity { q with amount := f q.amount })
  | _ => none

/-- How two quantities compare. -/
def compare? : Calculated → Calculated → Option Ordering
  | quantity p, quantity q => p.compare? q
  | _, _ => none

/-- The least of some calculations, or the greatest, as `better` says: of quantities that compare
only one is kept. If more than one is left the result is not worked out. -/
def best (better : Ordering) (cs : List Calculated) : Calculated :=
  let keep (kept : List Calculated) (c : Calculated) : List Calculated :=
    match kept.findIdx? fun k => (c.compare? k).isSome with
    | none => kept ++ [c]
    | some i =>
      if (kept[i]?.bind fun k => c.compare? k) = some better then kept.set i c else kept
  match cs.foldl keep [] with
  | [c] => c
  | _ => function

/-- A calculation between two bounds. -/
def clamp (low mid high : Calculated) : Calculated :=
  match mid.compare? high with
  | none => function
  | some o =>
    let mid := if o = .gt then high else mid
    match mid.compare? low with
    | none => function
    | some o => if o = .lt then low else mid

/-- The whole number between a number and zero that is next to it. -/
def truncate (x : Float32) : Float32 := if x < 0 then x.ceil else x.floor

/-- What is left of a division, with the sign of the dividend. -/
def remainder (x y : Float32) : Float32 := x - y * truncate (x / y)

/-- The sign of a number as a number. -/
def signOf (x : Float32) : Float32 := if x < 0 then -1 else if 0 < x then 1 else x

/-- The square root of the sum of squares. -/
def hypotenuse (cs : List Calculated) : Option Calculated :=
  match cs with
  | [c] => some c
  | [a, b] => a.combine? (fun x y => (x * x + y * y).sqrt) b
  | a :: cs => do
    let first ← a.map? fun x => x * x
    let total ← cs.foldlM (fun s c => s.combine? (fun x y => x + y * y) c) first
    total.map? Float32.sqrt
  | [] => none

end Calculated

/-- The ways to round. -/
def roundings : List (String × (Float32 → Float32)) :=
  [("nearest", Float32.round), ("up", Float32.ceil), ("down", Float32.floor),
    ("to-zero", Calculated.truncate)]

/-- The functions of an angle. -/
def angleFunctions : List (String × (Float32 → Float32)) :=
  [("sin", Float32.sin), ("cos", Float32.cos), ("tan", Float32.tan)]

/-- The functions that give an angle. -/
def arcFunctions : List (String × (Float32 → Float32)) :=
  [("asin", Float32.asin), ("acos", Float32.acos), ("atan", Float32.atan)]

/-- The names that calculations know as numbers. -/
def mathConstants : List (String × Float32) :=
  [("e", 2.718281828459045), ("pi", 3.141592653589793), ("infinity", 1 / 0),
    ("-infinity", -(1 / 0)), ("nan", 0 / 0)]

/-- The units of lengths. -/
def lengthUnits : List String :=
  ["px", "in", "cm", "mm", "q", "pt", "pc", "em", "rem", "ex", "rex", "ch", "rch", "cap", "rcap",
    "ic", "ric", "lh", "rlh", "vw", "lvw", "svw", "dvw", "cqw", "vh", "lvh", "svh", "dvh", "cqh",
    "vi", "lvi", "svi", "dvi", "cqi", "vb", "lvb", "svb", "dvb", "cqb", "vmin", "lvmin", "svmin",
    "dvmin", "cqmin", "vmax", "lvmax", "svmax", "dvmax", "cqmax"]

/-- The units that a quantity of a kind can have. -/
def QuantityKind.units : QuantityKind → List String
  | .number => []
  | .length => lengthUnits
  | .percentage => ["%"]
  | .lengthPercentage => "%" :: lengthUnits
  | .angle => ["deg", "grad", "turn", "rad"]
  | .anglePercentage => ["%", "deg", "grad", "turn", "rad"]
  | .time => ["s", "ms"]

namespace Parse

/-- A quantity of a kind, written as it is. -/
def quantity (kind : QuantityKind) : Parse Quantity := expect fun c =>
  let (amount, unit) :=
    match c.token with
    | .percentage n => (n.real, "%")
    | .dimension n unit => (n.real, unit.toLower)
    | _ => (0, "")
  if kind.units.contains unit then some ⟨amount, unit⟩ else none

/-- A reader for a sum of quantities of a kind. The names are those that stand for numbers. -/
abbrev SumReader := QuantityKind → List String → Parse Calculated

/-- A sum that has to come to a number. -/
def plainNumber (sums : SumReader) (names : List String) : Parse Float32 := do
  match ← sums .number names with
  | .number x => return x
  | _ => fail .value

/-- The content of a function of a number. -/
def ofNumber (sums : SumReader) (names : List String) (c : Component)
    (f : Float32 → Float32) : Parse Calculated :=
  within c do return .number (f (← plainNumber sums names))

/-- Two sums with a comma between them. -/
def twoSums (sum : Parse Calculated) : Parse (Calculated × Calculated) := do
  let a ← sum
  comma
  return (a, ← sum)

/-- The angle of a point, whose coordinates are quantities of some kind. -/
def arcOfPoint (sums : SumReader) (names : List String) : Parse Float32 :=
  let of (kind : QuantityKind) (names : List String) : Parse Float32 := do
    let (a, b) ← twoSums (sums kind names)
    match a, b with
    | .number x, .number y => return x.atan2 y
    | .quantity p, .quantity q =>
      match p.combine? Float32.atan2 q with
      | some v => return v.amount
      | none => fail .value
    | _, _ => fail .value
  firstOf [of .length [], of .percentage [], of .angle [], of .time []] (of .number names)

/-- An angle that a function gives, where quantities of a kind can be angles. -/
def arc (kind : QuantityKind) (x : Float32) : Parse Calculated :=
  if kind = .angle || kind = .anglePercentage then return .quantity ⟨x, "rad"⟩ else fail .value

/-- The content of a function of an angle, or of one that gives an angle. -/
def trigonometric (sums : SumReader) (kind : QuantityKind) (names : List String)
    (name : String) : Parse Calculated := do
  let v ← sums .angle names
  match angleFunctions.lookup name, arcFunctions.lookup name, v with
  | some f, _, .quantity q => return .number (f q.radians)
  | some f, _, .number x => return .number (f x)
  | none, some f, .number x =>
    if (f x).isNaN then return .number (f x) else arc kind (f x)
  | _, _, _ => fail .value

/-- A function that calculates a quantity of a kind. -/
def mathFunction (sums : SumReader) (kind : QuantityKind) (names : List String) :
    Parse Calculated := do
  let p ← position
  let (name, c) ← anyFunction
  let sum := sums kind names
  let orLeft (v : Option Calculated) : Calculated := v.getD .function
  match name.toLower with
  | "calc" => within c sum
  | "min" => return .best .lt (← within c (commaSeparated sum))
  | "max" => return .best .gt (← within c (commaSeparated sum))
  | "clamp" => within c do
    let (low, mid) ← twoSums sum
    comma
    return .clamp low mid (← sum)
  | "round" => within c do
    let word ← attempt (identAmong (roundings.map Prod.fst))
    if word.isSome then comma
    let way := (word.bind fun w => roundings.lookup w.toLower).getD Float32.round
    let (a, b) ← twoSums sum
    return orLeft (a.combine? (fun x y => way (x / y) * y) b)
  | "rem" => within c do
    let (a, b) ← twoSums sum
    return orLeft (a.combine? Calculated.remainder b)
  | "mod" => within c do
    let (a, b) ← twoSums sum
    let floored (x y : Float32) :=
      Calculated.remainder (Calculated.remainder x y + y) y
    return orLeft (a.combine? floored b)
  | "sin" | "cos" | "tan" | "asin" | "acos" | "atan" =>
    within c (trigonometric sums kind names name.toLower)
  | "atan2" => within c do arc kind (← arcOfPoint sums names)
  | "pow" => within c do
    let x ← plainNumber sums names
    comma
    return .number (x.pow (← plainNumber sums names))
  | "log" => within c do
    let x ← plainNumber sums names
    if ← succeeds comma then return .number (x.log / (← plainNumber sums names).log)
    else return .number x.log
  | "sqrt" => ofNumber sums names c Float32.sqrt
  | "exp" => ofNumber sums names c Float32.exp
  | "hypot" => return orLeft (Calculated.hypotenuse (← within c (commaSeparated sum)))
  | "abs" => return orLeft ((← within c sum).map? Float32.abs)
  | "sign" =>
    match (← within c sum).map? Calculated.signOf with
    | some (.number x) => return .number x
    | some (.quantity q) => return .number q.amount
    | _ => return .function
  | _ => failAt p (.unexpectedToken c.token)

/-- A number, written as it is. -/
def numeral : Parse Float32 := expect fun c =>
  match c.token with
  | .number n => some n.real
  | _ => none

/-- A name that stands for a number: a constant, or one of the given names. -/
def namedNumber (names : List String) : Parse Float32 := expect fun c =>
  match c.token with
  | .ident s =>
    (mathConstants.lookup s.toLower).or (if names.any (sameName s) then some 1 else none)
  | _ => none

/-- One operand. -/
def operand (sums : SumReader) (kind : QuantityKind) (names : List String) : Parse Calculated :=
  let brackets := do within (← expectToken .openParen) (sums kind names)
  firstOf [mathFunction sums kind names, brackets, .number <$> numeral,
    .number <$> namedNumber names] (.quantity <$> quantity kind)

/-- Factors and divisors. -/
def productOf (operand : Parse Calculated) : Parse Calculated := do
  repeated (fun product => do
    let here ← get
    match (← next?).map Component.token with
    | some (.delim '*') =>
      match product, ← operand with
      | c, .number x | .number x, c => return (c.scale x, true)
      | _, _ => unexpected (.delim '*')
    | some (.delim '/') =>
      match ← operand with
      | .number x => if x == 0 then fail .value else return (product.scale (1 / x), true)
      | _ => fail .value
    | _ => set here *> return (product, false)) (← operand)

/-- Terms that are added and subtracted. A blank has to stand in front of the sign. -/
def sumOf (kind : QuantityKind) (product : Parse Calculated) : Parse Calculated := do
  let orFail (c : Option Calculated) : Parse (Calculated × Bool) :=
    match c with
    | some c => return (c, true)
    | none => fail .value
  repeated (fun total => do
    let here ← get
    match (← nextAny?).map Component.token with
    | some (.blank _) =>
      if ← isExhausted then return (total, false)
      match (← next).token with
      | .delim '+' => orFail (total.add? kind (← product))
      | .delim '-' => orFail (total.add? kind ((← product).scale (-1)))
      | t => unexpected t
    | _ => set here *> return (total, false)) (← product)

/-- A sum whose brackets nest no deeper than a number of levels. -/
def sumWithin : Nat → SumReader
  | 0, _, _ => fail .nestingTooDeep
  | n + 1, kind, names => sumOf kind (productOf (operand (sumWithin n) kind names))

/-- A calculation of a quantity of a kind. The names are those that stand for numbers. -/
def calculation (kind : QuantityKind) (names : List String) : Parse Calculated := do
  let depth := ((← ahead next?).map Component.depth).getD 0
  mathFunction (sumWithin depth) kind names

end Parse

end UsedCss.Css
