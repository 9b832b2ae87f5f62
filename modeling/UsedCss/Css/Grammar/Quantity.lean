import UsedCss.Css.Grammar.Calculation
import UsedCss.Css.Grammar.Value
/-!
# Quantities

Numbers, lengths, angles and the like, each written as it is or as a calculation. A number may
stand for a length.
-/

namespace UsedCss.Css.Parse

/-- A calculation of a quantity of a kind, or what a reader gives where there is none that can
be read. The calculation has to come to something that `fits`. -/
def calculatedOr (kind : QuantityKind) (fits : Calculated → Bool) (plain : Parse Unit) :
    Parse Unit := do
  match ← attempt (calculation kind []) with
  | some v => if fits v then return () else fail .value
  | none => plain

/-- Whether a calculation comes to a number. -/
def isNumber : Calculated → Bool
  | .number _ => true
  | _ => false

/-- Whether a calculation comes to a quantity. -/
def isQuantity : Calculated → Bool
  | .quantity _ => true
  | _ => false

/-- A quantity of a kind, written as it is. -/
def plainQuantity (kind : QuantityKind) : Parse Unit := do let _ ← quantity kind

/-- A number, written as it is. -/
def plainNumeral : Parse Unit := do let _ ← numeral

/-- A number. -/
def number : Parse Unit := calculatedOr .number isNumber plainNumeral

/-- A percentage. -/
def percentage : Parse Unit := calculatedOr .percentage isQuantity (plainQuantity .percentage)

/-- A length. -/
def length : Parse Unit :=
  calculatedOr .length (fun _ => true) (firstOf [plainQuantity .length] plainNumeral)

/-- A length or a percentage. -/
def lengthPercentage : Parse Unit :=
  calculatedOr .lengthPercentage (fun _ => true)
    (firstOf [plainQuantity .lengthPercentage] plainNumeral)

/-- An angle. -/
def angle : Parse Unit := calculatedOr .angle isQuantity (plainQuantity .angle)

/-- An angle, or zero without a unit. -/
def angleOrZero : Parse Unit :=
  calculatedOr .angle isQuantity (firstOf [plainQuantity .angle] do
    if (← numeral) == 0 then return () else fail .value)

/-- An angle or a percentage. -/
def anglePercentage : Parse Unit :=
  calculatedOr .anglePercentage (fun _ => true) (plainQuantity .anglePercentage)

/-- A time. -/
def time : Parse Unit := calculatedOr .time isQuantity (plainQuantity .time)

/-- A number or a percentage. -/
def numberOrPercentage : Parse Unit := firstOf [number] percentage

/-- The units of resolutions. -/
def resolutionUnits : List String := ["dpi", "dpcm", "dppx", "x"]

/-- A resolution. -/
def resolution : Parse Unit := expect fun c =>
  match c.token with
  | .dimension _ unit => if resolutionUnits.any (sameName unit) then some () else none
  | _ => none

/-- A number over a number. -/
def fullRatio : Parse Unit := do
  number
  let _ ← expectToken (.delim '/')
  number

/-- A ratio, or a number for its ratio to one. -/
def ratio : Parse Unit := do
  number
  if ← succeeds (expectToken (.delim '/')) then number

end UsedCss.Css.Parse
