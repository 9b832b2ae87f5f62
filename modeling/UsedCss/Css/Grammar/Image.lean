import UsedCss.Css.Grammar.Color
/-!
# Images

An image is an address, a gradient, or a set of images for screens of different resolutions.
-/

namespace UsedCss.Css

/-- The shapes of gradients. -/
inductive GradientShape
  | linear
  | radial
  | conic
  /-- The notation with two points, which came before the others. -/
  | points
deriving DecidableEq, Repr

/-- The functions that make gradients, each with its shape and whether its name is marked as that
of one family of browsers. -/
def gradientFunctions : List (String × GradientShape × Bool) :=
  [("conic-gradient", .conic, false), ("repeating-conic-gradient", .conic, false),
    ("-webkit-gradient", .points, true)] ++
  [("", false), ("-webkit-", true), ("-moz-", true), ("-o-", true)].flatMap fun (mark, marked) =>
    [(mark ++ "linear-gradient", .linear, marked),
      (mark ++ "repeating-linear-gradient", .linear, marked),
      (mark ++ "radial-gradient", .radial, marked),
      (mark ++ "repeating-radial-gradient", .radial, marked)]

namespace Parse

/-- The left or the right side. -/
def horizontalSide : Parse Unit := do let _ ← identAmong ["left", "right"]

/-- The upper or the lower side. -/
def verticalSide : Parse Unit := do let _ ← identAmong ["top", "bottom"]

/-- The word for the middle. -/
def center : Parse Unit := keyword "center"

/-- Reads something if it is there. -/
def optional (read : Parse Unit) : Parse Unit := do let _ ← succeeds read

/-- A position along one axis. -/
inductive Along
  | center
  | amount
  | side
deriving DecidableEq, Repr

/-- A position along the axis that a reader knows the sides of. -/
def along (side : Parse Unit) : Parse Along :=
  firstOf [center *> return .center, lengthPercentage *> return .amount] do
    side
    optional lengthPercentage
    return .side

/-- A position that starts with a vertical side. -/
def verticalFirst : Parse Unit := do
  verticalSide
  optional do
    optional lengthPercentage
    if ← succeeds horizontalSide then optional lengthPercentage else center

/-- A position in two dimensions. -/
def place : Parse Unit := do
  match ← attempt (along horizontalSide) with
  | some .center =>
    if !(← succeeds (along verticalSide)) then
      let _ ← succeeds (along horizontalSide)
  | some .amount => optional (firstOf [verticalSide, lengthPercentage] center)
  | some .side =>
    if !(← succeeds center) then
      if ← succeeds verticalSide then optional lengthPercentage
  | none => verticalFirst

/-- The colours of a gradient with places between them, which a reader knows. A place of its own
may stand between two colours. -/
def colorStops (read : Parse Unit) : Parse Unit := do
  let _ ← repeated (fun seen => do
    let seen ← upTo (· = .comma) do
      if seen && (← succeeds read) then return false
      else
        color
        optional read
        optional read
        return true
    return (seen, (← next?).isSome)) false

/-- Where a linear gradient goes. -/
def direction (marked : Bool) : Parse Unit :=
  firstOf [angleOrZero] do
    if !marked then keyword "to"
    if ← succeeds horizontalSide then optional verticalSide
    else
      verticalSide
      optional horizontalSide

/-- How far a radial gradient goes. -/
def extent : Parse Unit := do
  let _ ← identAmong ["closest-side", "farthest-side", "closest-corner", "farthest-corner"]

/-- An ellipse. Its name may be left out, if there is something else. -/
def ellipse : Parse Unit := do
  if ← succeeds extent then
    if ← succeeds (keyword "circle") then fail .value
    optional (keyword "ellipse")
  else if ← succeeds lengthPercentage then
    lengthPercentage
    optional (keyword "ellipse")
  else
    keyword "ellipse"
    if !(← succeeds extent) then
      if ← succeeds lengthPercentage then lengthPercentage

/-- A circle. Its name may be left out, if there is a radius. -/
def circle : Parse Unit := do
  if ← succeeds extent then keyword "circle"
  else if ← succeeds length then optional (keyword "circle")
  else
    keyword "circle"
    optional (firstOf [extent] length)

/-- What may come in front of the colours of a gradient, with a comma after it. -/
def gradientStart (parts : List (Parse Unit)) : Parse Unit := do
  let mut found := false
  for part in parts do
    if ← succeeds part then found := true
  if found then comma

/-- A point of a gradient between two points. -/
def gradientPoint : Parse Unit := do
  firstOf [center, numberOrPercentage] horizontalSide
  firstOf [center, numberOrPercentage] verticalSide

/-- A colour of a gradient between two points. -/
def pointStop : Parse Unit := do
  let p ← position
  let (name, c) ← anyFunction
  match name.toLower with
  | "color-stop" => within c (numberOrPercentage *> comma *> color)
  | "from" | "to" => within c color
  | _ => failAt p (.unexpectedToken (.ident name))

/-- A gradient between two points, or two circles around them. -/
def pointGradient : Parse Unit := do
  let shape ← identAmong ["linear", "radial"]
  comma
  gradientPoint
  comma
  if sameName shape "radial" then number *> comma
  gradientPoint
  comma
  if sameName shape "radial" then number *> comma
  let _ ← commaSeparated pointStop

/-- A gradient. -/
def gradient : Parse Unit := do
  let p ← position
  let (name, c) ← anyFunction
  let atPlace := keyword "at" *> place
  match gradientFunctions.lookup name.toLower with
  | some (.linear, marked) => within c do
    gradientStart [direction marked]
    colorStops lengthPercentage
  | some (.radial, _) => within c do
    gradientStart [firstOf [ellipse] circle, atPlace]
    colorStops lengthPercentage
  | some (.conic, _) => within c do
    gradientStart [keyword "from" *> angleOrZero, atPlace]
    colorStops anglePercentage
  | some (.points, _) => within c pointGradient
  | none => failAt p (.unexpectedToken (.ident name))

/-- The format of an image. -/
def imageType : Parse Unit := do
  let _ ← within (← function "type") string

/-- One image of a set, with its resolution and its format in any order. -/
def imageOption (image : Parse Unit) : Parse Unit := do
  firstOf [address true] image
  if ← succeeds resolution then optional imageType
  else
    optional imageType
    optional resolution

/-- A set of images. -/
def imageSet (image : Parse Unit) : Parse Unit := do
  let p ← position
  let (name, c) ← anyFunction
  if hasName ["image-set", "-webkit-image-set"] name then
    let _ ← within c (commaSeparated (imageOption image))
  else failAt p (.unexpectedToken (.ident name))

/-- An image whose brackets nest no deeper than a number of levels. -/
def imageWithin : Nat → Parse Unit
  | 0 => fail .nestingTooDeep
  | n + 1 => firstOf [keyword "none", address false, gradient] (imageSet (imageWithin n))

/-- An image. -/
def image : Parse Unit := do imageWithin ((← levels) + 1)

end Parse

end UsedCss.Css
