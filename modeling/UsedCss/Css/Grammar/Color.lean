import UsedCss.Css.Grammar.Quantity
import UsedCss.Css.Grammar.Selector
/-!
# Colours

A colour is a name, a number sign with hexadecimal digits, or one of the functions that mix
colours or take their components. The components can be those of another colour, if that one
is known when the stylesheet is read.
-/

namespace UsedCss.Css

/-! ## Names

The words that stand for colours: those of fixed ones, and those of what a system shows its controls
in. -/

/-- The names of colours. -/
def colorNames : List String :=
  ["aliceblue", "antiquewhite", "aqua", "aquamarine", "azure", "beige", "bisque", "black",
    "blanchedalmond", "blue", "blueviolet", "brown", "burlywood", "cadetblue", "chartreuse",
    "chocolate", "coral", "cornflowerblue", "cornsilk", "crimson", "cyan", "darkblue",
    "darkcyan", "darkgoldenrod", "darkgray", "darkgreen", "darkgrey", "darkkhaki", "darkmagenta",
    "darkolivegreen", "darkorange", "darkorchid", "darkred", "darksalmon", "darkseagreen",
    "darkslateblue", "darkslategray", "darkslategrey", "darkturquoise", "darkviolet", "deeppink",
    "deepskyblue", "dimgray", "dimgrey", "dodgerblue", "firebrick", "floralwhite", "forestgreen",
    "fuchsia", "gainsboro", "ghostwhite", "gold", "goldenrod", "gray", "green", "greenyellow",
    "grey", "honeydew", "hotpink", "indianred", "indigo", "ivory", "khaki", "lavender",
    "lavenderblush", "lawngreen", "lemonchiffon", "lightblue", "lightcoral", "lightcyan",
    "lightgoldenrodyellow", "lightgray", "lightgreen", "lightgrey", "lightpink", "lightsalmon",
    "lightseagreen", "lightskyblue", "lightslategray", "lightslategrey", "lightsteelblue",
    "lightyellow", "lime", "limegreen", "linen", "magenta", "maroon", "mediumaquamarine",
    "mediumblue", "mediumorchid", "mediumpurple", "mediumseagreen", "mediumslateblue",
    "mediumspringgreen", "mediumturquoise", "mediumvioletred", "midnightblue", "mintcream",
    "mistyrose", "moccasin", "navajowhite", "navy", "oldlace", "olive", "olivedrab", "orange",
    "orangered", "orchid", "palegoldenrod", "palegreen", "paleturquoise", "palevioletred",
    "papayawhip", "peachpuff", "peru", "pink", "plum", "powderblue", "purple", "rebeccapurple",
    "red", "rosybrown", "royalblue", "saddlebrown", "salmon", "sandybrown", "seagreen",
    "seashell", "sienna", "silver", "skyblue", "slateblue", "slategray", "slategrey", "snow",
    "springgreen", "steelblue", "tan", "teal", "thistle", "tomato", "turquoise", "violet",
    "wheat", "white", "whitesmoke", "yellow", "yellowgreen"]

/-- The names of the colours of a system. -/
def systemColors : List String :=
  ["accentcolor", "accentcolortext", "activetext", "buttonborder", "buttonface", "buttontext",
    "canvas", "canvastext", "field", "fieldtext", "graytext", "highlight", "highlighttext",
    "linktext", "mark", "marktext", "selecteditem", "selecteditemtext", "visitedtext",
    "activeborder", "activecaption", "appworkspace", "background", "buttonhighlight",
    "buttonshadow", "captiontext", "inactiveborder", "inactivecaption", "inactivecaptiontext",
    "infobackground", "infotext", "menu", "menutext", "scrollbar", "threeddarkshadow",
    "threedface", "threedhighlight", "threedlightshadow", "threedshadow", "window",
    "windowframe", "windowtext"]

/-! ## Components -/

/-- The kinds of values that a component of a colour can have. -/
inductive ComponentKind
  | number
  | percentage
  | numberOrPercentage
  | angleOrNumber
deriving DecidableEq, Repr

/-- The components of a colour that others are made from: their names, each with the kinds of
values it has. -/
abbrev Channels := List (String × List QuantityKind)

/-- The channels of colours that are described by a hue: its name, and the names of the others. -/
def hueChannels (hue : String) (others : List String) (kinds : List QuantityKind) : Channels :=
  ("alpha", [.number, .percentage]) :: (hue, [.angle, .number]) :: others.map fun o => (o, kinds)

/-- The channels of colours that are described by amounts. -/
def plainChannels (names : List String) : Channels :=
  ("alpha", [.number, .percentage]) :: names.map fun n => (n, [.number, .percentage])

/-- The colour spaces that a colour can be given in by name, each with its channels. -/
def namedSpaces : List (String × Channels) :=
  (["srgb", "srgb-linear", "display-p3", "a98-rgb", "prophoto-rgb", "rec2020"].map
    fun n => (n, plainChannels ["r", "g", "b"])) ++
    ["xyz", "xyz-d50", "xyz-d65"].map fun n => (n, plainChannels ["x", "y", "z"])

/-- The colour spaces to mix in, each with whether it has a hue. -/
def mixingSpaces : List (String × Bool) :=
  [("srgb", false), ("srgb-linear", false), ("lab", false), ("oklab", false), ("xyz", false),
    ("xyz-d50", false), ("xyz-d65", false), ("hsl", true), ("hwb", true), ("lch", true),
    ("oklch", true)]

/-- The ways around the circle of hues. -/
def hueMethods : List String := ["shorter", "longer", "increasing", "decreasing", "specified"]

/-- The kinds of quantities that fit a component. -/
def ComponentKind.quantities : ComponentKind → List QuantityKind
  | .number => [.number]
  | .percentage => [.percentage]
  | .numberOrPercentage => [.number, .percentage]
  | .angleOrNumber => [.angle, .number]

namespace Parse

/-- A component by the name of a channel, or as a calculation with such names. -/
def fromChannel (from? : Channels) (kind : ComponentKind) : Parse Unit := do
  let names := (from?.filter fun c => c.2.any kind.quantities.contains).map Prod.fst
  firstOf [do let _ ← identAmong names] do
    match ← calculation (kind.quantities.headD .number) names with
    | .number _ | .quantity _ => return ()
    | _ => fail .value

/-- A component of a colour; tells whether it is left out. -/
def colorComponent (origin : Option Channels) (kind : ComponentKind) : Parse Bool :=
  let given : Parse Bool :=
    match origin with
    | some channels => fromChannel channels kind *> return false
    | none => fail .value
  let plain (kind : QuantityKind) : Parse Bool := do
    match kind with
    | .angle => angle
    | .percentage => percentage
    | _ => number
    return false
  firstOf (given :: kind.quantities.map plain) (keyword "none" *> return true)

/-- The opacity of a colour, if it is given. -/
def opacity (origin : Option Channels) : Parse Unit := do
  if ← succeeds (expectToken (.delim '/')) then
    let _ ← colorComponent origin .numberOrPercentage

/-- The opacity of a colour whose components have commas between them, if it is given. -/
def opacityAfterComma : Parse Unit := do
  if !(← isExhausted) then
    comma
    let _ ← colorComponent none .numberOrPercentage

/-- Components one after the other, and the opacity. -/
def components (origin : Option Channels) (kinds : List ComponentKind) : Parse Unit := do
  for kind in kinds do let _ ← colorComponent origin kind
  opacity origin

/-- Three components with commas between them, the first of which has been read. None of them
can be left out. -/
def commaComponents (kinds : List ComponentKind) : Parse Unit := do
  let a ← colorComponent none (kinds.getD 0 .number)
  comma
  let b ← colorComponent none (kinds.getD 1 .number)
  if a || b then fail .value
  opacityAfterComma

/-- Red, green and blue. -/
def rgbComponents (origin : Option Channels) : Parse Unit := do
  let here ← get
  let left ← colorComponent origin .numberOrPercentage
  if origin.isNone && !left && (← succeeds comma) then
    let after ← get
    set here
    let kind : ComponentKind := if ← succeeds number then .number else .percentage
    set after
    commaComponents [kind, kind]
  else components origin [.numberOrPercentage, .numberOrPercentage]

/-- A hue and two percentages. They may have commas between them if `commas` says so. -/
def hueComponents (commas : Bool) (origin : Option Channels) : Parse Unit := do
  let left ← colorComponent origin .angleOrNumber
  if commas && origin.isNone && !left && (← succeeds comma) then
    commaComponents [.percentage, .percentage]
  else components origin [.percentage, .percentage]

/-- The content of a function that mixes two colours. -/
def colorMix (color : Parse Bool) : Parse Bool := do
  keyword "in"
  let space ← identAmong (mixingSpaces.map Prod.fst)
  if mixingSpaces.lookup space.toLower = some true then
    if ← succeeds (identAmong hueMethods) then keyword "hue"
  comma
  let share := expect fun c =>
    match c.token with
    | .percentage n => some ((n.precise.part .double 100).into .single)
    | _ => none
  let part : Parse (Bool × Option Magnitude) := do
    let before ← attempt share
    let known ← color
    let share ← if before.isSome then pure before else attempt share
    return (known, share)
  let (a, p) ← part
  comma
  let (b, q) ← part
  let isNothing (m : Option Magnitude) : Bool :=
    match m with
    | some (.finite 0 _) => true
    | _ => false
  if (isNothing p && isNothing q) || !(a && b) then fail .value
  return true

/-- The content of a function that takes a colour space and components in it. -/
def namedComponents (color : Parse Bool) : Parse Unit := do
  let known ← if ← succeeds (keyword "from") then some <$> color else pure none
  let p ← position
  let space ← ident
  match namedSpaces.lookup space.toLower, known with
  | none, _ => failAt p (.unexpectedToken (.ident space))
  | _, some false => fail .value
  | some channels, known =>
    let origin := known.map fun _ => channels
    components origin [.numberOrPercentage, .numberOrPercentage, .numberOrPercentage]

/-- Components that can be those of another colour, which has these channels. -/
def relative (color : Parse Bool) (channels : Channels)
    (read : Option Channels → Parse Unit) : Parse Unit := do
  if ← succeeds (keyword "from") then
    if !(← color) then fail .value
    read (some channels)
  else read none

/-- A function that makes a colour; tells whether that is known when it is read. `color` reads
the colours in it. -/
def colorFunction (color : Parse Bool) (p : Position) (name : String) (c : Component) :
    Parse Bool := do
  let amounts := [.number, .percentage]
  let lab := fun origin =>
    components origin [.numberOrPercentage, .numberOrPercentage, .numberOrPercentage]
  let lch := fun origin =>
    components origin [.numberOrPercentage, .numberOrPercentage, .angleOrNumber]
  let known (read : Parse Unit) : Parse Bool := within c read *> return true
  match name.toLower with
  | "rgb" | "rgba" => known (relative color (plainChannels ["r", "g", "b"]) rgbComponents)
  | "hsl" | "hsla" =>
    known (relative color (hueChannels "h" ["s", "l"] amounts) (hueComponents true))
  | "hwb" => known (relative color (hueChannels "h" ["w", "b"] amounts) (hueComponents false))
  | "lab" | "oklab" => known (relative color (plainChannels ["l", "a", "b"]) lab)
  | "lch" | "oklch" => known (relative color (hueChannels "h" ["l", "c"] amounts) lch)
  | "color" => known (namedComponents color)
  | "color-mix" => within c (colorMix color)
  | "light-dark" => within c do
    let light ← color
    comma
    return light && (← color)
  | _ => failAt p (.unexpectedToken (.ident name))

/-- Whether hexadecimal digits make a colour: one or two for each component, perhaps with
opacity. -/
def isHexColor (digits : String) : Bool :=
  [3, 4, 6, 8].contains digits.length && digits.toList.all Lexer.isHex

/-- A colour whose brackets nest no deeper than a number of levels; tells whether it is known
when it is read. -/
def colorWithin : Nat → Parse Bool
  | 0 => fail .nestingTooDeep
  | n + 1 => do
    let p ← position
    let c ← next
    match c.token with
    | .hash digits | .idHash digits =>
      if isHexColor digits then return true else failAt p (.unexpectedToken c.token)
    | .ident name =>
      if hasName ("transparent" :: colorNames) name then return true
      else if hasName ("currentcolor" :: systemColors) name then return false
      else failAt p (.unexpectedToken c.token)
    | .function name => colorFunction (colorWithin n) p name c
    | t => failAt p (.unexpectedToken t)

/-- A colour. -/
def color : Parse Unit := do
  let _ ← colorWithin ((← levels) + 1)

end Parse

end UsedCss.Css
