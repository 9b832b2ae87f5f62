import UsedCss.Css.Grammar.Value
import UsedCss.Css.Grammar.Quantity
/-!
# Queries

Media queries and container queries: conditions over features, which compare a property of
the page or of a container with a value. A feature that means nothing is allowed; a feature
that means something takes a value of its kind only.
-/

namespace UsedCss.Css

/-- The kind of a feature and of a value. -/
inductive FeatureKind
  | length
  | number
  | integer
  | boolean
  | resolution
  | ratio
  | ident
  /-- A feature or a value that may be of any kind. -/
  | any
deriving DecidableEq, Repr

/-- How a feature compares with a value. -/
inductive Comparison
  | equal
  | less
  | lessOrEqual
  | greater
  | greaterOrEqual
deriving DecidableEq, Repr

/-- Whether values of a kind have an order. -/
def FeatureKind.hasOrder : FeatureKind → Bool
  | .boolean | .ident => false
  | _ => true

/-- Whether two comparisons can bound a value from both sides. -/
def Comparison.bounds : Comparison → Comparison → Bool
  | .less, .less | .less, .lessOrEqual | .lessOrEqual, .less | .lessOrEqual, .lessOrEqual => true
  | .greater, .greater | .greater, .greaterOrEqual | .greaterOrEqual, .greater
  | .greaterOrEqual, .greaterOrEqual => true
  | _, _ => false

/-- A feature by its name, without the start of the name that stands for a comparison. -/
structure Feature where
  name : String
  kind : FeatureKind := .any
  /-- The comparison that the start of the name stands for. -/
  bound : Option Comparison := none
deriving DecidableEq, Repr

/-- The features that queries of some sort know, each with its kind. -/
abbrev FeatureTable := List (String × FeatureKind)

/-- The features of a page and the device that shows it. -/
def mediaFeatures : FeatureTable :=
  [("width", .length), ("height", .length), ("aspect-ratio", .ratio), ("orientation", .ident),
    ("overflow-block", .ident), ("overflow-inline", .ident),
    ("horizontal-viewport-segments", .integer), ("vertical-viewport-segments", .integer),
    ("display-mode", .ident), ("resolution", .resolution), ("scan", .ident), ("grid", .boolean),
    ("update", .ident), ("environment-blending", .ident), ("color", .integer),
    ("color-index", .integer), ("monochrome", .integer), ("color-gamut", .ident),
    ("dynamic-range", .ident), ("inverted-colors", .ident), ("pointer", .ident),
    ("hover", .ident), ("any-pointer", .ident), ("any-hover", .ident), ("nav-controls", .ident),
    ("video-color-gamut", .ident), ("video-dynamic-range", .ident), ("scripting", .ident),
    ("prefers-reduced-motion", .ident), ("prefers-reduced-transparency", .ident),
    ("prefers-contrast", .ident), ("forced-colors", .ident), ("prefers-color-scheme", .ident),
    ("prefers-reduced-data", .ident), ("device-width", .length), ("device-height", .length),
    ("device-aspect-ratio", .ratio), ("-webkit-device-pixel-ratio", .number),
    ("-moz-device-pixel-ratio", .number)]

/-- The features of a container. -/
def containerFeatures : FeatureTable :=
  [("width", .length), ("height", .length), ("inline-size", .length), ("block-size", .length),
    ("aspect-ratio", .ratio), ("orientation", .ident)]

/-- The feature with a name. Its start may stand for a comparison, after the mark of one
family of browsers. -/
def Feature.ofName (table : FeatureTable) (written : String) : Feature :=
  if written.startsWith "--" then { name := written }
  else
    let lower := written.toLower
    let marked := lower.startsWith "-webkit-"
    let core := if marked then (lower.drop 8).toString else lower
    let (core, bound) :=
      if core.startsWith "min-" then ((core.drop 4).toString, some Comparison.greaterOrEqual)
      else if core.startsWith "max-" then ((core.drop 4).toString, some Comparison.lessOrEqual)
      else (core, none)
    let name := if marked then "-webkit-" ++ core else core
    match table.lookup name with
    | some kind => { name, kind, bound }
    | none => { name }

namespace Parse

/-- The name of a feature. -/
def feature (table : FeatureTable) : Parse Feature := return .ofName table (← ident)

/-- A comparison, or a colon where one is allowed. -/
def comparison (orColon : Bool) : Parse (Option Comparison) := do
  let p ← position
  let c ← next
  let orEqual := succeeds (expectToken (.delim '='))
  match c.token with
  | .delim '=' => return some .equal
  | .delim '>' => return some (if ← orEqual then .greaterOrEqual else .greater)
  | .delim '<' => return some (if ← orEqual then .lessOrEqual else .less)
  | .colon => if orColon then return none else failAt p (.unexpectedToken .colon)
  | t => failAt p (.unexpectedToken t)

/-- A value of a kind. -/
def valueOfKind : FeatureKind → Parse Unit
  | .length => length
  | .number => number
  | .integer => do let _ ← integer
  | .boolean => do
    let n ← integer
    if n = 0 || n = 1 then return () else fail .value
  | .resolution => resolution
  | .ratio => ratio
  | .ident => do let _ ← ident
  | .any => fail .value

/-- A reference to the environment, with its function. -/
def environmentValue : Parse Unit := do
  within (← function "env") (environment value)

/-- A value of the given kind, or else of the first kind that fits; tells which it is. -/
def featureValue (kind : FeatureKind) : Parse FeatureKind := do
  if ← succeeds (valueOfKind kind) then return kind
  else if ← succeeds fullRatio then return .ratio
  else if ← succeeds number then return .number
  else if ← succeeds length then return .length
  else if ← succeeds resolution then return .resolution
  else if ← succeeds environmentValue then return .any
  else
    let _ ← ident
    return .ident

/-- Whether a value of a kind fits a feature. -/
def takes (f : Feature) (kind : FeatureKind) : Bool :=
  kind = f.kind || kind = .any || f.kind = .any

/-- The value of a feature, which has to be of its kind. -/
def fittingValue (f : Feature) : Parse Unit := do
  if !takes f (← featureValue f.kind) then fail .mediaQuery

/-- A feature with its value, if it has one, after it. -/
def featureFirst (table : FeatureTable) : Parse Unit := do
  let f ← feature table
  match ← attempt (comparison true) with
  | none => return ()
  | some c =>
    if c.isSome && f.bound.isSome then fail .mediaQuery
    fittingValue f
    if (c.or f.bound).isSome && !f.kind.hasOrder then fail .mediaQuery

/-- The first feature on this level, which nothing is read for. -/
def featureAhead (table : FeatureTable) : Parse Feature := ahead do
  let f ← repeated (fun _ => do
    match ← outcomeOf (feature table) with
    | some f => return (some f, false)
    | none => if ← isExhausted then fail .mediaQuery else return (none, true)) none
  match f with
  | none => fail .mediaQuery
  | some f => if f.bound.isSome then fail .mediaQuery else return f
where
  /-- What a reader gives, if it does not fail; the next component is read in either case. -/
  outcomeOf (read : Parse Feature) : Parse (Option Feature) := do
    let f ← attempt read
    if f.isNone then let _ ← next?
    return f

/-- A feature between values, or after one. -/
def valueFirst (table : FeatureTable) : Parse Unit := do
  let f ← featureAhead table
  let kind ← featureValue f.kind
  let first ← comparison false
  let _ ← feature table
  if !f.kind.hasOrder || !takes f kind then fail .mediaQuery
  match ← attempt (comparison false) with
  | none => return ()
  | some second =>
    let bounded := (first.bind fun a => second.map a.bounds).getD false
    if !bounded then fail .mediaQuery
    fittingValue f

/-- A feature in its brackets. -/
def featureTest (table : FeatureTable) : Parse Unit := do
  match ← outcome (featureFirst table) with
  | .ok _ => return ()
  | .error e => if e.cause = .mediaQuery then throw e else valueFirst table

/-- A condition is made of tests in brackets, which `test` reads, and perhaps of tests in a
function of its own. -/
structure Tests where
  test : Parse Unit
  styleTest : Option (Parse Unit) := none

/-- Whether a token opens a test that is a function. -/
def Tests.isStyle (ts : Tests) (t : Token) : Bool :=
  match t with
  | .function name => ts.styleTest.isSome && sameName name "style"
  | _ => false

/-- The content of a block that has just been opened; `nested` reads a condition in it. -/
def Tests.content (ts : Tests) (nested : Parse Unit) (c : Component) : Parse Unit :=
  if ts.isStyle c.token then within c (ts.styleTest.getD (return ()))
  else within c do
    if !(← succeeds nested) then ts.test

/-- One test in brackets. -/
def Tests.one (ts : Tests) (nested : Parse Unit) : Parse Unit := do
  let p ← position
  let c ← next
  if c.token = .openParen || ts.isStyle c.token then ts.content nested c
  else failAt p (.unexpectedToken c.token)

/-- Tests joined by `and` or by `or`, or one after `not`. -/
def Tests.joined (ts : Tests) (nested : Parse Unit) (allowOr : Bool) : Parse Unit := do
  let p ← position
  if ← succeeds (keyword "not") then ts.one nested
  else
    ts.one nested
    match ← attempt (identAmong ["and", "or"]) with
    | none => return ()
    | some word =>
      if sameName word "or" && !allowOr then failAt p (.unexpectedToken (.ident "or"))
      ts.one nested
      loop do
        if ← succeeds (keyword word) then ts.one nested *> return true else return false

/-- A condition whose brackets nest no deeper than a number of levels. -/
def condition (ts : Tests) : Nat → Bool → Parse Unit
  | 0, _ => fail .nestingTooDeep
  | n + 1, allowOr => ts.joined (condition ts n true) allowOr

/-- A condition, read as deep as brackets nest here. -/
def wholeCondition (ts : Tests) (allowOr : Bool) : Parse Unit := do
  condition ts ((← levels) + 1) allowOr

/-- What one media query asks for. -/
def mediaQuery : Parse Unit := do
  let tests : Tests := { test := featureTest mediaFeatures }
  let medium := do
    let _ ← succeeds (identAmong ["only", "not"])
    ident
  if ← succeeds medium then
    if ← succeeds (keyword "and") then wholeCondition tests false
  else wholeCondition tests true

/-- A list of media queries, which may be empty. One that breaks off ends the list. -/
def mediaList : Parse Unit := do let _ ← commaSeparatedOrMissing mediaQuery

/-- A property in its brackets with its value. -/
def styleFeature : Parse Unit := do
  let property ← ident
  let _ ← expectToken .colon
  skipBlank
  propertyValue property
  let _ ← succeeds important

/-- What one container query asks for. -/
def containerCondition : Parse Unit := do
  let styleTest := do
    if !(← succeeds (wholeCondition { test := styleFeature } true)) then styleFeature
  wholeCondition { test := featureTest containerFeatures, styleTest := some styleTest } true

end Parse

end UsedCss.Css
