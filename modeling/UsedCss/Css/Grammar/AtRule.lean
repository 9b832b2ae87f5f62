import UsedCss.Css.Grammar.Query
import UsedCss.Css.Grammar.Selector
/-!
# At-rules

What stands between the name of an at-rule and its block or semicolon, and what kind of rule
it makes. An at-rule of an unknown name may hold anything.
-/

namespace UsedCss.Css

/-- An at-rule, as far as it decides about its block. -/
inductive AtRule
  | media
  /-- A block that holds rules, in force under some condition. -/
  | group
  | layer (names : Nat)
  | scope
  /-- Rules of a nested selector. -/
  | nest
  | fontFace
  /-- Names for the features of a font. -/
  | fontFeatures
  | keyframes
  | page
  /-- A block of declarations. -/
  | declarations
  /-- A block whose declarations cannot fail. -/
  | descriptors
  | property
  | charset
  | importSheet
  | namespaceName
  | unknown
deriving DecidableEq, Repr

/-- Whether an at-rule may stand inside a style rule. -/
def AtRule.nestable : AtRule → Bool
  | .media | .group | .layer _ | .scope | .nest | .unknown => true
  | _ => false

namespace Parse

/-- A condition on what a browser supports: blocks that hold anything, joined by `and` or by
`or`, or one after `not`. -/
def supportsCondition : Parse Unit := do
  let block := do
    skipBlank
    let p ← position
    let c ← next
    match c.token with
    | .function _ | .openParen => within c noBadToken
    | t => failAt p (.unexpectedToken t)
  if ← succeeds (keyword "not") then block
  else
    block
    let _ ← repeated (fun word => do
      let further := do
        let found ← identAmong (word.elim ["and", "or"] fun w => [w])
        block
        return found
      match ← attempt further with
      | some found => return (some found, true)
      | none => return (word, false)) none

/-- A declaration that a browser is asked about. -/
def supportsDeclaration : Parse Unit := do
  let _ ← ident
  let _ ← expectToken .colon
  noBadToken

/-- The name of a layer: identifiers with dots between them and no blanks. -/
def layerName : Parse Unit := do
  let _ ← ident
  loop (succeeds do
    let dot ← nextAny
    let name ← nextAny
    match dot.token, name.token with
    | .delim '.', .ident _ => return ()
    | _, t => unexpected t)

/-- Names of layers with commas between them; how many there are. If one is missing there are
none. -/
def layerNames : Parse Nat :=
  return (← commaSeparatedOrMissing (skipBlank *> layerName)).getD 0

/-- The name of a family of fonts: a string, or some identifiers. -/
def familyName : Parse Unit := do
  if !(← succeeds string) then
    let _ ← ident
    loop (succeeds ident)

/-- The name of keyframes: a string, or an identifier that is not reserved. -/
def keyframesName : Parse Unit := do
  let c ← next
  match c.token with
  | .ident s => if ("none" :: reservedWords).any (sameName s) then unexpected c.token
  | .string _ => return ()
  | t => unexpected t

/-- Which pages are meant: a name, pseudo-classes, or both. -/
def pageSelector : Parse Unit := do
  let named ← succeeds ident
  let marked ← repeated (fun marked => do
    if ← adjacent .colon then
      let _ ← identAmong ["first", "last", "left", "right", "blank"]
      return (true, true)
    else return (marked, false)) false
  if !named && !marked then fail .value

/-- The name of a container. -/
def containerName : Parse Unit := do
  let s ← customIdent
  if ["none", "and", "not", "or"].any (sameName s) then unexpected (.ident s)

/-- A root or a limit of a scope, in brackets that have just been opened. -/
def scopeSelectors (levels : Nat) (c : Component) : Parse Unit :=
  within c (selectors levels { relative := true, forgiving := true })

/-- The root and the limit of a scope. -/
def scopePrelude (levels : Nat) : Parse Unit := do
  if let some c ← attempt (expectToken .openParen) then scopeSelectors levels c
  if ← succeeds (keyword "to") then scopeSelectors levels (← expectToken .openParen)

/-- The address that a rule for one family of browsers is limited to: none. -/
def documentPrelude : Parse Unit := do
  let c ← function "url-prefix"
  within c do
    let _ ← succeeds do
      let s ← string
      if s ≠ "" then fail .value

/-- What comes between the name of an at-rule and its block, where it may stand inside other
rules; `inStyle` says whether a style rule is among them. -/
def nestedPrelude (levels : Nat) (inStyle : Bool) (name : String) : Parse AtRule := do
  match name.toLower with
  | "media" => mediaList *> return .media
  | "supports" => supportsCondition *> return .group
  | "container" =>
    let _ ← succeeds containerName
    containerCondition
    return .group
  | "starting-style" => return .group
  | "-moz-document" => documentPrelude *> return .group
  | "layer" => return .layer (← layerNames)
  | "scope" => scopePrelude levels *> return .scope
  | "font-face" => return .fontFace
  | "font-feature-values" => commaSeparated familyName *> return .fontFeatures
  | "font-palette-values" => dashedIdent *> return .descriptors
  | "view-transition" => return .descriptors
  | "counter-style" => customIdent *> return .declarations
  | "viewport" | "-ms-viewport" => return .declarations
  | "keyframes" | "-webkit-keyframes" | "-moz-keyframes" | "-o-keyframes" | "-ms-keyframes" =>
    keyframesName *> return .keyframes
  | "page" =>
    let _ ← succeeds (commaSeparated pageSelector)
    return .page
  | _ =>
    if inStyle && name.toLower = "nest" then
      selectors levels { needsNesting := true } *> return .nest
    else
      skipBlank
      value
      return .unknown

/-- What comes between the name of an at-rule inside other rules and its block. -/
def innerPrelude (levels : Nat) (inStyle : Bool) (name : String) : Parse AtRule := do
  let rule ← nestedPrelude levels inStyle name
  if inStyle && !rule.nestable then fail (.unknownAtRule name) else return rule

end Parse

/-- How far a stylesheet has come: layers, imports and namespaces have to come in this order,
in front of everything else. -/
inductive Stage
  | start
  | layers
  | imports
  | namespaces
  | body
deriving DecidableEq, Repr

/-- The place of a stage in the order. -/
def Stage.rank : Stage → Nat
  | start => 0
  | layers => 1
  | imports => 2
  | namespaces => 3
  | body => 4

namespace Parse

/-- What an import brings: an address, perhaps a layer and a condition, and media. -/
def importPrelude (stage : Stage) : Parse AtRule := do
  if Stage.imports.rank < stage.rank then fail .lateImport
  address true
  if !(← succeeds (keyword "layer")) then
    if let some c ← attempt (function "layer") then within c layerName
  if let some c ← attempt (function "supports") then
    within c do
      if !(← succeeds supportsCondition) then supportsDeclaration
  mediaList
  return .importSheet

/-- What names a namespace: perhaps a word, and an address. -/
def namespacePrelude (stage : Stage) : Parse AtRule := do
  if Stage.namespaces.rank < stage.rank then fail .lateNamespace
  let _ ← succeeds ident
  address true
  return .namespaceName

/-- What comes between the name of an at-rule and its block or semicolon, at the outer level of
a stylesheet that has come to a stage. -/
def outerPrelude (levels : Nat) (stage : Stage) (name : String) : Parse AtRule := do
  match name.toLower with
  | "import" => importPrelude stage
  | "namespace" => namespacePrelude stage
  | "charset" => string *> return .charset
  | "property" => dashedIdent *> return .property
  | _ => innerPrelude levels false name

end Parse

end UsedCss.Css
