import UsedCss.Css.Grammar.AtRule
import UsedCss.Css.Grammar.PropertySyntax
/-!
# Blocks

What stands between curly brackets: declarations, rules and at-rules in any order, as far as
the block takes them. The block of keyframes or of a font leaves out what it does not
understand, so nothing in it is an error.
-/

namespace UsedCss.Css

/-- Readers for the items of a block. -/
structure Items (α : Type) where
  /-- An at-rule, from what follows its name on. -/
  atRule : String → Parse α
  /-- A declaration, from what follows its colon on. -/
  declaration : Option (String → Parse α) := none
  /-- A rule, from its start on. -/
  rule : Option (Parse α) := none

namespace Parse

variable {α : Type}

/-- A rule with its block. A semicolon ends the selectors too, if it `separates` items here. -/
def qualifiedRule (separates : Bool) (prelude block : Parse Unit) : Parse Unit := do
  let selectors ← before (fun t => t = .openCurly || (separates && t = .semicolon)) prelude
  let c ← expectToken .openCurly
  match selectors with
  | .ok _ => within c block
  | .error e => throw e

/-- An at-rule with its block, or as a statement, if it can be one. -/
def atRule (prelude : Parse AtRule) (block : AtRule → Parse α) (statement : AtRule → Option α) :
    Parse α := do
  let rule ← upTo (fun t => t = .openCurly || t = .semicolon) prelude
  match ← next? with
  | some c =>
    if c.token = .openCurly then within c (block rule)
    else (statement rule).elim (unexpected .semicolon) pure
  | none => (statement rule).elim (unexpected .semicolon) pure

/-- Reads an item with the given reader from `here` on. -/
def itemFrom (here : Cursor) (rule : Parse α) : Parse α := set here *> rule

/-- The declaration of a property whose name has just been read, or else the rule that starts
`here`. If it is neither, the error is that of the declaration. -/
def declarationOrRule (items : Items α) (here : Cursor) (read : String → Parse α)
    (name : String) : Parse α := do
  let colon := expectToken .colon
  match ← before (· = .semicolon) (colon *> read name) with
  | .ok a =>
    let _ ← next?
    return a
  | .error e =>
    match items.rule with
    | none => throw e
    | some rule =>
      match ← attempt (itemFrom here rule) with
      | some a => return a
      | none => throw e

/-- An item that is neither a declaration nor an at-rule, and starts with a token `here`. -/
def otherItem (items : Items α) (here : Cursor) (t : Token) : Parse α :=
  match items.rule with
  | some rule => itemFrom here rule
  | none => failAt here.position (.unexpectedToken t)

/-- The items of a block up to the end of the level, newest first. -/
def blockItems (items : Items α) : Parse (List α) := repeated (fun found => do
  skipBlank
  let here ← get
  match (← nextAny?).map Component.token with
  | none => return (found, false)
  | some .closeCurly | some .semicolon => return (found, true)
  | some (.atKeyword name) => return ((← items.atRule name) :: found, true)
  | some (.ident name) =>
    match items.declaration with
    | some read => return ((← declarationOrRule items here read name) :: found, true)
    | none => return ((← otherItem items here (.ident name)) :: found, true)
  | some t => return ((← otherItem items here t) :: found, true)) []

/-- An at-rule that has no place in a block. -/
def noAtRule (name : String) : Parse α := fail (.unknownAtRule name)

/-- A block that holds declarations only. -/
def declarationBlock : Parse Unit := do
  let _ ← blockItems { atRule := noAtRule, declaration := some declaration }

/-- The boxes in the margin of a page. -/
def marginBoxes : List String :=
  ["top-left-corner", "top-left", "top-center", "top-right", "top-right-corner", "left-top",
    "left-middle", "left-bottom", "right-top", "right-middle", "right-bottom",
    "bottom-left-corner", "bottom-left", "bottom-center", "bottom-right", "bottom-right-corner"]

/-- The block of a page: declarations, and boxes in its margin. -/
def pageBlock : Parse Unit := do
  let marginBox (name : String) : Parse Unit := do
    if hasName marginBoxes name then
      atRule (return .declarations) (fun _ => declarationBlock) fun _ => none
    else noAtRule name
  let _ ← blockItems { atRule := marginBox, declaration := some declaration }

/-- The kinds of features that a font can have names for. -/
def featureKinds : List String :=
  ["stylistic", "historical-forms", "styleset", "character-variant", "swash", "ornaments",
    "annotation"]

/-- The numbers that a name for a feature stands for: at least one, and none of them negative.
What ends them is read too. -/
def featureNumbers : Parse Unit := do
  let found ← repeated (fun found => do
    match (← next?).map Component.token with
    | some (.number n) =>
      match n.integer? with
      | some i => if i < 0 then fail .value else return (true, true)
      | none => return (found, false)
    | _ => return (found, false)) false
  if !found then fail .value

/-- The names for the features of a font: a block for each kind of them. -/
def featureBlock : Parse Unit := do
  let names : Parse Unit := do
    let _ ← blockItems { atRule := noAtRule, declaration := some fun _ => featureNumbers }
  let kind (name : String) : Parse Unit := do
    if hasName featureKinds name then
      atRule (return .declarations) (fun _ => names) fun _ => none
    else noAtRule name
  let _ ← blockItems { atRule := kind }

/-- What the description of a property says. The first value is kept as it stands. -/
inductive Descriptor
  | syntaxOf (values : PropertySyntax)
  | inherits
  | first (text : Cursor)

/-- The syntax that a line of a description gives. -/
def Descriptor.values? : Descriptor → Option PropertySyntax
  | .syntaxOf s => some s
  | _ => none

/-- The first value that a line of a description gives. -/
def Descriptor.first? : Descriptor → Option Cursor
  | .first text => some text
  | _ => none

/-- Whether a line of a description says if values are inherited. -/
def Descriptor.isInherits : Descriptor → Bool
  | .inherits => true
  | _ => false

/-- One line of the description of a property. -/
def descriptor (name : String) : Parse Descriptor := do
  match name.toLower with
  | "syntax" =>
    match PropertySyntax.parse? (← string) with
    | some s => return .syntaxOf s
    | none => fail .value
  | "inherits" => identAmong ["true", "false"] *> return .inherits
  | "initial-value" =>
    let text ← get
    moveTo []
    return .first text
  | _ => fail .declaration

/-- Checks the first value of a property against its syntax. It is a text of its own, and the
position of an error counts from its start. An empty one can be anything. -/
def checkFirst (s : PropertySyntax) (text : Cursor) : Parse Unit :=
  let read : Parse Unit := do
    if s = PropertySyntax.anything && (← isExhausted) then return () else firstValue s
  match read text with
  | .ok _ => return ()
  | .error e => failAt (text.position.relativeTo e.position) e.cause

/-- The block that describes a property: it has to say what values there are and whether they
are inherited, and what the first one is, unless there can be any. -/
def propertyBlock : Parse Unit := do
  let found ← blockItems { atRule := noAtRule, declaration := some descriptor }
  if !found.any Descriptor.isInherits then fail .atRuleBody
  match found.findSome? Descriptor.values?, found.findSome? Descriptor.first? with
  | some s, some text => checkFirst s text
  | some .anything, none => return ()
  | _, _ => fail .atRuleBody

/-- The block of an at-rule. `rules` reads a block of rules, given whether a style rule is
around it, and `inStyle` says whether one is around the at-rule. -/
def atRuleBlock (rules : Bool → Parse Unit) (inStyle : Bool) : AtRule → Parse Unit
  | .media | .group | .scope => rules inStyle
  | .layer names => if 1 < names then fail .atRuleBody else rules inStyle
  | .nest => rules true
  | .fontFace | .keyframes | .descriptors => moveTo []
  | .fontFeatures => featureBlock
  | .page => pageBlock
  | .declarations => declarationBlock
  | .property => propertyBlock
  | .charset | .importSheet | .namespaceName => unexpected .openCurly
  | .unknown => value

/-- Whether an at-rule inside other rules can be a statement. -/
def innerStatement (inStyle : Bool) : AtRule → Option Unit
  | .layer names => if inStyle || names = 0 then none else some ()
  | .unknown => some ()
  | _ => none

/-- A block of rules that nests no deeper than a number of levels. In a style rule it holds
declarations too, and its selectors may start with a combinator. -/
def ruleBlock : Nat → Bool → Parse Unit
  | 0, _ => fail .nestingTooDeep
  | n + 1, inStyle => do
    let _ ← blockItems {
      atRule := fun name =>
        atRule (innerPrelude n inStyle name) (atRuleBlock (ruleBlock n) inStyle)
          (innerStatement inStyle)
      declaration := if inStyle then some declaration else none
      rule := some
        (qualifiedRule inStyle (selectors n { relative := inStyle }) (ruleBlock n true)) }

end Parse

end UsedCss.Css
