import UsedCss.Css.Grammar.Nth
import UsedCss.Css.Grammar.Value
/-!
# Selectors

A selector is a row of compounds with combinators between them, and a compound is a name with
simple selectors after it. What may follow a pseudo-element is restricted; `SelectorState`
keeps what decides about that. Pseudo-classes and pseudo-elements that mean nothing are allowed.
-/

namespace UsedCss.Css

/-- What has been read of a selector, as far as it decides what may follow. -/
structure SelectorState where
  afterSlotted : Bool := false
  afterPart : Bool := false
  /-- After a pseudo-element that means something, other than a slot or a part. -/
  afterElement : Bool := false
  afterScrollbar : Bool := false
  afterTransition : Bool := false
  /-- Whether this is a single compound. -/
  noCombinators : Bool := false
  /-- Whether pseudo-elements have no place here. -/
  noElements : Bool := false
  /-- Whether the selector refers to that of the rule around it. -/
  nested : Bool := false
deriving DecidableEq, Repr

namespace SelectorState

/-- Whether a pseudo-element of any kind has been read. -/
def afterAny (s : SelectorState) : Bool := s.afterSlotted || s.afterPart || s.afterElement

end SelectorState

/-- How a list of selectors is read. -/
structure SelectorMode where
  /-- Whether a selector may start with a combinator. -/
  relative : Bool := false
  /-- Whether invalid selectors are left out. -/
  forgiving : Bool := false
  /-- Whether every selector has to refer to that of the rule around it. -/
  needsNesting : Bool := false
  /-- Whether there is to be a single selector. -/
  single : Bool := false
deriving DecidableEq, Repr

/-- A reader for selectors in brackets. It tells whether one of them refers to the selector of
the rule around. -/
abbrev InnerSelectors := SelectorMode → SelectorState → Parse Bool

/-- The pseudo-elements that one colon is enough for. -/
def oldElements : List String := ["before", "after", "first-line", "first-letter"]

/-- The pseudo-elements that may come after a slot. -/
def slottedElements : List String :=
  ["before", "after", "marker", "placeholder", "-webkit-input-placeholder", "-moz-placeholder",
    "-ms-input-placeholder", "file-selector-button", "-webkit-file-upload-button", "-ms-browse"]

/-- The pseudo-elements for parts of a scrollbar. -/
def scrollbarElements : List String :=
  ["-webkit-scrollbar", "-webkit-scrollbar-button", "-webkit-scrollbar-track",
    "-webkit-scrollbar-track-piece", "-webkit-scrollbar-thumb", "-webkit-scrollbar-corner",
    "-webkit-resizer"]

/-- The pseudo-elements that mean something. -/
def knownElements : List String :=
  slottedElements ++ scrollbarElements ++
    ["first-line", "first-letter", "cue", "cue-region", "selection", "-moz-selection",
      "backdrop", "-webkit-backdrop", "view-transition"]

/-- The pseudo-elements for the sides of a transition. -/
def transitionElements : List String :=
  ["view-transition-group", "view-transition-image-pair", "view-transition-old",
    "view-transition-new"]

/-- The pseudo-classes about the place in the tree. -/
def placeClasses : List String :=
  ["first-child", "last-child", "only-child", "root", "empty", "scope", "host",
    "first-of-type", "last-of-type", "only-of-type"]

/-- The pseudo-classes about what the user does. -/
def actionClasses : List String := ["active", "hover", "focus", "focus-within", "focus-visible"]

/-- The pseudo-classes of scrollbars. -/
def scrollbarClasses : List String :=
  ["horizontal", "vertical", "decrement", "increment", "start", "end", "double-button",
    "single-button", "no-button", "corner-present", "window-inactive"]

/-- The pseudo-classes that may come after a scrollbar. -/
def afterScrollbarClasses : List String :=
  scrollbarClasses ++ ["enabled", "disabled", "hover", "active"]

/-- The functions for a place in a row, and whether they can count selected siblings only. -/
def nthFunctions : List (String × Bool) :=
  [("nth-child", true), ("nth-last-child", true), ("nth-of-type", false),
    ("nth-last-of-type", false), ("nth-col", false), ("nth-last-col", false)]

/-- Whether a name is in a list, apart from the case of ASCII letters. -/
def hasName (names : List String) (name : String) : Bool := names.any (sameName name)

namespace Parse

/-- Fails at the current position because of the selector. -/
def refuse {α : Type} (e : SelectorError) : Parse α := fail (.selector e)

/-- Fails at a position because of the selector. -/
def refuseAt {α : Type} (p : Position) (e : SelectorError) : Parse α := failAt p (.selector e)

/-- Fails if something stands where it may not. -/
def misplacedIf (b : Bool) : Parse Unit := if b then refuse .misplaced else return ()

/-- Refuses a token at a position if a pseudo-element stands in front of it. -/
def refuseAfterElement (s : SelectorState) (p : Position) (t : Token) : Parse Unit :=
  if s.afterAny then refuseAt p (.afterElement t) else return ()

/-- Reads the given token if it comes right here, with no blank in front of it. -/
def adjacent (t : Token) : Parse Bool := succeeds do
  let c ← nextAny
  if c.token = t then return () else unexpected c.token

/-- The name after the bar of a namespace. -/
def nameAfterBar (inAttribute : Bool) : Parse Unit := do
  let p ← position
  let c ← nextAny
  match c.token with
  | .ident _ => return ()
  | t =>
    if inAttribute then refuseAt p (.attributeNameExpected t)
    else if t = .delim '*' then return ()
    else refuseAt p (.namespaceWithoutName t)

/-- A name that may have a namespace. If there is no name here nothing is read, and the token
found instead is given. -/
def qualifiedName (inAttribute : Bool) : Parse (Option Token) := do
  let here ← get
  let c ← nextAny
  match c.token with
  | .ident _ =>
    if ← adjacent (.delim '|') then nameAfterBar inAttribute
    return none
  | .delim '*' =>
    let p ← position
    if ← adjacent (.delim '|') then nameAfterBar inAttribute
    else if inAttribute then refuseAt p (.attributeBarExpected (← nextAny).token)
    return none
  | .delim '|' => nameAfterBar inAttribute *> return none
  | t => set here *> return some t

/-- Whether a name stands here. A namespace with nothing after it is none. -/
def typeSelector (s : SelectorState) : Parse Bool := do
  match ← outcome (qualifiedName false) with
  | .ok none => misplacedIf s.afterAny *> return true
  | .ok (some _) => return false
  | .error e => if e.cause = .endOfInput then moveTo [] *> return false else throw e

/-- The operators between an attribute and its value. -/
def isAttributeOperator : Token → Bool
  | .delim '=' | .includeMatch | .dashMatch | .prefixMatch | .substringMatch | .suffixMatch =>
    true
  | _ => false

/-- The letter after the value of an attribute that says how to compare. -/
def attributeFlag : Parse Unit := do
  let p ← position
  match (← next?).map Component.token with
  | none => return ()
  | some (.ident s) =>
    if hasName ["i", "s"] s then return () else failAt p (.unexpectedToken (.ident s))
  | some t => failAt p (.unexpectedToken t)

/-- The content of square brackets. -/
def attributeSelector : Parse Unit := do
  skipBlank
  match ← qualifiedName true with
  | some t => refuse (.attributeWithoutName t)
  | none =>
    let p ← position
    match (← next?).map Component.token with
    | none => return ()
    | some t =>
      if isAttributeOperator t then
        match ← outcome identOrString with
        | .ok _ => attributeFlag
        | .error ⟨.unexpectedToken t, p⟩ => refuseAt p (.attributeValue t)
        | .error e => throw e
      else refuseAt p (.attributeOperator t)

/-- The names of a part. -/
def partNames : Parse Unit := do
  let _ ← ident
  loop do
    if ← isExhausted then return false
    else
      let _ ← ident
      return true

/-- What a side of a transition is chosen by: a name, and classes. -/
def transitionPart : Parse Unit := do
  skipBlank
  if !(← succeeds (expectToken (.delim '*'))) then let _ ← succeeds customIdent
  loop do
    match (← nextAny?).map Component.token with
    | none => return false
    | some (.delim '.') =>
      match (← nextAny?).map Component.token with
      | some (.ident _) => return true
      | _ => refuse .misplaced
    | some _ => refuse .misplaced

/-- A pseudo-element that is a name. -/
def pseudoElement (s : SelectorState) (name : String) : Parse SelectorState := do
  misplacedIf (s.afterElement || s.noElements)
  misplacedIf (s.afterSlotted && !hasName slottedElements name)
  if hasName knownElements name then
    return { s with
      afterElement := true
      afterScrollbar := s.afterScrollbar || hasName scrollbarElements name }
  else return s

/-- A pseudo-element that is a function, whose opening has just been read. -/
def pseudoElementFunction (inner : InnerSelectors) (s : SelectorState) (name : String)
    (c : Component) : Parse SelectorState := do
  misplacedIf (s.afterElement || s.noElements)
  if sameName name "part" then
    misplacedIf s.afterAny
    within c partNames
    return { s with afterPart := true }
  else if sameName name "slotted" then
    misplacedIf s.afterAny
    let inside := { s with noElements := true, noCombinators := true }
    let nested ← within c (inner { single := true } inside)
    return { s with afterSlotted := true, nested := s.nested || nested }
  else if hasName ["cue", "cue-region"] name then
    let _ ← within c (inner { single := true } {})
    misplacedIf s.afterSlotted
    return { s with afterElement := true }
  else if hasName transitionElements name then
    within c transitionPart
    misplacedIf s.afterSlotted
    return { s with afterElement := true, afterTransition := true }
  else
    within c rawValue
    misplacedIf s.afterSlotted
    return s

/-- A pseudo-class that is a name; `p` is the position after its colon. -/
def pseudoClass (p : Position) (s : SelectorState) (name : String) : Parse SelectorState := do
  if s.afterSlotted then refuseAt p .misplaced
  else if !s.afterAny && hasName placeClasses name then return s
  else if s.afterTransition && sameName name "only-child" then return s
  else if s.afterScrollbar then
    if hasName afterScrollbarClasses name then return s
    else refuseAt p .pseudoClassAfterScrollbar
  else if s.afterElement then
    if hasName actionClasses name then return s else refuseAt p .pseudoClassAfterElement
  else if hasName scrollbarClasses name then refuseAt p .scrollbarPseudoClass
  else return s

/-- A place in a row, perhaps among selected siblings only. -/
def nthClass (inner : InnerSelectors) (s : SelectorState) (counted : Bool) : Parse Bool := do
  misplacedIf s.afterAny
  nth
  if counted && (← succeeds (keyword "of")) then
    let _ ← inner { forgiving := true } { s with noElements := true }
  return false

/-- The content of a pseudo-class that is a function. Tells whether it refers to the selector of
the rule around. -/
def pseudoClassFunction (inner : InnerSelectors) (s : SelectorState) (name : String) :
    Parse Bool := do
  match nthFunctions.find? fun f => sameName name f.1 with
  | some (_, counted) => nthClass inner s counted
  | none =>
    if hasName ["is", "where", "-webkit-any", "-moz-any"] name then
      inner { forgiving := true } { s with noElements := true }
    else if sameName name "has" then inner { relative := true, forgiving := true } s
    else if sameName name "not" then inner {} { s with noElements := true }
    else if sameName name "host" then
      misplacedIf s.afterAny
      inner { single := true } { s with noElements := true, noCombinators := true }
    else
      misplacedIf s.afterAny
      if sameName name "lang" then let _ ← commaSeparated identOrString
      else if sameName name "dir" then let _ ← identAmong ["ltr", "rtl"]
      else if sameName name "active-view-transition-type" then
        let _ ← commaSeparated customIdent
      else rawValue
      return false

/-- What follows a colon. -/
def pseudo (inner : InnerSelectors) (s : SelectorState) : Parse SelectorState := do
  let p ← position
  let c ← nextAny
  let double := c.token = .colon
  let c ← if double then nextAny else pure c
  match c.token with
  | .ident name =>
    if double || hasName oldElements name then pseudoElement s name else pseudoClass p s name
  | .function name =>
    if double || hasName oldElements name then pseudoElementFunction inner s name c
    else
      let nested ← within c (pseudoClassFunction inner s name)
      return { s with nested := s.nested || nested }
  | t => refuse (.pseudoWithoutName t)

/-- What follows the dot of a class. -/
def className : Parse Unit := do
  let p ← position
  let c ← nextAny
  match c.token with
  | .ident _ => return ()
  | t => refuseAt p (.classWithoutName t)

/-- One simple selector. If there is none here nothing is read. -/
def simpleSelector (inner : InnerSelectors) (s : SelectorState) :
    Parse (Option SelectorState) := do
  let here ← get
  match ← nextAny? with
  | none => set here *> return none
  | some c =>
    let start := here.position
    match c.token with
    | .idHash _ => refuseAfterElement s start c.token *> return some s
    | .delim '.' => refuseAfterElement s start c.token *> className *> return some s
    | .openSquare =>
      refuseAfterElement s start c.token *> within c attributeSelector *> return some s
    | .colon => return some (← pseudo inner s)
    | .delim '&' => return some { s with nested := true }
    | _ => set here *> return none

/-- A compound, and whether it is empty. -/
def compound (inner : InnerSelectors) (s : SelectorState) : Parse (SelectorState × Bool) := do
  skipBlank
  let nesting ← adjacent (.delim '&')
  let s := { s with nested := s.nested || nesting }
  let named ← typeSelector s
  repeated (fun (s, empty) => do
    match ← simpleSelector inner s with
    | some s => return ((s, false), true)
    | none => return ((s, empty), false)) (s, !nesting && !named)

/-- Whether a combinator comes; blanks are one where nothing else is. -/
def combinator : Parse Bool := do
  let (_, found) ← repeated (fun (blank, _) => do
    let here ← get
    match (← nextAny?).map Component.token with
    | none => return ((blank, false), false)
    | some (.blank _) => return ((true, false), true)
    | some (.delim '>') | some (.delim '+') | some (.delim '~') => return ((blank, true), false)
    | some _ => set here *> return ((blank, blank), false)) (false, false)
  return found

/-- Nothing may follow a pseudo-element but what belongs to its compound. -/
def expectNoMore : Parse Unit := do
  let p ← position
  if let some c ← next? then refuseAt p (.afterElement c.token)

/-- One selector. -/
def selector (inner : InnerSelectors) (needsNesting : Bool) (s : SelectorState) :
    Parse Bool := do
  let (s, _) ← repeated (fun (s, combined) => do
    let (s, empty) ← compound inner s
    if empty then refuse (if combined then .danglingCombinator else .empty)
    else if s.afterAny then expectNoMore *> return ((s, combined), false)
    else if ← combinator then
      misplacedIf s.noCombinators
      return ((s, true), true)
    else return ((s, combined), false)) (s, false)
  if needsNesting && !s.nested then refuse .withoutNesting
  return s.nested

/-- The combinator that a relative selector may start with. -/
def leadingCombinator : Parse Unit := do
  let here ← get
  let c ← next
  match c.token with
  | .delim '>' | .delim '+' | .delim '~' => return ()
  | _ => set here

/-- Selectors up to the end of the level. -/
def selectorList (inner : InnerSelectors) (mode : SelectorMode) (s : SelectorState) :
    Parse Bool := do
  let read := do
    if mode.relative then leadingCombinator
    selector inner mode.needsNesting s
  if mode.single then read
  else repeated (fun nested => do
    match ← before (· = .comma) read with
    | .ok n => return (nested || n, (← next?).isSome)
    | .error e => if mode.forgiving then return (nested, (← next?).isSome) else throw e) s.nested

/-- Selectors whose brackets nest no deeper than a number of levels. -/
def selectorsWithin : Nat → SelectorMode → SelectorState → Parse Bool
  | 0, _, _ => fail .nestingTooDeep
  | n + 1, mode, s => selectorList (selectorsWithin n) mode s

/-- The selectors in front of the block of a rule, whose brackets nest no deeper than a number
of levels. -/
def selectors (levels : Nat) (mode : SelectorMode) : Parse Unit := do
  let _ ← selectorsWithin levels mode {}

end Parse

end UsedCss.Css
