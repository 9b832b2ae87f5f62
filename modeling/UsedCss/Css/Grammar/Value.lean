import UsedCss.Css.Grammar.Cursor
/-!
# Values and declarations

Any sequence of tokens is a value, as long as none is bad, its blocks nest no deeper than
`maxNesting`, and the functions that stand for something else (`url`, `var` and `env`) are
well-formed. `value` reads one up to the end of the level.

A declaration is a property with its value. Any property may have any value: one that means
nothing is kept as it stands. The exception is `all`, which takes nothing but a reserved word.
-/

namespace UsedCss.Css.Parse

/-- The number of levels that blocks in a value may nest. -/
def maxNesting : Nat := 500

/-- What may follow the name in a reference: a comma with a value in place of a missing one. -/
def fallback (values : Parse Unit) : Parse Unit := do
  if ← succeeds (expectToken .comma) then values

/-- A reference to a custom property. -/
def customReference (values : Parse Unit) : Parse Unit := do
  let _ ← dashedIdent
  fallback values

/-- A whole number. -/
def integer : Parse Int := expect fun c =>
  match c.token with
  | .number n => n.integer?
  | _ => none

/-- A reference to a value of the environment. -/
def environment (values : Parse Unit) : Parse Unit := do
  let _ ← customIdent
  loop (succeeds integer)
  fallback values

/-- One component of a value that has just been read; `values` reads what blocks in it hold, and
`start` is where it starts. -/
def valueComponent (values : Parse Unit) (start : Position) (c : Component) : Parse Unit :=
  match c.token with
  | .function "url" => addressIn c
  | .function "var" => within c (customReference values)
  | .function "env" => within c (environment values)
  | t =>
    if t.closer?.isSome then within c values
    else if t.isBad then failAt start (.unexpectedToken t)
    else return ()

/-- The components up to the end of the level, each read by a reader. -/
def forEach (read : Position → Component → Parse Unit) : Parse Unit := loop do
  moveTo (← get).rest
  let start ← position
  match ← nextRaw? with
  | none => return false
  | some c => read start c *> return true

/-- A value whose blocks nest no deeper than a number of levels. -/
def valueWithin : Nat → Parse Unit
  | 0 => fail .nestingTooDeep
  | n + 1 => forEach (valueComponent (valueWithin n))

/-- A value up to the end of the level. -/
def value : Parse Unit := valueWithin (maxNesting + 1)

/-- Tokens up to the end of the level that stand for nothing but themselves. -/
def rawWithin : Nat → Parse Unit
  | 0 => fail .nestingTooDeep
  | n + 1 => forEach fun start c =>
    if c.token.closer?.isSome then within c (rawWithin n)
    else if c.token.isBad then failAt start (.unexpectedToken c.token)
    else return ()

/-- Tokens up to the end of the level, taken as they are. -/
def rawValue : Parse Unit := rawWithin (maxNesting + 1)

/-! ## Declarations -/

/-- Whether a token ends the value of a property: an exclamation mark, and in a property of a
fixed meaning also a curly block, which tells a nested rule from a declaration. -/
def endsValue (property : String) (t : Token) : Bool :=
  t = .delim '!' || (!property.startsWith "--" && t = .openCurly)

/-- The reserved words that any property takes. -/
def wideKeywords : List String := ["initial", "inherit", "unset", "revert", "revert-layer"]

/-- The value of a property. -/
def propertyValue (property : String) : Parse Unit := do
  if sameName property "all" then let _ ← identAmong wideKeywords
  else upTo (fun t => t = .delim '!' || t = .semicolon) value

/-- The mark of a declaration that others give way to. -/
def important : Parse Unit := do
  let _ ← expectToken (.delim '!')
  keyword "important"

/-- What follows the colon in a declaration. -/
def declaration (property : String) : Parse Unit := do
  upTo (endsValue property) (propertyValue property)
  let _ ← succeeds important
  expectEnd

end UsedCss.Css.Parse
