import UsedCss.Css.Grammar.Component
import UsedCss.Css.Grammar.SyntaxError
/-!
# Reading components

`Parse` is a reader of components that can fail. It stands somewhere in one level of the tree,
and its position, which errors are reported at, is where the last thing read ends. A block is
read as one token first; `within` then reads its content. Comments are passed over, but where
nothing has been read yet the position is still in front of them.
-/

namespace UsedCss.Css

/-- Where reading stands: what comes next on this level, the position, and where the level
ends. -/
structure Cursor where
  rest : List Component
  position : Position
  stop : Position

/-- A reader of components. -/
abbrev Parse := StateT Cursor (Except SyntaxError)

namespace Parse

variable {α β σ : Type}

/-- Fails at a position. -/
def failAt (p : Position) (cause : SyntaxError.Cause) : Parse α := throw ⟨cause, p⟩

/-- The current position. -/
def position : Parse Position := return (← get).position

/-- Fails at the current position. -/
def fail (cause : SyntaxError.Cause) : Parse α := do failAt (← position) cause

/-- Fails on a token at the current position. -/
def unexpected (t : Token) : Parse α := fail (.unexpectedToken t)

/-- Moves on to components; the position is where they start. -/
def moveTo (rest : List Component) : Parse Unit :=
  modify fun c => { c with rest, position := (rest.head?.map Component.start).getD c.stop }

/-- Skips blanks and comments. -/
def skipBlank : Parse Unit := do moveTo ((← get).rest.dropWhile fun c => c.token.isBlank)

/-- The next component, whatever it is. At the end of the level there is none. -/
def nextRaw? : Parse (Option Component) := do
  match (← get).rest with
  | [] => moveTo [] *> return none
  | c :: rest =>
    modify fun k => { k with rest, position := c.inside }
    return some c

/-- The next component that is not a comment. -/
def nextAny? : Parse (Option Component) := do
  modify fun k => { k with rest := k.rest.dropWhile fun c => c.token.isComment }
  nextRaw?

/-- The next component that is neither blank nor a comment. -/
def next? : Parse (Option Component) := skipBlank *> nextRaw?

/-- A component that has to be there. -/
def required (read : Parse (Option Component)) : Parse Component := do
  match ← read with
  | some c => return c
  | none => fail .endOfInput

/-- The next component that is not a comment. -/
def nextAny : Parse Component := required nextAny?

/-- The next component that is neither blank nor a comment. -/
def next : Parse Component := required next?

/-- What a reader comes to; where it fails, nothing has been read. -/
def outcome (read : Parse α) : Parse (Except SyntaxError α) := fun c =>
  match read c with
  | .ok (a, c) => .ok (.ok a, c)
  | .error e => .ok (.error e, c)

/-- What a reader gives, if it does not fail; where it fails, nothing has been read. -/
def attempt (read : Parse α) : Parse (Option α) := do
  match ← outcome read with
  | .ok a => return some a
  | .error _ => return none

/-- Whether a reader succeeds; where it does not, nothing has been read. -/
def succeeds (read : Parse α) : Parse Bool := return (← attempt read).isSome

/-- What a reader would give, with nothing read. -/
def ahead (read : Parse α) : Parse α := do
  let c ← get
  let a ← read
  set c
  return a

/-- Whether nothing but blanks is left. -/
def isExhausted : Parse Bool := return (← ahead next?).isNone

/-- Fails unless nothing but blanks is left. -/
def expectEnd : Parse Unit := do
  match ← ahead next? with
  | some c => unexpected c.token
  | none => return ()

/-- Reads all of a stretch of components that ends at `stop`. -/
def entirely (rest : List Component) (start stop : Position) (read : Parse α) :
    Except SyntaxError α :=
  (fun (a, _) => a) <$> (read <* expectEnd) ⟨rest, start, stop⟩

/-- Reads all of the content of a block whose opening token has just been read. -/
def within (block : Component) (read : Parse α) : Parse α := do
  let a ← entirely block.content block.inside block.close read
  modify fun c => { c with position := block.after }
  return a

/-- What a reader comes to on all that stands in front of the first token that satisfies
`isStop`. Reading goes on at that token in either case. -/
def before (isStop : Token → Bool) (read : Parse α) : Parse (Except SyntaxError α) := do
  let c ← get
  let (front, rest) := c.rest.span fun k => !isStop k.token
  moveTo rest
  return entirely front c.position (← position) read

/-- Reads all that stands in front of the first token that satisfies `isStop`. -/
def upTo (isStop : Token → Bool) (read : Parse α) : Parse α := do
  match ← before isStop read with
  | .ok a => return a
  | .error e => throw e

/-- Repeats a step, which says whether to go on, from a state on. A step that goes on has to
have read something. -/
def repeated (step : σ → Parse (σ × Bool)) (s : σ) : Parse σ := do
  go ((← get).rest.length + 1) s
where
  /-- Repeats a step a limited number of times. -/
  go : Nat → σ → Parse σ
    | 0, s => return s
    | n + 1, s => do
      match ← step s with
      | (s, true) => go n s
      | (s, false) => return s

/-- Repeats a step while it says so. -/
def loop (step : Parse Bool) : Parse Unit := repeated (fun _ => return ((), ← step)) ()

/-- Reads items with commas between them. -/
def commaSeparated (read : Parse α) : Parse (List α) := do
  let found ← repeated (fun found => do
    skipBlank
    let a ← upTo (· = .comma) read
    return (a :: found, (← next?).isSome)) []
  return found.reverse

/-- Reads items with commas between them up to the first one that breaks off, and stops in front
of the comma after it. The items are counted; if one breaks off there is no count. -/
def commaSeparatedOrMissing (read : Parse α) : Parse (Option Nat) :=
  repeated (fun count => do
    match ← before (· = .comma) read with
    | .ok _ => return (count.map (· + 1), (← next?).isSome)
    | .error e => if e.cause = .endOfInput then return (none, false) else throw e) (some 0)

/-- How deep brackets nest from here to the end of the level. -/
def levels : Parse Nat := return Component.depthOf (← get).rest

/-- The next token satisfies a test that takes something from it; otherwise it is refused at
the position in front of it. -/
def expect (f : Component → Option α) : Parse α := do
  let p ← position
  let c ← next
  match f c with
  | some a => return a
  | none => failAt p (.unexpectedToken c.token)

/-- The next token is the given one. -/
def expectToken (t : Token) : Parse Component :=
  expect fun c => if c.token = t then some c else none

/-- The comma between two items. -/
def comma : Parse Unit := do let _ ← expectToken .comma

/-- An identifier. -/
def ident : Parse String := expect fun c =>
  match c.token with
  | .ident s => some s
  | _ => none

/-- The identifier of that name. -/
def keyword (name : String) : Parse Unit := expect fun c =>
  match c.token with
  | .ident s => if sameName s name then some () else none
  | _ => none

/-- The function of that name. -/
def function (name : String) : Parse Component := expect fun c =>
  match c.token with
  | .function s => if sameName s name then some c else none
  | _ => none

/-- A function of any name. -/
def anyFunction : Parse (String × Component) := expect fun c =>
  match c.token with
  | .function s => some (s, c)
  | _ => none

/-- A string. -/
def string : Parse String := expect fun c =>
  match c.token with
  | .string s => some s
  | _ => none

/-- An identifier or a string. -/
def identOrString : Parse Unit := expect fun c =>
  match c.token with
  | .ident _ | .string _ => some ()
  | _ => none

/-- An identifier that is none of the given names; one of them is refused at the position in
front of it. -/
def identExcept (names : List String) : Parse String := do
  let p ← position
  let s ← ident
  if names.any (sameName s) then failAt p (.unexpectedToken (.ident s)) else return s

/-- An identifier that is one of the given names. -/
def identAmong (names : List String) : Parse String := do
  let p ← position
  let s ← ident
  if names.any (sameName s) then return s else failAt p (.unexpectedToken (.ident s))

/-- A name that starts with two hyphens. -/
def dashedIdent : Parse String := do
  let p ← position
  let s ← ident
  if s.startsWith "--" then return s else failAt p (.unexpectedToken (.ident s))

/-- The first of some readers that succeeds, each from the same place. The last one is not
tried: it fails if it fails. -/
def firstOf (readers : List (Parse α)) (last : Parse α) : Parse α :=
  readers.foldr (fun read others => do
    match ← attempt read with
    | some a => return a
    | none => others) last

/-- The words that stand for no value of their own. -/
def reservedWords : List String :=
  ["initial", "inherit", "unset", "default", "revert", "revert-layer"]

/-- A name that an author chooses. -/
def customIdent : Parse String := identExcept reservedWords

/-- What an address that is a function holds: one string. -/
def addressIn (c : Component) : Parse Unit := do
  let _ ← within c string

/-- An address, with or without quotes around it; also a plain string, if that is allowed. -/
def address (orString : Bool) : Parse Unit := do
  let p ← position
  let c ← next
  match c.token with
  | .url _ => return ()
  | .string s => if orString then return () else failAt p (.unexpectedToken (.string s))
  | .function name =>
    if sameName name "url" then addressIn c else failAt p (.unexpectedToken c.token)
  | t => failAt p (.unexpectedToken t)

/-- Reads up to the end of the level, as long as no token in it, at any depth, is one that has
no place in any value. -/
def noBadToken : Parse Unit := do
  match Component.firstBadOf? (← get).rest with
  | some (t, p) => failAt p (.unexpectedToken t)
  | none => moveTo []

end Parse

end UsedCss.Css
