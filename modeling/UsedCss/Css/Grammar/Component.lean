import UsedCss.Css.Grammar.Lexer
/-!
# Components

A stylesheet as a tree: a component is a single token, or a block with all that stands between
its brackets. A closing bracket that matches no open one is a token like any other, and the end
of the text closes every block.
-/

namespace UsedCss.Css

/-- A component, with the positions of its start and of what comes after it. -/
inductive Component
  | single (token : Token) (start after : Position)
  /-- A block that `opener` opens. Its content reaches from `inside` to `close`. -/
  | block (opener : Token) (start inside : Position) (content : List Component)
    (close after : Position)
deriving Repr

namespace Component

/-- The token that stands for a component: for a block its opening one. -/
def token : Component → Token
  | single t .. | block t .. => t

/-- Where a component starts. -/
def start : Component → Position
  | single _ s _ | block _ s .. => s

/-- Where the next component starts. -/
def after : Component → Position
  | single _ _ a | block _ _ _ _ _ a => a

/-- Where reading stands once the token of a component is read: in a block, after its opening
bracket. -/
def inside : Component → Position
  | single _ _ a => a
  | block _ _ i .. => i

/-- What stands inside a block. -/
def content : Component → List Component
  | single .. => []
  | block _ _ _ cs .. => cs

/-- Where the content of a block ends. -/
def close : Component → Position
  | single _ _ a => a
  | block _ _ _ _ c _ => c

mutual

/-- How deep blocks nest in a component. -/
def depth : Component → Nat
  | single .. => 0
  | block _ _ _ cs _ _ => depthOf cs + 1

/-- How deep blocks nest in a list of components. -/
def depthOf : List Component → Nat
  | [] => 0
  | c :: cs => max (depth c) (depthOf cs)

end

mutual

/-- The first token in a component that has no place in any value, with the position after
it. -/
def firstBad? : Component → Option (Token × Position)
  | single t _ a => if t.isBad then some (t, a) else none
  | block _ _ _ cs _ _ => firstBadOf? cs

/-- The first such token in a list of components. -/
def firstBadOf? : List Component → Option (Token × Position)
  | [] => none
  | c :: cs => (firstBad? c).or (firstBadOf? cs)

end

end Component

/-- A block that is not closed yet: its opening token with its place, where its content starts,
and the components in front of it, newest first. -/
structure OpenBlock where
  opener : Token
  start : Position
  inside : Position
  before : List Component

/-- A tree in the making: the components of the innermost open block, newest first, and the
open blocks from the inside out. -/
structure Forest where
  level : List Component := []
  blocks : List OpenBlock := []

namespace Forest

/-- Closes the innermost block. -/
def close (f : Forest) (close after : Position) : Forest :=
  match f.blocks with
  | [] => f
  | b :: bs =>
    { level := .block b.opener b.start b.inside f.level.reverse close after :: b.before
      blocks := bs }

/-- Takes one more token. -/
def take (f : Forest) (l : Lexeme) : Forest :=
  if l.token.closer?.isSome then
    { level := [], blocks := ⟨l.token, l.start, l.after, f.level⟩ :: f.blocks }
  else if (f.blocks.head?.bind fun b => b.opener.closer?) = some l.token then
    f.close l.start l.after
  else { f with level := .single l.token l.start l.after :: f.level }

/-- The whole tree; the end of the text closes every block that is still open. -/
def finish (last : Position) (f : Forest) : List Component :=
  (f.blocks.foldl (fun f _ => f.close last last) f).level.reverse

end Forest

/-- The components of a stylesheet, and the position of its end. -/
def components (css : List Char) : List Component × Position :=
  let (ts, last) := tokens css
  ((ts.foldl Forest.take {}).finish last, last)

end UsedCss.Css
