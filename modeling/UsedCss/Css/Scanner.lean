import UsedCss.Text.Basic
/-!
# Scanning a stylesheet into constructs

The scanner does not parse CSS. It takes a stylesheet line by line, strips the comments
and counts braces, and hands back every construct, a rule or an at-rule with its block, as
soon as its braces balance. `Scanner.feed` takes one line, and `scan` all lines of a text.
-/

namespace UsedCss.Css

open UsedCss.Text

/-! ## Comments

Comments are taken out line by line: `stripLine` is told whether the line starts inside a comment
and says whether it ends inside one. A line that no comment touches stays as it is; any other line
also loses its blank end. -/

/-- The opener of a comment. -/
def commentOpen : List Char := ['/', '*']

/-- Copies a line without its comments. `inside` says whether the line starts inside a
comment, and the second result whether it ends inside one; `out` holds what has been
copied so far, newest first. -/
def cutComments : (inside : Bool) → (out : List Char) → List Char → List Char × Bool
  | false, out, '/' :: '*' :: cs => cutComments true out cs
  | false, out, c :: cs => cutComments false (c :: out) cs
  | true, out, '*' :: '/' :: cs => cutComments false out cs
  | true, out, _ :: cs => cutComments true out cs
  | inside, out, [] => (out.reverse, inside)

/-- The code on a line, and whether the line ends inside a comment. -/
def stripLine (inside : Bool) (line : List Char) : List Char × Bool :=
  if !inside && !occurs commentOpen line then (line, false)
  else
    let (code, stillOpen) := cutComments inside [] line
    (trimEnd code, stillOpen)

/-! ## What one line says

The scanner decides by braces and by how a line starts: `braceDelta` is how much deeper a line
nests, and `isBlockAtRule` tells the at-rules that hold a block of rules. -/

/-- The number of opening braces minus the number of closing ones. -/
def braceDelta (cs : List Char) : Int :=
  cs.foldl (fun d c => if c = '{' then d + 1 else if c = '}' then d - 1 else d) 0

/-- Whether a text starts a keyframes block, with or without a vendor's name between
dashes in front of the word. -/
def isKeyframesHeader (cs : List Char) : Bool :=
  match cs with
  | '@' :: '-' :: rest => "keyframes".toList.isPrefixOf ((rest.dropWhile (· != '-')).drop 1)
  | '@' :: rest => "keyframes".toList.isPrefixOf rest
  | _ => false

/-- Whether a text starts a media or a keyframes block. -/
def isBlockAtRule (cs : List Char) : Bool :=
  "@media".toList.isPrefixOf cs || isKeyframesHeader cs

/-- Whether a line ends a statement such as an import. -/
def endsStatement (cs : List Char) : Bool := (trim cs).getLast? = some ';'

/-! ## Constructs -/

/-- What is scanned: a whole stylesheet, or the body of a media block. In a body the lines
are trimmed and at-rules are nothing special. -/
inductive Layout
  | sheet
  | body
deriving DecidableEq, Repr

/-- What stands between two lines of one construct. -/
def Layout.separator : Layout → List Char
  | .sheet => ['\n']
  | .body => ['\n', ' ', ' ', ' ', ' ']

/-- A line of code as the layout keeps it. -/
def Layout.shape : Layout → List Char → List Char
  | .sheet, code => code
  | .body, code => trim code

/-- A construct is a selector list with its block, or an at-rule with its block. -/
inductive Construct.Kind
  | rule
  | atRule
deriving DecidableEq, Repr

/-- A complete construct: its text, and the number of the line it starts on. -/
structure Construct where
  kind : Construct.Kind
  text : List Char
  line : Nat
deriving DecidableEq, Repr

/-- A closing brace without its opening one, on the line of that number. -/
structure UnbalancedBrace where
  line : Nat
deriving DecidableEq, Repr

/-! ## The scanner -/

/-- What the scanner is in the middle of. The lines taken so far stand newest first. -/
inductive Progress
  /-- Between constructs, after the lines of a selector whose block has not come yet. -/
  | between (pending : List (List Char)) (line : Nat)
  /-- In a rule that starts on `line`, `depth` braces deep. -/
  | inRule (lines : List (List Char)) (depth : Int) (line : Nat)
  /-- In an at-rule; `opened` says whether its first brace has come. -/
  | inAtRule (lines : List (List Char)) (depth : Int) (opened : Bool) (line : Nat)
deriving DecidableEq, Repr

/-- Between constructs, with nothing pending. -/
def Progress.none : Progress := .between [] 0

/-- The state of a scan. -/
structure Scanner where
  layout : Layout
  progress : Progress := .none
  /-- Whether the last line ended inside a comment. -/
  inComment : Bool := false
  /-- The number of lines taken. -/
  line : Nat := 0
deriving DecidableEq, Repr

/-- A coarse view of the state. -/
inductive Phase
  | neutral
  | inComment
  | inRule
  | inAtRule
deriving DecidableEq, Repr

namespace Scanner

/-- The start of a scan. -/
def start (layout : Layout) : Scanner := { layout }

/-- Where the scan stands; an open comment hides what is around it. -/
def phase (s : Scanner) : Phase :=
  if s.inComment then .inComment
  else match s.progress with
    | .between .. => .neutral
    | .inRule .. => .inRule
    | .inAtRule .. => .inAtRule

/-- The text of the lines taken for one construct. -/
def textOf (s : Scanner) (lines : List (List Char)) : List Char :=
  joinWith s.layout.separator lines.reverse

/-- What a line brings: the new state, and the construct that it completes, if any. The
state counts also after an unbalanced brace. -/
abbrev Outcome := Scanner × Except UnbalancedBrace (Option Construct)

/-- Hands back the construct in progress once its braces balance. -/
def close (s : Scanner) : Outcome :=
  match s.progress with
  | .between .. => (s, .ok none)
  | .inRule lines depth line =>
    if depth < 0 then (s, .error ⟨s.line⟩)
    else if depth = 0 then
      ({ s with progress := .none }, .ok (some ⟨.rule, s.textOf lines, line⟩))
    else (s, .ok none)
  | .inAtRule lines depth opened line =>
    if depth < 0 then (s, .error ⟨s.line⟩)
    else if opened && depth = 0 then
      ({ s with progress := .none }, .ok (some ⟨.atRule, s.textOf lines, line⟩))
    else (s, .ok none)

/-- Whether a line of code opens an at-rule block here. -/
def opensAtRule (s : Scanner) (code : List Char) : Bool :=
  s.layout = .sheet && isBlockAtRule (trimStart code)

/-- Takes a line of code that is not blank. -/
def take (s : Scanner) (code : List Char) : Outcome :=
  match s.progress with
  | .between pending line =>
    if s.opensAtRule code then
      { s with progress := .inAtRule [code] (braceDelta code) (code.contains '{') s.line }.close
    else if code.contains '{' then
      { s with
        progress := .inRule (code :: pending) (braceDelta code)
          (if pending.isEmpty then s.line else line) }.close
    else if code.contains '}' then (s, .error ⟨s.line⟩)
    else if endsStatement code then ({ s with progress := .none }, .ok none)
    else
      ({ s with
        progress := .between (code :: pending) (if pending.isEmpty then s.line else line) },
        .ok none)
  | .inRule lines depth line =>
    { s with progress := .inRule (code :: lines) (depth + braceDelta code) line }.close
  | .inAtRule lines depth opened line =>
    { s with
      progress := .inAtRule (code :: lines) (depth + braceDelta code)
        (opened || code.contains '{') line }.close

/-- The state with the line counted and its comments stripped, and the line's code as the
layout keeps it; no code if it is blank. -/
def read (s : Scanner) (line : List Char) : Scanner × Option (List Char) :=
  let (code, stillOpen) := stripLine s.inComment line
  ({ s with inComment := stillOpen, line := s.line + 1 },
    if isBlankText code then none else some (s.layout.shape code))

/-- Takes one line. -/
def feed (s : Scanner) (line : List Char) : Outcome :=
  match s.read line with
  | (s, none) => (s, .ok none)
  | (s, some code) => s.take code

/-- Takes lines one after another up to the first unbalanced brace. `found` holds the
constructs so far, newest first. -/
def feedAll (s : Scanner) (found : List Construct) :
    List (List Char) → Except UnbalancedBrace (List Construct × Scanner)
  | [] => .ok (found.reverse, s)
  | line :: lines =>
    match s.feed line with
    | (_, .error e) => .error e
    | (s, .ok c) => s.feedAll (c.toList ++ found) lines

end Scanner

/-- The constructs of a text in order. What is not complete at the end is dropped. -/
def scan (layout : Layout) (css : List Char) : Except UnbalancedBrace (List Construct) :=
  ((Scanner.start layout).feedAll [] (lines css)).map Prod.fst

end UsedCss.Css
