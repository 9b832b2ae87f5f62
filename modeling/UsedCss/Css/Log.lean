import UsedCss.Css.Scanner
import UsedCss.Css.Verify
/-!
# The scanner's log

What the scanner tells on the way is data too: an `Event` for each thing worth telling,
with the level it is told at and its wording. `Scanner.feedLog` and `Scanner.finishLog`
say what taking a line and ending a scan have to tell.
-/

namespace UsedCss.Css

open UsedCss.Text

/-- How much an event matters. -/
inductive Level
  | warn
  | debug
  | trace
deriving DecidableEq, Repr

/-- The name of a level. -/
def Level.name : Level → String
  | .warn => "warn"
  | .debug => "debug"
  | .trace => "trace"

/-- Something told while a stylesheet is scanned and filtered. -/
inductive Event
  | selectorTextBefore (line : Nat)
  | statement (line : Nat)
  | unterminatedRule (line : Nat)
  | unterminatedAtRule (line : Nat)
  | selectorTextAtEnd
  | commentAtEnd
  | ruleDropped (line : Nat)
  | blockDropped (header : List Char)
  | kept (constructs total bytesBefore bytesAfter : Nat)
  | verified (summary : SheetSummary)
deriving DecidableEq, Repr

/-- The level of an event. -/
def Event.level : Event → Level
  | .unterminatedRule _ | .unterminatedAtRule _ => .warn
  | .selectorTextAtEnd | .commentAtEnd | .kept .. | .verified _ => .debug
  | .selectorTextBefore _ | .statement _ | .ruleDropped _ | .blockDropped _ => .trace

/-- The wording of an event. -/
def Event.message : Event → String
  | .selectorTextBefore n => "dropping dangling selector text before line " ++ toString n
  | .statement n => "skipping statement on line " ++ toString n
  | .unterminatedRule n => "dropping unterminated rule starting on line " ++ toString n
  | .unterminatedAtRule n => "dropping unterminated at-rule starting on line " ++ toString n
  | .selectorTextAtEnd => "dropping trailing selector text without a block"
  | .commentAtEnd => "input ends inside an unterminated comment"
  | .ruleDropped n => "dropping rule on line " ++ toString n
  | .blockDropped header => "dropping empty block `" ++ String.ofList header ++ "`"
  | .kept n total before after =>
    "kept " ++ toString n ++ " of " ++ toString total ++ " CSS constructs (" ++
      toString before ++ " -> " ++ toString after ++ " bytes)"
  | .verified summary => "verified filtered stylesheet: " ++ summary.render

namespace Scanner

/-- What taking a line of code has to tell. -/
def takeLog (s : Scanner) (code : List Char) : List Event :=
  match s.progress with
  | .between pending _ =>
    if s.opensAtRule code then
      if pending.isEmpty then [] else [.selectorTextBefore s.line]
    else if !code.contains '{' && !code.contains '}' && endsStatement code then
      [.statement s.line]
    else []
  | _ => []

/-- What taking a line has to tell. -/
def feedLog (s : Scanner) (line : List Char) : List Event :=
  match s.read line with
  | (_, none) => []
  | (s, some code) => s.takeLog code

/-- What ending the scan has to tell: what is dropped because it is not complete. -/
def finishLog (s : Scanner) : List Event :=
  (match s.progress with
    | .inRule _ _ line => [.unterminatedRule line]
    | .inAtRule _ _ _ line => [.unterminatedAtRule line]
    | .between pending _ =>
      if isBlankText (s.textOf pending) then [] else [.selectorTextAtEnd]) ++
  (if s.inComment then [.commentAtEnd] else [])

/-- What taking lines up to the first unbalanced brace, and ending the scan if there is
none, has to tell. `told` holds what came before, newest first. -/
def feedAllLog (s : Scanner) (told : List Event) : List (List Char) → List Event
  | [] => told.reverse ++ s.finishLog
  | line :: lines =>
    let told := (s.feedLog line).reverse ++ told
    match s.feed line with
    | (_, .error _) => told.reverse
    | (s, .ok _) => s.feedAllLog told lines

end Scanner

/-- What scanning a text has to tell. -/
def scanLog (layout : Layout) (css : List Char) : List Event :=
  (Scanner.start layout).feedAllLog [] (lines css)

end UsedCss.Css
