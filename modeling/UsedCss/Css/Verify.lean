import UsedCss.Css.Grammar.Block
/-!
# Verifying a stylesheet

`verify` reads a stylesheet by the grammar of CSS, without any recovery from errors, and counts
the rules at its outer level. The filter counts braces only, so a brace in a string can make it
cut in the wrong place; this finds out.
-/

namespace UsedCss.Css

/-- The kinds of rules that a stylesheet has at its outer level, counted. -/
structure SheetSummary where
  styleRules : Nat := 0
  mediaRules : Nat := 0
  keyframes : Nat := 0
  fontFaces : Nat := 0
  other : Nat := 0
deriving DecidableEq, Repr

/-- The counts in words. -/
def SheetSummary.render (s : SheetSummary) : String :=
  "SheetSummary \x7b style_rules: " ++ toString s.styleRules ++
    ", media_rules: " ++ toString s.mediaRules ++ ", keyframes: " ++ toString s.keyframes ++
    ", font_faces: " ++ toString s.fontFaces ++ ", other: " ++ toString s.other ++ " \x7d"

/-- How far a stylesheet has been read: its stage, the rules so far, and whether there was
anything but blanks and comments. -/
structure SheetProgress where
  stage : Stage := .start
  summary : SheetSummary := {}
  started : Bool := false
deriving DecidableEq, Repr

namespace SheetProgress

/-- One more style rule. -/
def withStyle (s : SheetProgress) : SheetProgress :=
  { stage := .body
    summary := { s.summary with styleRules := s.summary.styleRules + 1 }
    started := true }

/-- One more at-rule, which leads to a stage. -/
def withAtRule (s : SheetProgress) (stage : Stage) (rule : AtRule) : SheetProgress :=
  let n := s.summary
  let summary :=
    match rule with
    | .media => { n with mediaRules := n.mediaRules + 1 }
    | .keyframes => { n with keyframes := n.keyframes + 1 }
    | .fontFace => { n with fontFaces := n.fontFaces + 1 }
    | _ => { n with other := n.other + 1 }
  { stage, summary, started := true }

/-- An at-rule without a block, if it can be without. Layers after the first import end the
imports, and a character set counts for nothing. -/
def withStatement (s : SheetProgress) (rule : AtRule) : Option SheetProgress :=
  match rule with
  | .importSheet => some (s.withAtRule .imports rule)
  | .namespaceName => some (s.withAtRule .namespaces rule)
  | .layer 0 => none
  | .layer _ =>
    some (s.withAtRule (if s.stage.rank ≤ Stage.layers.rank then .layers else .body) rule)
  | .charset => some { s with started := true }
  | .unknown => some (s.withAtRule s.stage rule)
  | _ => none

end SheetProgress

namespace Parse

/-- Whether a token means nothing between rules. -/
def isBetweenRules : Token → Bool
  | .blank _ | .comment _ | .commentOpen | .commentClose => true
  | _ => false

/-- Skips the rest of an at-rule whatever it holds. -/
def skipAtRule : Parse Unit := do
  let _ ← before (fun t => t = .openCurly || t = .semicolon) (moveTo [])
  let _ ← next?

/-- An at-rule at the outer level, whose name has just been read. A character set at the very
start is skipped. -/
def outerAtRule (levels : Nat) (s : SheetProgress) (name : String) : Parse SheetProgress := do
  if !s.started && sameName name "charset" then skipAtRule *> return { s with started := true }
  else
    let block (rule : AtRule) : Parse SheetProgress := do
      atRuleBlock (ruleBlock levels) false rule
      return s.withAtRule .body rule
    atRule (outerPrelude levels s.stage name) block s.withStatement

/-- One rule at the outer level, if there is one. -/
def outerRule (levels : Nat) (s : SheetProgress) : Parse (SheetProgress × Bool) := do
  moveTo ((← get).rest.dropWhile fun c => isBetweenRules c.token)
  match (← get).rest.head?.map Component.token with
  | none => return (s, false)
  | some (.atKeyword name) =>
    let _ ← nextAny
    return (← outerAtRule levels s name, true)
  | some _ =>
    qualifiedRule false (selectors levels {}) (ruleBlock levels true)
    return (s.withStyle, true)

/-- A stylesheet that nests no deeper than a number of levels. -/
def sheet (levels : Nat) : Parse SheetSummary :=
  return (← repeated (outerRule levels) {}).summary

end Parse

/-- The rules at the outer level of a stylesheet, counted, or what is wrong with it. A text
nests no deeper than it is long. -/
def verify (css : List Char) : Except SyntaxError SheetSummary :=
  let (cs, last) := components css
  (fun (s, _) => s) <$> Parse.sheet (css.length + 1) ⟨cs, {}, last⟩

end UsedCss.Css
