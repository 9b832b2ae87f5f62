import UsedCss.Css.Log
import UsedCss.Css.Selector
import UsedCss.Css.Verify
import UsedCss.Options
/-!
# Filtering a stylesheet

`filter` keeps the rules of a stylesheet that mention a class of the target set, each copied
as it stands, in order and with a blank line after it. `filterLog` is what it tells on the
way.
-/

namespace UsedCss.Css

open UsedCss.Text

/-! ## At-rules with a block

`pruneBlock` decides what is left of an at-rule block: keyframes stay whole, and a media block is
rebuilt around those of its rules that are included, if there are any. -/

/-- A block as its parts: the trimmed text in front of its first brace, and the trimmed text
between that and its last brace. -/
structure MediaBlock where
  header : List Char
  body : List Char
deriving DecidableEq, Repr

/-- The parts of a text with a block. -/
def MediaBlock.ofText? (text : List Char) : Option MediaBlock :=
  match text.dropWhile (· != '{') with
  | [] => none
  | _ :: inner =>
    (beforeLast '}' inner).map fun body => ⟨trim (text.takeWhile (· != '{')), trim body⟩

/-- What stands between the rules of a rebuilt block. -/
def ruleSeparator : List Char := "\n\n    ".toList

/-- A block with that header around rules. -/
def renderBlock (header : List Char) (rules : List (List Char)) : List Char :=
  header ++ " \x7b\n    ".toList ++ joinWith ruleSeparator rules ++ "\n\x7d".toList

/-- The texts of the rules that are included. -/
def includedRules (target : ClassSet) (constructs : List Construct) : List (List Char) :=
  (constructs.filter fun c => c.kind = .rule && isIncluded c.text target).map Construct.text

/-- What is left of an at-rule block, if anything is. The line of an unbalanced brace counts
from the start of the block's body. -/
def pruneBlock (text : List Char) (target : ClassSet) :
    Except UnbalancedBrace (Option (List Char)) :=
  if isKeyframesHeader (trimStart text) then .ok (some text)
  else
    match MediaBlock.ofText? text with
    | none => .ok none
    | some block =>
      if block.body.isEmpty then .ok none
      else do
        let constructs ← scan .body block.body
        match includedRules target constructs with
        | [] => .ok none
        | rules => .ok (some (renderBlock block.header rules))

/-! ## Stylesheets -/

/-- Why a stylesheet is not filtered. -/
inductive FilterError
  | inputTooLarge (size limit : Nat)
  | unbalancedBrace (line : Nat)
  | invalidOutput (cause : SyntaxError)
deriving DecidableEq, Repr

/-- The wording of an error. -/
def FilterError.message : FilterError → String
  | .inputTooLarge size limit =>
    "CSS input is " ++ toString size ++ " bytes, above the " ++ toString limit ++ " byte limit"
  | .unbalancedBrace line => "Unbalanced closing brace on line " ++ toString line
  | .invalidOutput cause => "Filtered CSS failed verification: " ++ cause.message

/-- What is left of a construct, if anything is. An unbalanced brace inside a block counts
for the line that the block starts on. -/
def prune (target : ClassSet) (c : Construct) : Except FilterError (Option (List Char)) :=
  match c.kind with
  | .rule => .ok (if isIncluded c.text target then some c.text else none)
  | .atRule => (pruneBlock c.text target).mapError fun _ => .unbalancedBrace c.line

/-- What is left of constructs, in order. -/
def pruneAll (target : ClassSet) (constructs : List Construct) :
    Except FilterError (List (List Char)) :=
  return (← constructs.mapM (prune target)).filterMap id

/-- Texts one after another, each with a blank line after it, without the blank ends. -/
def renderSheet (texts : List (List Char)) : List Char :=
  trim (texts.flatMap (· ++ ['\n', '\n']))

/-- The stylesheet without what mentions no class of the target set. -/
def filter (css : List Char) (target : ClassSet) (options : FilterOptions := {}) :
    Except FilterError (List Char) := do
  match options.maxBytes.brokenBy (byteSize css) with
  | some limit => .error (.inputTooLarge (byteSize css) limit)
  | none =>
    let constructs ← (scan .sheet css).mapError fun e => .unbalancedBrace e.line
    let output := renderSheet (← pruneAll target constructs)
    if options.verify then
      (verify output).mapError .invalidOutput *> pure output
    else pure output

/-- What filtering has to tell about one construct. -/
def pruneLog (target : ClassSet) (c : Construct) : List Event :=
  match c.kind with
  | .rule => if isIncluded c.text target then [] else [.ruleDropped c.line]
  | .atRule =>
    if isKeyframesHeader (trimStart c.text) then []
    else
      match MediaBlock.ofText? c.text with
      | none => []
      | some block =>
        if block.body.isEmpty then []
        else
          scanLog .body block.body ++
            match scan .body block.body with
            | .error _ => []
            | .ok constructs =>
              if (includedRules target constructs).isEmpty then [.blockDropped block.header]
              else []

/-- What filtering has to tell about constructs, up to the first that fails. -/
def pruneAllLog (target : ClassSet) : List Construct → List Event
  | [] => []
  | c :: cs =>
    pruneLog target c ++ if (prune target c).isOk then pruneAllLog target cs else []

/-- What filtering has to tell. -/
def filterLog (css : List Char) (target : ClassSet) (options : FilterOptions := {}) :
    List Event :=
  if (options.maxBytes.brokenBy (byteSize css)).isSome then []
  else
    scanLog .sheet css ++
      match scan .sheet css with
      | .error _ => []
      | .ok constructs =>
        pruneAllLog target constructs ++
          match pruneAll target constructs with
          | .error _ => []
          | .ok texts =>
            let output := renderSheet texts
            .kept texts.length constructs.length (byteSize css) (byteSize output) ::
              if options.verify then
                match verify output with
                | .error _ => []
                | .ok summary => [.verified summary]
              else []

end UsedCss.Css
