import UsedCss.Collect
import UsedCss.Css.Filter
/-!
# Both stages

`extract` collects the classes of a page and keeps the rules of a stylesheet that use them.
-/

namespace UsedCss

open UsedCss.Text UsedCss.Css

/-- Why nothing is extracted. -/
inductive ExtractError
  | collect (e : CollectError)
  | filter (e : FilterError)
  | emptyCss
  | noClasses
deriving DecidableEq, Repr

/-- The error of the stage that failed, if one did. -/
def ExtractError.cause : ExtractError → Option String
  | .collect e => some e.message
  | .filter e => some e.message
  | .emptyCss | .noClasses => none

/-- The wording of an error. -/
def ExtractError.message : ExtractError → String
  | .collect e => "Failed to parse HTML and extract classes: " ++ e.message
  | .filter e => "Failed to extract CSS rules: " ++ e.message
  | .emptyCss => "No CSS content to filter"
  | .noClasses => "No classes found in the HTML input"

/-- The classes of a page, and the part of a stylesheet that uses them. -/
structure Extraction where
  classes : ClassSet
  css : List Char
deriving DecidableEq

/-- The part of a stylesheet that uses given classes. There must be both. -/
def extractFor (css : List Char) (classes : ClassSet) (options : ExtractOptions := {}) :
    Except ExtractError (List Char) :=
  if (trim css).isEmpty then .error .emptyCss
  else if classes.isEmpty then .error .noClasses
  else (filter css classes options.filter).mapError .filter

/-- The classes of a page, and the part of a stylesheet that uses them. -/
def extract (html css : List Char) (options : ExtractOptions := {}) :
    Except ExtractError Extraction := do
  let classes ← (collect html options.collect).mapError .collect
  return ⟨classes, ← extractFor css classes options⟩

end UsedCss
