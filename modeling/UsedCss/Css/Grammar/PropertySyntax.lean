import UsedCss.Css.Grammar.Image
import UsedCss.Css.Grammar.Transform
/-!
# The syntax of a described property

The description of a property says in a string what its values are: anything at all, or one of
some components, each a type in angle brackets or a word, perhaps repeated. `parse?` reads such
a string, and `firstValue` reads a value of that syntax.
-/

namespace UsedCss.Css

/-- The types of values that a described property can have. -/
inductive ValueType
  | length
  | number
  | percentage
  | lengthPercentage
  | color
  | image
  | url
  | integer
  | angle
  | time
  | resolution
  | transform
  | transforms
  | customIdent
  | word (text : String)
deriving DecidableEq, Repr

/-- How often a value is repeated. -/
inductive Repetition
  | once
  | withBlanks
  | withCommas
deriving DecidableEq, Repr

/-- The values that a described property can have. -/
inductive PropertySyntax
  | anything
  | oneOf (components : List (ValueType × Repetition))
deriving DecidableEq, Repr

/-- The types in angle brackets. -/
def valueTypes : List (String × ValueType) :=
  [("length", .length), ("number", .number), ("percentage", .percentage),
    ("length-percentage", .lengthPercentage), ("color", .color), ("image", .image),
    ("url", .url), ("integer", .integer), ("angle", .angle), ("time", .time),
    ("resolution", .resolution), ("transform-function", .transform),
    ("transform-list", .transforms), ("custom-ident", .customIdent)]

namespace PropertySyntax

/-- The blanks of a description. -/
def isSpace (c : Char) : Bool := c == ' ' || c == '\t'

/-- Whether a word can start with a character. -/
def startsWord (c : Char) : Bool := c.isAlpha || c == '_' || 0x80 ≤ c.val

/-- Whether a word can hold a character. -/
def inWord (c : Char) : Bool := startsWord c || c.isDigit || c == '-'

/-- Reads a type, and gives what comes after it. -/
def valueType? (text : List Char) : Option (ValueType × List Char) :=
  match text with
  | '<' :: rest =>
    let (name, after) := rest.span (· != '>')
    if after.isEmpty then none
    else (valueTypes.lookup (String.ofList name).toLower).map fun t => (t, after.tail)
  | c :: rest =>
    if startsWord c then
      some (.word (String.ofList (c :: rest.takeWhile inWord)), rest.dropWhile inWord)
    else none
  | [] => none

/-- Reads how often a type is repeated. A list of transformations is never repeated. -/
def repetition (t : ValueType) (text : List Char) : Repetition × List Char :=
  if t = .transforms then (.once, text)
  else
    match text with
    | '+' :: rest => (.withBlanks, rest)
    | '#' :: rest => (.withCommas, rest)
    | _ => (.once, text)

/-- Reads the components of a syntax, at most `count` of them, with bars between them. After the
last bar there has to be one more. -/
def components? : Nat → List Char → Option (List (ValueType × Repetition))
  | 0, _ => none
  | count + 1, text => do
    let (t, rest) ← valueType? (text.dropWhile isSpace)
    let (r, rest) := repetition t rest
    match rest.dropWhile isSpace with
    | [] => some [(t, r)]
    | '|' :: more => ((t, r) :: ·) <$> components? count more
    | _ => none

/-- The syntax that a text describes. -/
def parse? (text : String) : Option PropertySyntax :=
  let cs := (text.toList.dropWhile isSpace).reverse.dropWhile isSpace |>.reverse
  if cs = ['*'] then some .anything else (components? (cs.length + 1) cs).map .oneOf

end PropertySyntax

namespace Parse

/-- A value of a type. -/
def valueOfType : ValueType → Parse Unit
  | .length => length
  | .number => number
  | .percentage => percentage
  | .lengthPercentage => lengthPercentage
  | .color => color
  | .image => image
  | .url => address false
  | .integer => do let _ ← integer
  | .angle => angle
  | .time => time
  | .resolution => resolution
  | .transform => transform
  | .transforms => transforms
  | .customIdent => do let _ ← customIdent
  | .word text => do
    if (← ident) ≠ text then fail .value

/-- Values of a type. A single one may be followed by anything; repeated ones have to reach to
the end. -/
def valuesOfType (t : ValueType) : Repetition → Parse Unit
  | .once => valueOfType t
  | .withBlanks => loop do
    valueOfType t
    return !(← isExhausted)
  | .withCommas => loop do
    valueOfType t
    match (← next?).map Component.token with
    | none => return false
    | some .comma => return true
    | some _ => fail .value

/-- A first value for a property of this syntax. Where nothing fits, it is refused for its first
token. -/
def firstValue : PropertySyntax → Parse Unit
  | .anything => value
  | .oneOf components =>
    firstOf (components.map fun (t, r) => valuesOfType t r) do unexpected (← next).token

end Parse

end UsedCss.Css
