import UsedCss.Css.Grammar.Token
/-!
# Syntax errors

What can be wrong with a stylesheet, and where. `SyntaxError.message` is the wording.
-/

namespace UsedCss.Css

/-- What is wrong with a selector. -/
inductive SelectorError
  | empty
  | danglingCombinator
  /-- A part that may not stand after what came before it. -/
  | misplaced
  | classWithoutName (found : Token)
  | pseudoWithoutName (found : Token)
  /-- Something other than a pseudo-class after a pseudo-element. -/
  | afterElement (found : Token)
  | pseudoClassAfterElement
  | pseudoClassAfterScrollbar
  | scrollbarPseudoClass
  | withoutNesting
  | namespaceWithoutName (found : Token)
  | attributeWithoutName (found : Token)
  | attributeNameExpected (found : Token)
  | attributeBarExpected (found : Token)
  | attributeOperator (found : Token)
  | attributeValue (found : Token)
deriving DecidableEq, Repr

/-- The wording of what is wrong with a selector. -/
def SelectorError.message : SelectorError → String
  | .empty => "Invalid empty selector"
  | .danglingCombinator => "Invalid dangling combinator in selector"
  | .misplaced => "Invalid state"
  | .classWithoutName t => "Expected identifier in class selector, got " ++ t.describe
  | .pseudoWithoutName t => "Invalid token in pseudo element: " ++ t.describe
  | .afterElement t =>
    "Pseudo-elements like '::before' or '::after' can't be followed by selectors like '" ++
      t.describe ++ "'"
  | .pseudoClassAfterElement =>
    "Invalid pseudo class after pseudo element, only user action pseudo classes " ++
      "(e.g. :hover, :active) are allowed"
  | .pseudoClassAfterScrollbar =>
    "Invalid pseudo class after ::-webkit-scrollbar pseudo element"
  | .scrollbarPseudoClass =>
    "Pseudo class must be prefixed by a ::-webkit-scrollbar pseudo element"
  | .withoutNesting =>
    "A nesting selector (&) is required in each selector of a @nest rule"
  | .namespaceWithoutName t => "Unexpected token in namespace selector: " ++ t.describe
  | .attributeWithoutName t => "No qualified name in attribute selector: " ++ t.describe ++ "."
  | .attributeNameExpected t => "Invalid qualified name in attribute selector: " ++ t.describe
  | .attributeBarExpected t => "Expected | in attribute, got " ++ t.describe
  | .attributeOperator t => "Unexpected token in attribute selector: " ++ t.describe
  | .attributeValue t => "Invalid value in attribute selector: " ++ t.describe

/-- What is wrong with a stylesheet. -/
inductive SyntaxError.Cause
  | endOfInput
  | unexpectedToken (found : Token)
  | unknownAtRule (name : String)
  | atRuleBody
  | qualifiedRule
  | declaration
  | mediaQuery
  | value
  | lateImport
  | lateNamespace
  | nestingTooDeep
  | selector (cause : SelectorError)
deriving DecidableEq, Repr

/-- The wording of what is wrong. -/
def SyntaxError.Cause.message : SyntaxError.Cause → String
  | .endOfInput => "Unexpected end of input"
  | .unexpectedToken t => "Unexpected token " ++ t.describe
  | .unknownAtRule name => "Unknown at rule: @" ++ name
  | .atRuleBody => "Invalid @ rule body"
  | .qualifiedRule => "Invalid qualified rule"
  | .declaration => "Invalid declaration"
  | .mediaQuery => "Invalid media query"
  | .value => "Invalid value"
  | .lateImport =>
    "@import rules must precede all rules aside from @charset and @layer statements"
  | .lateNamespace =>
    "@namespaces rules must precede all rules aside from @charset, @import, and @layer statements"
  | .nestingTooDeep => "Overflowed the maximum nesting depth"
  | .selector cause => cause.message

/-- Something wrong, and where reading stood when it was noticed. -/
structure SyntaxError where
  cause : SyntaxError.Cause
  position : Position
deriving DecidableEq, Repr

/-- The wording of an error: what is wrong, and the place, with lines counted from zero. -/
def SyntaxError.message (e : SyntaxError) : String :=
  e.cause.message ++ " at :" ++ toString e.position.line ++ ":" ++ toString e.position.column

end UsedCss.Css
