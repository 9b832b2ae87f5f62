import UsedCss.Html.LexerState
import UsedCss.Html.Mode
import UsedCss.Html.Name
/-!
# Errors in HTML

Every page can be parsed; what the parser had to repair on the way is a `ParseError` each.
-/

namespace UsedCss.Html

/-- Something in a page that had to be repaired. -/
inductive ParseError
  /-- A character that does not belong where it stands. -/
  | saw (c : Char) (state : LexerState)
  | sawEnd (state : LexerState)
  /-- A control character or a noncharacter. -/
  | badCharacter (c : Char)
  | duplicateAttribute
  | attributesOnEndTag
  | selfClosingEndTag
  | numericWithoutSemicolon
  | numericWithoutDigits
  /-- A number that stands for no character, or for one that should not be written so. -/
  | numericInvalid (value : Nat)
  | numericAtEnd
  | hashAtEnd
  /-- A reference to a name that does not exist; the name has its semicolon. -/
  | unknownName (name : String)
  | nameWithoutSemicolon
  | unexpectedToken (mode : InsertionMode)
  | unexpectedDoctype (mode : InsertionMode)
  | badDoctype
  | unacknowledgedSelfClosing
  | formattingNotOpen
  | formattingNotInScope
  | formattingNotCurrent
  | openAtEndOfBody (name : QName)
  | openWhileClosing (name : String)
  | charactersInTable
  | textInTable
  | cellNotCurrent
  | specialWhileClosing
  | bodyNotInScope
  | htmlNotInScope
  | nestedHeadings
  | nestedForms
  | nestedButtons
  | nestedNobr
  | noForm
  | formNotInScope
  | formNotCurrent
  | noParagraphToClose
  | nothingToClose
  | wrongHeading
  | noHeadingToClose
  /-- A complaint that came in words. -/
  | other (text : String)
deriving DecidableEq, Repr

/-- A number in upper-case hexadecimal digits, at least six. -/
def hexSix (n : Nat) : String :=
  let digits := (Nat.toDigits 16 n).map Char.toUpper
  String.ofList (List.replicate (6 - digits.length) '0' ++ digits)

/-- The wording of an error. -/
def ParseError.message : ParseError → String
  | .saw c state => "Saw " ++ c.toString ++ " in state " ++ state.name
  | .sawEnd state => "Saw EOF in state " ++ state.name
  | .badCharacter c => "Bad character " ++ c.toString
  | .duplicateAttribute => "Duplicate attribute"
  | .attributesOnEndTag => "Attributes on an end tag"
  | .selfClosingEndTag => "Self-closing end tag"
  | .numericWithoutSemicolon => "Semicolon missing after numeric character reference"
  | .numericWithoutDigits => "Numeric character reference without digits"
  | .numericInvalid value => "Invalid numeric character reference value 0x" ++ hexSix value
  | .numericAtEnd => "EOF in numeric character reference"
  | .hashAtEnd => "EOF after '#' in character reference"
  | .unknownName name => "Invalid character reference &" ++ name
  | .nameWithoutSemicolon => "Character reference does not end with semicolon"
  | .unexpectedToken mode => "Unexpected token in insertion mode " ++ mode.name
  | .unexpectedDoctype mode => "DOCTYPE in insertion mode " ++ mode.name
  | .badDoctype => "Bad DOCTYPE"
  | .unacknowledgedSelfClosing => "Unacknowledged self-closing tag"
  | .formattingNotOpen => "Formatting element not open"
  | .formattingNotInScope => "Formatting element not in scope"
  | .formattingNotCurrent => "Formatting element not current node"
  | .openAtEndOfBody q =>
    "Unexpected open tag \x7b" ++ q.space.uri ++ "\x7d:" ++ q.name ++ " at end of body"
  | .openWhileClosing name => "Unexpected open element while closing " ++ name
  | .charactersInTable => "Unexpected characters in table"
  | .textInTable => "Non-space table text"
  | .cellNotCurrent => "expected to close <td> or <th> with cell"
  | .specialWhileClosing => "Found special tag while closing generic tag"
  | .bodyNotInScope => "</body> with no <body> in scope"
  | .htmlNotInScope => "</html> with no <body> in scope"
  | .nestedHeadings => "nested heading tags"
  | .nestedForms => "nested forms"
  | .nestedButtons => "nested buttons"
  | .nestedNobr => "Nested <nobr>"
  | .noForm => "Null form element pointer on </form>"
  | .formNotInScope => "Form element not in scope on </form>"
  | .formNotCurrent => "Bad open element on </form>"
  | .noParagraphToClose => "No <p> tag to close"
  | .nothingToClose => "No matching tag to close"
  | .wrongHeading => "Closing wrong heading tag"
  | .noHeadingToClose => "No heading tag to close"
  | .other text => text

end UsedCss.Html
