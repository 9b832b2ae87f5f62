import UsedCss.Css.Grammar.Numeral
import UsedCss.Text.Basic
import UsedCss.Text.Mark
/-!
# Tokens and positions

The tokens of CSS, as its syntax module defines them, and `Token.describe`, which writes a
token the way error messages show it. A `Position` is where a character stands in a stylesheet.
-/

namespace UsedCss.Css

open UsedCss.Text

/-- A token. The brackets that open a block, and the name of a function with its bracket, are
tokens of their own. -/
inductive Token
  | ident (name : String)
  | atKeyword (name : String)
  /-- A number sign with a name that is no identifier. -/
  | hash (name : String)
  /-- A number sign with an identifier. -/
  | idHash (name : String)
  | string (text : String)
  | badString (text : String)
  | url (address : String)
  | badUrl (text : String)
  | delim (c : Char)
  | number (value : Numeral)
  | percentage (value : Numeral)
  | dimension (value : Numeral) (unit : String)
  | blank (text : String)
  | comment (text : String)
  | colon
  | semicolon
  | comma
  | includeMatch
  | dashMatch
  | prefixMatch
  | suffixMatch
  | substringMatch
  | commentOpen
  | commentClose
  | function (name : String)
  | openParen
  | openSquare
  | openCurly
  | closeParen
  | closeSquare
  | closeCurly
deriving DecidableEq, Repr

/-- Whether a character is written by its number: control characters, blanks other than the
space, and characters that do not stand for themselves. -/
def isHidden (c : Char) : Bool :=
  c.toNat < 0x20 || (isBlank c && c ≠ ' ') || isInvisible c || isCombining c

/-- A character between quotes of the given kind. -/
def escaped (quote c : Char) : List Char :=
  if c = quote || c = '\\' then ['\\', c]
  else if c = '\x00' then ['\\', '0']
  else if c = '\n' then ['\\', 'n']
  else if c = '\r' then ['\\', 'r']
  else if c = '\t' then ['\\', 't']
  else if isHidden c then "\\u\x7b".toList ++ Nat.toDigits 16 c.toNat ++ ['\x7d']
  else [c]

/-- A text in double quotes. -/
def quoted (s : String) : String :=
  String.ofList ('"' :: s.toList.flatMap (escaped '"') ++ ['"'])

namespace Token

/-- The fields that describe a numeral. -/
def describeNumeral (label value : String) (n : Numeral) : String :=
  " \x7b has_sign: " ++ toString n.signed ++ ", " ++ label ++ ": " ++ value ++ ", int_value: " ++
    match n.integer? with
    | some i => "Some(" ++ toString i ++ ")"
    | none => "None"

/-- A token in words. -/
def describe : Token → String
  | .ident s => "Ident(" ++ quoted s ++ ")"
  | .atKeyword s => "AtKeyword(" ++ quoted s ++ ")"
  | .hash s => "Hash(" ++ quoted s ++ ")"
  | .idHash s => "IDHash(" ++ quoted s ++ ")"
  | .string s => "String(" ++ quoted s ++ ")"
  | .badString s => "BadString(" ++ quoted s ++ ")"
  | .url s => "UnquotedUrl(" ++ quoted s ++ ")"
  | .badUrl s => "BadUrl(" ++ quoted s ++ ")"
  | .delim c => String.ofList ("Delim('".toList ++ escaped '\'' c ++ ['\'', ')'])
  | .number n => "Number" ++ describeNumeral "value" n.value n ++ " \x7d"
  | .percentage n => "Percentage" ++ describeNumeral "unit_value" n.hundredth n ++ " \x7d"
  | .dimension n unit =>
    "Dimension" ++ describeNumeral "value" n.value n ++ ", unit: " ++ quoted unit ++ " \x7d"
  | .blank s => "WhiteSpace(" ++ quoted s ++ ")"
  | .comment s => "Comment(" ++ quoted s ++ ")"
  | .colon => "Colon"
  | .semicolon => "Semicolon"
  | .comma => "Comma"
  | .includeMatch => "IncludeMatch"
  | .dashMatch => "DashMatch"
  | .prefixMatch => "PrefixMatch"
  | .suffixMatch => "SuffixMatch"
  | .substringMatch => "SubstringMatch"
  | .commentOpen => "CDO"
  | .commentClose => "CDC"
  | .function s => "Function(" ++ quoted s ++ ")"
  | .openParen => "ParenthesisBlock"
  | .openSquare => "SquareBracketBlock"
  | .openCurly => "CurlyBracketBlock"
  | .closeParen => "CloseParenthesis"
  | .closeSquare => "CloseSquareBracket"
  | .closeCurly => "CloseCurlyBracket"

/-- The bracket that closes what a token opens. -/
def closer? : Token → Option Token
  | .function _ | .openParen => some .closeParen
  | .openSquare => some .closeSquare
  | .openCurly => some .closeCurly
  | _ => none

/-- Whether a token has no place in any value. -/
def isBad : Token → Bool
  | .badUrl _ | .badString _ | .closeParen | .closeSquare | .closeCurly => true
  | _ => false

/-- Whether a token stands for nothing between others: blanks and comments do. -/
def isBlank : Token → Bool
  | .blank _ | .comment _ => true
  | _ => false

/-- Whether a token is a comment. -/
def isComment : Token → Bool
  | .comment _ => true
  | _ => false

end Token

/-- Whether two names are the same apart from the case of ASCII letters. -/
def sameName (a b : String) : Bool := a.toLower = b.toLower

/-! ## Positions -/

/-- A line, counted from zero, and a column, counted from one in units of UTF-16. -/
structure Position where
  line : Nat := 0
  column : Nat := 1
deriving DecidableEq, Repr

/-- The position after a character; `next` is the character that follows. A carriage return
and the newline after it end one line together. -/
def Position.after (p : Position) (c : Char) (next : Option Char) : Position :=
  if c = '\n' || c = '\x0c' || (c = '\r' && next ≠ some '\n') then ⟨p.line + 1, 1⟩
  else if c = '\r' then p
  else { p with column := p.column + if c.val < 0x10000 then 1 else 2 }

/-- A position in a text that starts at `origin` itself. -/
def Position.relativeTo (origin p : Position) : Position :=
  if p.line = origin.line then ⟨0, p.column + 1 - origin.column⟩
  else { p with line := p.line - origin.line }

/-- A character and where it stands. -/
abbrev Glyph := Char × Position

/-- The characters of a text that starts at a position, newest first on top of those in
front of it, and the position of its end. -/
def locate (p : Position) (before : List Glyph) : List Char → List Glyph × Position
  | [] => (before.reverse, p)
  | c :: cs => locate (p.after c cs.head?) ((c, p) :: before) cs

end UsedCss.Css
