import UsedCss.Css.Grammar.Token
/-!
# From text to tokens

`tokens` cuts a stylesheet into tokens, each with its place. Comments are tokens too. Nothing is
ever refused: a string or an address that breaks off becomes a bad token.
-/

namespace UsedCss.Css

/-- A token with the positions of its start and of what follows it. -/
structure Lexeme where
  token : Token
  start : Position
  after : Position
deriving DecidableEq, Repr

namespace Lexer

/-- The characters that end a line. -/
def isNewline (c : Char) : Bool := c == '\n' || c == '\r' || c == '\x0c'

/-- The characters between tokens. -/
def isSpace (c : Char) : Bool := c == ' ' || c == '\t' || isNewline c

/-- The characters that a name can hold, apart from escapes. A zero stands for the
replacement character. -/
def isNameChar (c : Char) : Bool :=
  c.isAlphanum || c == '_' || c == '-' || c == '\x00' || 0x80 ≤ c.val

/-- Whether a name can start with this character and no other before it. -/
def isNameStart (c : Char) : Bool := c.isAlpha || c == '_' || c == '\x00' || 0x80 ≤ c.val

/-- Whether a test holds for the first character of a text. -/
def heads (p : Char → Bool) : List Glyph → Bool
  | [] => false
  | (c, _) :: _ => p c

/-- The characters of a text. -/
def chars (gs : List Glyph) : List Char := gs.map Prod.fst

/-- Whether an identifier starts here. -/
def startsName : List Glyph → Bool
  | [] => false
  | ('-', _) :: rest => heads (fun c => isNameStart c || c == '-' || c == '\\') rest
  | ('\\', _) :: rest => !heads isNewline rest
  | (c, _) :: _ => isNameStart c

/-- The value of a hexadecimal digit. -/
def hexValue (c : Char) : Nat :=
  if c.isDigit then c.toNat - '0'.toNat else c.toLower.toNat - 'a'.toNat + 10

/-- Whether a character is a hexadecimal digit. -/
def isHex (c : Char) : Bool := c.isDigit || ('a' ≤ c.toLower && c.toLower ≤ 'f')

/-- The character with a number, or the replacement character if there is none. -/
def characterOf (n : Nat) : Char :=
  if n = 0 || 0x10FFFF < n || (0xD800 ≤ n && n ≤ 0xDFFF) then '\uFFFD' else Char.ofNat n

/-- A text without one blank at its start. -/
def skipOneSpace : List Glyph → List Glyph
  | ('\r', _) :: ('\n', _) :: rest => rest
  | (c, p) :: rest => if isSpace c then rest else (c, p) :: rest
  | [] => []

theorem length_skipOneSpace_le (gs : List Glyph) : (skipOneSpace gs).length ≤ gs.length := by
  unfold skipOneSpace
  split
  · simp only [List.length_cons]; omega
  · split <;> simp
  · simp

/-- Reads an escape after its backslash: up to six digits with a blank after them, or any one
character. -/
def readEscape (gs : List Glyph) : Char × List Glyph :=
  match gs with
  | [] => ('\uFFFD', [])
  | (c, _) :: rest =>
    if isHex c then
      let digits := ((chars (gs.take 6)).takeWhile isHex)
      (characterOf (digits.foldl (fun n d => n * 16 + hexValue d) 0),
        skipOneSpace (gs.drop digits.length))
    else (if c == '\x00' then '\uFFFD' else c, rest)

/-- An escape leaves no more than there was. -/
theorem length_readEscape_le (gs : List Glyph) : (readEscape gs).2.length ≤ gs.length := by
  unfold readEscape
  split
  · simp
  · split
    · refine Nat.le_trans (length_skipOneSpace_le _) ?_
      simp only [List.length_drop]; omega
    · simp

/-- Reads a name up to the first character that cannot belong to it. -/
def readName (gs : List Glyph) : List Char × List Glyph :=
  match gs with
  | [] => ([], [])
  | ('\\', p) :: rest =>
    if heads isNewline rest then ([], ('\\', p) :: rest)
    else
      let (name, after) := readName (readEscape rest).2
      ((readEscape rest).1 :: name, after)
  | (c, p) :: rest =>
    if isNameChar c then
      let (name, after) := readName rest
      ((if c == '\x00' then '\uFFFD' else c) :: name, after)
    else ([], (c, p) :: rest)
termination_by gs.length
decreasing_by
  · have := length_readEscape_le rest
    simp only [List.length_cons]; omega
  · simp

/-- Reads a string after its opening quote. It breaks off before the end of a line. -/
def readString (quote : Char) (gs : List Glyph) : List Char × Bool × List Glyph :=
  match gs with
  | [] => ([], true, [])
  | ('\\', _) :: rest =>
    if rest.isEmpty then ([], true, [])
    else if heads isNewline rest then readString quote (skipOneSpace rest)
    else
      let (text, whole, after) := readString quote (readEscape rest).2
      ((readEscape rest).1 :: text, whole, after)
  | (c, p) :: rest =>
    if c == quote then ([], true, rest)
    else if isNewline c then ([], false, (c, p) :: rest)
    else
      let (text, whole, after) := readString quote rest
      ((if c == '\x00' then '\uFFFD' else c) :: text, whole, after)
termination_by gs.length
decreasing_by
  · have := length_skipOneSpace_le rest
    simp only [List.length_cons]; omega
  · have := length_readEscape_le rest
    simp only [List.length_cons]; omega
  · simp

/-- Reads the rest of a bad address, up to its closing bracket. -/
def readBadUrl : List Glyph → List Char × List Glyph
  | [] => ([], [])
  | (')', _) :: rest => ([], rest)
  | ('\\', _) :: (')', _) :: rest =>
    let (text, after) := readBadUrl rest
    ('\\' :: ')' :: text, after)
  | ('\\', _) :: ('\\', _) :: rest =>
    let (text, after) := readBadUrl rest
    ('\\' :: '\\' :: text, after)
  | (c, _) :: rest =>
    let (text, after) := readBadUrl rest
    (c :: text, after)

/-- The characters that spoil an address. -/
def spoilsUrl (c : Char) : Bool :=
  c == '"' || c == '\'' || c == '(' || (c.val < 0x20 && !isSpace c && c != '\x00') ||
    c == '\x7f'

/-- Reads an address without quotes, from its first character on. If it is spoiled, or if
anything but blanks stands between it and its bracket, gives what follows the character that is
to blame. -/
def readUrl (gs : List Glyph) : Except (List Glyph) (List Char × List Glyph) :=
  match gs with
  | [] => .ok ([], [])
  | ('\\', _) :: rest =>
    if heads isNewline rest then .error rest
    else
      match readUrl (readEscape rest).2 with
      | .ok (text, after) => .ok ((readEscape rest).1 :: text, after)
      | .error after => .error after
  | (c, _) :: rest =>
    if c == ')' then .ok ([], rest)
    else if isSpace c then
      match rest.dropWhile fun g => isSpace g.1 with
      | [] => .ok ([], [])
      | (d, _) :: after => if d == ')' then .ok ([], after) else .error after
    else if spoilsUrl c then .error rest
    else
      match readUrl rest with
      | .ok (text, after) => .ok ((if c == '\x00' then '\uFFFD' else c) :: text, after)
      | .error after => .error after
termination_by gs.length
decreasing_by
  · have := length_readEscape_le rest
    simp only [List.length_cons]; omega
  · simp

/-- Reads what follows the name of an address and its bracket: a quote makes it a function. A
bad address is all that stands in front of its closing bracket. -/
def readUrlOrFunction (name : String) (gs : List Glyph) : Token × List Glyph :=
  let inner := gs.dropWhile fun g => isSpace g.1
  if heads (fun c => c == '"' || c == '\'') inner then (.function name, gs)
  else
    match readUrl inner with
    | .ok (address, after) => (.url (String.ofList address), after)
    | .error rest =>
      let (text, after) := readBadUrl rest
      (.badUrl (String.ofList (chars (inner.take (inner.length - rest.length)) ++ text)), after)

/-- Reads an identifier or a function. -/
def readWord (gs : List Glyph) : Token × List Glyph :=
  let (name, after) := readName gs
  let name := String.ofList name
  match after with
  | ('(', _) :: rest =>
    if sameName name "url" then readUrlOrFunction name rest else (.function name, rest)
  | _ => (.ident name, after)

/-- Whether a number starts here, apart from its sign. -/
def startsDigits : List Glyph → Bool
  | ('.', _) :: rest => heads Char.isDigit rest
  | gs => heads Char.isDigit gs

/-- The sign at the start of a text, as whether there is one and whether it is a minus. -/
def readSign : List Glyph → Bool × Bool × List Glyph
  | ('+', _) :: rest => (true, false, rest)
  | ('-', _) :: rest => (true, true, rest)
  | gs => (false, false, gs)

/-- The digits at the start of a text. -/
def readDigits (gs : List Glyph) : List Char × List Glyph :=
  let digits := gs.takeWhile fun g => g.1.isDigit
  (chars digits, gs.drop digits.length)

/-- The values of digits. -/
def digitValues (digits : List Char) : List Nat := digits.map fun d => d.toNat - '0'.toNat

/-- The number that digits make. -/
def numberOf (digits : List Char) : Nat := (digitValues digits).foldl (fun n d => n * 10 + d) 0

/-- The power of ten written at the start of a text, if one is. -/
def readPower (gs : List Glyph) : Option Int × List Glyph :=
  match gs with
  | (c, _) :: rest =>
    let (_, negative, digits) := readSign rest
    if (c == 'e' || c == 'E') && heads Char.isDigit digits then
      let (digits, after) := readDigits digits
      (some (if negative then -(numberOf digits : Int) else numberOf digits), after)
    else (none, gs)
  | [] => (none, [])

/-- Reads a numeral. -/
def readNumeral (gs : List Glyph) : Numeral × List Glyph :=
  let (signed, negative, gs) := readSign gs
  let (integral, gs) := readDigits gs
  let (fraction, gs) :=
    match gs with
    | ('.', _) :: rest => if heads Char.isDigit rest then readDigits rest else ([], gs)
    | _ => ([], gs)
  let (power, gs) := readPower gs
  ({ signed
     negative
     integral := digitValues integral
     fraction := digitValues fraction
     power }, gs)

/-- Reads a numeral with its unit, if it has one. -/
def readQuantity (gs : List Glyph) : Token × List Glyph :=
  let (n, rest) := readNumeral gs
  match rest with
  | ('%', _) :: after => (.percentage n, after)
  | _ =>
    if startsName rest then
      let (unit, after) := readName rest
      (.dimension n (String.ofList unit), after)
    else (.number n, rest)

/-- Reads what follows a number sign. -/
def readHash (gs : List Glyph) : Token × List Glyph :=
  if startsName gs then
    let (name, after) := readName gs
    (.idHash (String.ofList name), after)
  else if heads (fun c => c.isDigit || c == '-') gs then
    let (name, after) := readName gs
    (.hash (String.ofList name), after)
  else (.delim '#', gs)

/-- Reads what follows a quote. -/
def readQuoted (quote : Char) (gs : List Glyph) : Token × List Glyph :=
  let (text, whole, after) := readString quote gs
  (if whole then .string (String.ofList text) else .badString (String.ofList text), after)

/-- A token of one or two characters: the second decides which it is. -/
def pair (c second : Char) (two : Token) (gs : List Glyph) : Token × List Glyph :=
  match gs with
  | (d, _) :: rest => if d == second then (two, rest) else (.delim c, gs)
  | [] => (.delim c, gs)

/-- Reads a comment whose opening has been read. `text` holds what it says so far, newest
first. -/
def readComment (text : List Char) : List Glyph → Token × List Glyph
  | [] => (.comment (String.ofList text.reverse), [])
  | ('*', _) :: ('/', _) :: rest => (.comment (String.ofList text.reverse), rest)
  | (c, _) :: rest => readComment (c :: text) rest

/-- Reads a token that starts with the character `c`; `rest` stands after it, and `all` is both. -/
def readToken (c : Char) (rest all : List Glyph) : Token × List Glyph :=
  match c with
  | '"' => readQuoted '"' rest
  | '\'' => readQuoted '\'' rest
  | '#' => readHash rest
  | '$' => pair c '=' .suffixMatch rest
  | '*' => pair c '=' .substringMatch rest
  | '^' => pair c '=' .prefixMatch rest
  | '|' => pair c '=' .dashMatch rest
  | '~' => pair c '=' .includeMatch rest
  | '/' =>
    match rest with
    | ('*', _) :: text => readComment [] text
    | _ => (.delim c, rest)
  | '(' => (.openParen, rest)
  | ')' => (.closeParen, rest)
  | '[' => (.openSquare, rest)
  | ']' => (.closeSquare, rest)
  | '{' => (.openCurly, rest)
  | '}' => (.closeCurly, rest)
  | ',' => (.comma, rest)
  | ':' => (.colon, rest)
  | ';' => (.semicolon, rest)
  | '+' => if startsDigits rest then readQuantity all else (.delim c, rest)
  | '.' => if heads Char.isDigit rest then readQuantity all else (.delim c, rest)
  | '-' =>
    if startsDigits rest then readQuantity all
    else
      match rest with
      | ('-', _) :: ('>', _) :: after => (.commentClose, after)
      | _ => if startsName all then readWord all else (.delim c, rest)
  | '<' =>
    match rest with
    | ('!', _) :: ('-', _) :: ('-', _) :: after => (.commentOpen, after)
    | _ => (.delim c, rest)
  | '@' =>
    if startsName rest then
      let (name, after) := readName rest
      (.atKeyword (String.ofList name), after)
    else (.delim c, rest)
  | c =>
    if isSpace c then
      let blanks := all.takeWhile fun g => isSpace g.1
      (.blank (String.ofList (chars blanks)), all.drop blanks.length)
    else if c.isDigit then readQuantity all
    else if startsName all then readWord all
    else (.delim c, rest)

/-- Where a text starts; `last` is the position of its end. -/
def startOf (last : Position) : List Glyph → Position
  | [] => last
  | (_, p) :: _ => p

/-- Reads tokens, at most `steps` of them, each of which takes at least one character. `found`
holds those in front, newest first. -/
def readTokens (last : Position) (steps : Nat) (found : List Lexeme) (gs : List Glyph) :
    List Lexeme :=
  match steps, gs with
  | 0, _ | _, [] => found.reverse
  | steps + 1, (c, p) :: rest =>
    let (token, after) := readToken c rest ((c, p) :: rest)
    readTokens last steps (⟨token, p, startOf last after⟩ :: found) after

end Lexer

/-- The tokens of a stylesheet, and the position of its end. -/
def tokens (css : List Char) : List Lexeme × Position :=
  let (gs, last) := locate {} [] css
  (Lexer.readTokens last gs.length [] gs, last)

end UsedCss.Css
