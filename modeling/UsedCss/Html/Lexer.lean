import UsedCss.Html.CharRef
import UsedCss.Html.Token
/-!
# The lexer

`Lexer.step` takes one character of a page. Where a character has to be looked at again in
another state, the step for that state is called with it, and where several characters are
taken at once, `skip` says how many of those that follow belong to them. `Lexer.finish`
takes the end of the page. Each step puts the tokens it makes into `out`.
-/

namespace UsedCss.Html

/-- The state of the lexer. -/
structure Lexer where
  state : LexerState := .data
  /-- The tokens made and not taken yet, newest first. -/
  out : List Token := []
  /-- How many of the next characters have been taken already. -/
  skip : Nat := 0
  tagKind : TagKind := .start
  tagName : String := ""
  selfClosing : Bool := false
  /-- The finished attributes of the tag, newest first. -/
  attributes : List Attribute := []
  attributeName : String := ""
  attributeValue : String := ""
  /-- The name of the last start tag, which ends raw content. -/
  lastStart : Option String := none
  /-- Text that may have to be given out later. -/
  held : String := ""
  doctype : Doctype := {}
deriving DecidableEq, Repr

namespace Lexer

/-! ## What a step does -/

/-- Goes on in another state. -/
def enter (lx : Lexer) (state : LexerState) : Lexer := { lx with state }

/-- Gives out a token. -/
def emit (lx : Lexer) (t : Token) : Lexer := { lx with out := t :: lx.out }

/-- Reports an error. -/
def report (lx : Lexer) (e : ParseError) : Lexer := lx.emit (.error e)

/-- Reports a character that does not belong here. -/
def saw (lx : Lexer) (c : Char) : Lexer := lx.report (.saw c lx.state)

/-- Gives out a character of text. -/
def emitChar (lx : Lexer) (c : Char) : Lexer :=
  lx.emit (if c = '\x00' then .null else .text [c])

/-- Gives out the held text, which is held no longer. -/
def emitHeld (lx : Lexer) : Lexer :=
  { lx.emit (.text lx.held.toList) with held := "" }

/-- Holds a character back. -/
def hold (lx : Lexer) (c : Char) : Lexer := { lx with held := lx.held.push c }

/-- Holds nothing back. -/
def clearHeld (lx : Lexer) : Lexer := { lx with held := "" }

/-- Forgets the tag. -/
def discardTag (lx : Lexer) : Lexer :=
  { lx with tagName := "", selfClosing := false, attributes := [] }

/-- Starts a tag with the first character of its name. -/
def startTag (lx : Lexer) (kind : TagKind) (c : Char) : Lexer :=
  { lx.discardTag with tagKind := kind, tagName := c.toString }

/-- Adds a character to the tag's name. -/
def pushTag (lx : Lexer) (c : Char) : Lexer := { lx with tagName := lx.tagName.push c }

/-- Ends the attribute, if there is one: it joins the tag unless one of its name has. -/
def finishAttribute (lx : Lexer) : Lexer :=
  if lx.attributeName.isEmpty then lx
  else if lx.attributes.any (·.name == lx.attributeName) then
    { lx.report .duplicateAttribute with attributeName := "", attributeValue := "" }
  else
    { lx with
      attributes := ⟨lx.attributeName, lx.attributeValue⟩ :: lx.attributes
      attributeName := ""
      attributeValue := "" }

/-- Starts an attribute with the first character of its name. -/
def startAttribute (lx : Lexer) (c : Char) : Lexer :=
  { lx.finishAttribute with attributeName := c.toString }

/-- Adds a character to the attribute's name. -/
def pushName (lx : Lexer) (c : Char) : Lexer :=
  { lx with attributeName := lx.attributeName.push c }

/-- Adds a character to the attribute's value. -/
def pushValue (lx : Lexer) (c : Char) : Lexer :=
  { lx with attributeValue := lx.attributeValue.push c }

/-- Gives out the tag and goes on in text. -/
def emitTag (lx : Lexer) : Lexer :=
  let lx := (lx.enter .data).finishAttribute
  let tag : Tag := ⟨lx.tagKind, lx.tagName, lx.selfClosing, lx.attributes.reverse⟩
  match lx.tagKind with
  | .start =>
    { lx.emit (.tag tag) with tagName := "", attributes := [], lastStart := some tag.name }
  | .close =>
    let lx := if lx.attributes.isEmpty then lx else lx.report .attributesOnEndTag
    let lx := if lx.selfClosing then lx.report .selfClosingEndTag else lx
    { lx.emit (.tag tag) with tagName := "", attributes := [] }

/-- Gives out the doctype and goes on in text. -/
def emitDoctype (lx : Lexer) : Lexer := (lx.enter .data).emit (.doctype lx.doctype)

/-- Gives out the comment and goes on in text. -/
def emitComment (lx : Lexer) : Lexer := (lx.enter .data).emit .comment

/-- Marks the doctype as broken. -/
def breakDoctype (lx : Lexer) : Lexer := { lx with doctype := { lx.doctype with broken := true } }

/-- Adds a character to the doctype's name. -/
def pushDoctypeName (lx : Lexer) (c : Char) : Lexer :=
  { lx with doctype := { lx.doctype with name := some ((lx.doctype.name.getD "").push c) } }

/-- The doctype with an identifier changed. -/
def setDoctypeId (lx : Lexer) (id : DoctypeId) (f : Option String → Option String) : Lexer :=
  match id with
  | .publicId => { lx with doctype := { lx.doctype with publicId := f lx.doctype.publicId } }
  | .systemId => { lx with doctype := { lx.doctype with systemId := f lx.doctype.systemId } }

/-- Starts an identifier of the doctype. -/
def startDoctypeId (lx : Lexer) (id : DoctypeId) : Lexer := lx.setDoctypeId id fun _ => some ""

/-- Adds a character to an identifier of the doctype. -/
def pushDoctypeId (lx : Lexer) (id : DoctypeId) (c : Char) : Lexer :=
  lx.setDoctypeId id fun s => some ((s.getD "").push c)

/-! ## Reading a character -/

/-- Characters that no page should hold: control characters and noncharacters. -/
def isBad (c : Char) : Bool :=
  let n := c.toNat
  (1 ≤ n && n ≤ 8) || n == 0x0B || (0x0E ≤ n && n ≤ 0x1F) || (0x7F ≤ n && n ≤ 0x9F) ||
    (0xFDD0 ≤ n && n ≤ 0xFDEF) || n &&& 0xFFFE == 0xFFFE

/-- Reports a character that no page should hold. -/
def heed (lx : Lexer) (c : Char) : Lexer := if isBad c then lx.report (.badCharacter c) else lx

/-- The white space that separates the parts of a tag. -/
def isTagSpace (c : Char) : Bool := c == ' ' || c == '\t' || c == '\n' || c == '\x0c'

/-- Reads what follows an ampersand, and gives each character it stands for to `put`. -/
def reference (lx : Lexer) (inAttribute : Bool) (put : Lexer → Char → Lexer)
    (rest : List Char) : Lexer :=
  let r := CharRef.read inAttribute rest
  let lx := r.errors.foldl report { lx with skip := r.length }
  if r.characters.isEmpty then put lx '&' else r.characters.foldl put lx

/-- What stands for a character that is missing. -/
def missing : Char := '\uFFFD'

/-- The next character in text. -/
def inData (lx : Lexer) (c : Char) (rest : List Char) : Lexer :=
  if c = '&' then lx.reference false emitChar rest
  else if c = '<' then lx.enter .tagOpen
  else if c = '\x00' then (lx.saw c).emitChar c
  else lx.emitChar c

/-- The next character in raw content. -/
def inRawData (lx : Lexer) (kind : RawKind) (c : Char) (rest : List Char) : Lexer :=
  if c = '\x00' then (lx.saw c).emitChar missing
  else if c = '&' && kind = .rcdata then lx.reference false emitChar rest
  else
    match kind with
    | .scriptEscaped e =>
      if c = '-' then (lx.emitChar c).enter (.scriptEscapedDash e)
      else if c = '<' then
        (if e = .doubleEscaped then lx.emitChar c else lx).enter (.rawLessThan kind)
      else lx.emitChar c
    | _ => if c = '<' then lx.enter (.rawLessThan kind) else lx.emitChar c

/-- The next character of plain text. -/
def inPlaintext (lx : Lexer) (c : Char) : Lexer :=
  if c = '\x00' then (lx.saw c).emitChar missing else lx.emitChar c

/-! ## Comments and declarations -/

/-- The next character of a comment that is none. -/
def inBogusComment (lx : Lexer) (c : Char) : Lexer :=
  if c = '>' then lx.emitComment else if c = '\x00' then lx.saw c else lx

/-- The next character of a comment. -/
def inComment (lx : Lexer) (c : Char) : Lexer :=
  if c = '<' then lx.enter .commentLessThan
  else if c = '-' then lx.enter .commentEndDash
  else if c = '\x00' then lx.saw c
  else lx

/-- The next character after a dash in a comment. -/
def inCommentEndDash (lx : Lexer) (c : Char) : Lexer :=
  if c = '-' then lx.enter .commentEnd
  else if c = '\x00' then (lx.saw c).enter .comment
  else lx.enter .comment

/-- The next character after two dashes in a comment. -/
def inCommentEnd (lx : Lexer) (c : Char) : Lexer :=
  if c = '>' then lx.emitComment
  else if c = '!' then lx.enter .commentEndBang
  else if c = '-' then lx
  else (lx.enter .comment).inComment c

/-- The next character at the start of a comment, after a dash if `dash`. -/
def inCommentStart (lx : Lexer) (dash : Bool) (c : Char) : Lexer :=
  if c = '-' then lx.enter (if dash then .commentEnd else .commentStartDash)
  else if c = '\x00' then (lx.saw c).enter .comment
  else if c = '>' then (lx.saw c).emitComment
  else lx.enter .comment

/-- The next character after the exclamation mark behind two dashes in a comment. -/
def inCommentEndBang (lx : Lexer) (c : Char) : Lexer :=
  if c = '-' then lx.enter .commentEndDash
  else if c = '>' then (lx.saw c).emitComment
  else if c = '\x00' then (lx.saw c).enter .comment
  else lx.enter .comment

/-- Whether a text starts with that word in whatever case. The word is in lower case. -/
def startsWithWord (word : List Char) (cs : List Char) : Bool :=
  (cs.take word.length).map Char.toLower == word

/-- What follows an exclamation mark behind a less-than sign. A section of character data is
one only among foreign elements. -/
def inMarkupDeclaration (lx : Lexer) (foreign : Bool) (c : Char) (rest : List Char) : Lexer :=
  let cs := c :: rest
  if "--".toList.isPrefixOf cs then { lx.enter .commentStart with skip := 1 }
  else if startsWithWord "doctype".toList cs then { lx.enter .doctype with skip := 6 }
  else if foreign && "[CDATA[".toList.isPrefixOf cs then
    { (lx.enter .cdata).clearHeld with skip := 6 }
  else (((lx.saw '!').enter .bogusComment).heed c).inBogusComment c

/-- The next character of a section of character data. -/
def inCdata (lx : Lexer) (c : Char) : Lexer :=
  if c = ']' then lx.enter .cdataBracket
  else if c = '\x00' then lx.emitHeld.emitChar c
  else lx.hold c

/-- The next character after closing brackets in a section of character data. -/
def inCdataEnd (lx : Lexer) (c : Char) : Lexer :=
  if c = ']' then lx.hold c
  else if c = '>' then lx.emitHeld.enter .data
  else (((lx.hold ']').hold ']').enter .cdata).inCdata c

/-! ## Doctypes -/

/-- The next character in front of a doctype's name. -/
def inBeforeDoctypeName (lx : Lexer) (c : Char) : Lexer :=
  let fresh := { lx with doctype := {} }
  if isTagSpace c then lx
  else if c = '\x00' then ((fresh.saw c).pushDoctypeName missing).enter .doctypeName
  else if c = '>' then (fresh.saw c).breakDoctype.emitDoctype
  else (fresh.pushDoctypeName c.toLower).enter .doctypeName

/-- The next character of a doctype's name. -/
def inDoctypeName (lx : Lexer) (c : Char) : Lexer :=
  if isTagSpace c then lx.enter .afterDoctypeName
  else if c = '>' then lx.emitDoctype
  else if c = '\x00' then (lx.saw c).pushDoctypeName missing
  else lx.pushDoctypeName c.toLower

/-- What follows a doctype's name. -/
def inAfterDoctypeName (lx : Lexer) (c : Char) (rest : List Char) : Lexer :=
  let cs := c :: rest
  if startsWithWord "public".toList cs then
    { lx.enter (.afterDoctypeKeyword .publicId) with skip := 5 }
  else if startsWithWord "system".toList cs then
    { lx.enter (.afterDoctypeKeyword .systemId) with skip := 5 }
  else
    let lx := lx.heed c
    if isTagSpace c then lx
    else if c = '>' then lx.emitDoctype
    else ((lx.saw c).breakDoctype).enter .bogusDoctype

/-- The next character in front of a doctype's identifier; right after the keyword if
`after`. -/
def inBeforeDoctypeId (lx : Lexer) (after : Bool) (id : DoctypeId) (c : Char) : Lexer :=
  let noted := if after then lx.saw c else lx
  if isTagSpace c then lx.enter (.beforeDoctypeId id)
  else if c = '"' then (noted.startDoctypeId id).enter (.doctypeIdDouble id)
  else if c = '\'' then (noted.startDoctypeId id).enter (.doctypeIdSingle id)
  else if c = '>' then (lx.saw c).breakDoctype.emitDoctype
  else (lx.saw c).breakDoctype.enter .bogusDoctype

/-- The next character of a doctype's identifier between such quotes. -/
def inDoctypeId (lx : Lexer) (quote : Char) (id : DoctypeId) (c : Char) : Lexer :=
  if c = quote then lx.enter (.afterDoctypeId id)
  else if c = '\x00' then (lx.saw c).pushDoctypeId id missing
  else if c = '>' then (lx.saw c).breakDoctype.emitDoctype
  else lx.pushDoctypeId id c

/-- The next character after a doctype's public identifier; right after it if `after`. -/
def inAfterPublicId (lx : Lexer) (after : Bool) (c : Char) : Lexer :=
  let noted := if after then lx.saw c else lx
  if isTagSpace c then lx.enter .betweenDoctypeIds
  else if c = '>' then lx.emitDoctype
  else if c = '"' then (noted.startDoctypeId .systemId).enter (.doctypeIdDouble .systemId)
  else if c = '\'' then (noted.startDoctypeId .systemId).enter (.doctypeIdSingle .systemId)
  else (lx.saw c).breakDoctype.enter .bogusDoctype

/-- The next character after a doctype's system identifier. -/
def inAfterSystemId (lx : Lexer) (c : Char) : Lexer :=
  if isTagSpace c then lx
  else if c = '>' then lx.emitDoctype
  else (lx.saw c).enter .bogusDoctype

/-- The next character of a doctype that is none. -/
def inBogusDoctype (lx : Lexer) (c : Char) : Lexer :=
  if c = '>' then lx.emitDoctype else if c = '\x00' then lx.saw c else lx

/-! ## Tags -/

/-- The next character after a less-than sign. -/
def inTagOpen (lx : Lexer) (c : Char) (rest : List Char) : Lexer :=
  if c = '!' then lx.enter .markupDeclarationOpen
  else if c = '/' then lx.enter .endTagOpen
  else if c = '?' then ((lx.saw c).enter .bogusComment).inBogusComment c
  else if c.isAlpha then (lx.startTag .start c.toLower).enter .tagName
  else (((lx.saw c).emitChar '<').enter .data).inData c rest

/-- The next character after a less-than sign and a slash. -/
def inEndTagOpen (lx : Lexer) (c : Char) : Lexer :=
  if c = '>' then (lx.saw c).enter .data
  else if c.isAlpha then (lx.startTag .close c.toLower).enter .tagName
  else (lx.saw c).enter .bogusComment

/-- The next character of a tag's name. -/
def inTagName (lx : Lexer) (c : Char) : Lexer :=
  if isTagSpace c then lx.enter .beforeAttributeName
  else if c = '/' then lx.enter .selfClosingStartTag
  else if c = '>' then lx.emitTag
  else if c = '\x00' then (lx.saw c).pushTag missing
  else lx.pushTag c.toLower

/-- The first character of an attribute's name, and characters in front of it. A character
of `odd` is an error but starts a name all the same. -/
def inBeforeAttributeName (lx : Lexer) (odd : List Char) (c : Char) : Lexer :=
  if isTagSpace c then lx
  else if c = '/' then lx.enter .selfClosingStartTag
  else if c = '>' then lx.emitTag
  else if c = '\x00' then ((lx.saw c).startAttribute missing).enter .attributeName
  else ((if odd.contains c then lx.saw c else lx).startAttribute c.toLower).enter .attributeName

/-- The next character of an attribute's name. -/
def inAttributeName (lx : Lexer) (c : Char) : Lexer :=
  if isTagSpace c then lx.enter .afterAttributeName
  else if c = '/' then lx.enter .selfClosingStartTag
  else if c = '=' then lx.enter .beforeAttributeValue
  else if c = '>' then lx.emitTag
  else if c = '\x00' then (lx.saw c).pushName missing
  else (if ['"', '\'', '<'].contains c then lx.saw c else lx).pushName c.toLower

/-- Characters that are errors where an attribute's name should start. -/
def oddNameStarts : List Char := ['"', '\'', '<', '=']

/-- The next character after an attribute's name. -/
def inAfterAttributeName (lx : Lexer) (c : Char) : Lexer :=
  if c = '=' then lx.enter .beforeAttributeValue else lx.inBeforeAttributeName oddNameStarts c

/-- The next character of an attribute's value. -/
def inAttributeValue (lx : Lexer) (quote : Quote) (c : Char) (rest : List Char) : Lexer :=
  if c = '&' then lx.reference true pushValue rest
  else if c = '\x00' then (lx.saw c).pushValue missing
  else
    match quote with
    | .double => if c = '"' then lx.enter .afterAttributeValueQuoted else lx.pushValue c
    | .single => if c = '\'' then lx.enter .afterAttributeValueQuoted else lx.pushValue c
    | .unquoted =>
      if isTagSpace c then lx.enter .beforeAttributeName
      else if c = '>' then lx.emitTag
      else (if ['"', '\'', '<', '=', '`'].contains c then lx.saw c else lx).pushValue c

/-- The next character after the equals sign of an attribute. -/
def inBeforeAttributeValue (lx : Lexer) (c : Char) (rest : List Char) : Lexer :=
  if isTagSpace c then lx
  else if c = '"' then lx.enter (.attributeValue .double)
  else if c = '\'' then lx.enter (.attributeValue .single)
  else if c = '>' then (lx.saw '=').emitTag
  else ((lx.enter (.attributeValue .unquoted)).heed c).inAttributeValue .unquoted c rest

/-- The next character after a quoted attribute value. -/
def inAfterAttributeValue (lx : Lexer) (c : Char) : Lexer :=
  if isTagSpace c then lx.enter .beforeAttributeName
  else if c = '/' then lx.enter .selfClosingStartTag
  else if c = '>' then lx.emitTag
  else ((lx.saw c).enter .beforeAttributeName).inBeforeAttributeName oddNameStarts c

/-- The next character after a slash in a tag. -/
def inSelfClosing (lx : Lexer) (c : Char) : Lexer :=
  if c = '>' then { lx with selfClosing := true }.emitTag
  else ((lx.saw c).enter .beforeAttributeName).inBeforeAttributeName oddNameStarts c

/-! ## Raw content -/

/-- Whether the end tag being read ends the raw content. -/
def endsRaw (lx : Lexer) : Bool := lx.tagKind = .close && lx.lastStart = some lx.tagName

/-- The next character after a less-than sign in raw content. -/
def inRawLessThan (lx : Lexer) (kind : RawKind) (c : Char) (rest : List Char) : Lexer :=
  match kind with
  | .scriptEscaped .escaped =>
    if c = '/' then lx.clearHeld.enter (.rawEndTagOpen kind)
    else if c.isAlpha then
      (((lx.clearHeld.hold c.toLower).emitChar '<').emitChar c).enter
        (.scriptEscapeStart .doubleEscaped)
    else ((lx.emitChar '<').enter (.rawData kind)).inRawData kind c rest
  | .scriptEscaped .doubleEscaped =>
    if c = '/' then (lx.clearHeld.emitChar '/').enter .scriptDoubleEscapeEnd
    else (lx.enter (.rawData kind)).inRawData kind c rest
  | _ =>
    if c = '/' then lx.clearHeld.enter (.rawEndTagOpen kind)
    else if c = '!' && kind = .script then
      ((lx.emitChar '<').emitChar '!').enter (.scriptEscapeStart .escaped)
    else ((lx.emitChar '<').enter (.rawData kind)).inRawData kind c rest

/-- The next character after a less-than sign and a slash in raw content. -/
def inRawEndTagOpen (lx : Lexer) (kind : RawKind) (c : Char) (rest : List Char) : Lexer :=
  if c.isAlpha then ((lx.startTag .close c.toLower).hold c).enter (.rawEndTagName kind)
  else (((lx.emitChar '<').emitChar '/').enter (.rawData kind)).inRawData kind c rest

/-- The next character of an end tag's name in raw content. -/
def inRawEndTagName (lx : Lexer) (kind : RawKind) (c : Char) (rest : List Char) : Lexer :=
  if lx.endsRaw && isTagSpace c then lx.clearHeld.enter .beforeAttributeName
  else if lx.endsRaw && c = '/' then lx.clearHeld.enter .selfClosingStartTag
  else if lx.endsRaw && c = '>' then lx.clearHeld.emitTag
  else if c.isAlpha then (lx.pushTag c.toLower).hold c
  else
    let lx := ((lx.discardTag.emitChar '<').emitChar '/').emitHeld
    (lx.enter (.rawData kind)).inRawData kind c rest

/-- The next character of a word in escaped script text. Once it is over, the text is in
`whenScript` if the word is script, and in `otherwise` if it is another one. -/
def inEscapeWord (lx : Lexer) (whenScript otherwise : Escape) (c : Char) (rest : List Char) :
    Lexer :=
  if isTagSpace c || c = '/' || c = '>' then
    (lx.emitChar c).enter
      (.rawData (.scriptEscaped (if lx.held == "script" then whenScript else otherwise)))
  else if c.isAlpha then (lx.hold c.toLower).emitChar c
  else (lx.enter (.rawData (.scriptEscaped otherwise))).inRawData (.scriptEscaped otherwise) c rest

/-- The next character at the start of escaped script text: a dash or something else. -/
def inEscapeStart (lx : Lexer) (next : LexerState) (c : Char) (rest : List Char) : Lexer :=
  if c = '-' then (lx.emitChar c).enter next
  else (lx.enter (.rawData .script)).inRawData .script c rest

/-- The next character after a dash in escaped script text; after two of them if `two`. -/
def inEscapedDash (lx : Lexer) (two : Bool) (e : Escape) (c : Char) : Lexer :=
  if c = '-' then
    if two then lx.emitChar c else (lx.emitChar c).enter (.scriptEscapedDashDash e)
  else if c = '<' then
    (if e = .doubleEscaped then lx.emitChar c else lx).enter (.rawLessThan (.scriptEscaped e))
  else if c = '>' && two then (lx.emitChar c).enter (.rawData .script)
  else if c = '\x00' then ((lx.saw c).emitChar missing).enter (.rawData (.scriptEscaped e))
  else (lx.emitChar c).enter (.rawData (.scriptEscaped e))

/-! ## One character -/

/-- Whether the state looks ahead before it takes a character, so that the character counts as
read only if nothing else is found. -/
def looksAhead (lx : Lexer) : Bool :=
  match lx.state with
  | .markupDeclarationOpen | .afterDoctypeName | .beforeAttributeValue => true
  | _ => false

/-- Takes one character; `rest` is what follows it, and `foreign` says whether the current
node is not of HTML. -/
def step (lx : Lexer) (foreign : Bool) (c : Char) (rest : List Char) : Lexer :=
  let lx := if lx.looksAhead then lx else lx.heed c
  match lx.state with
  | .data => lx.inData c rest
  | .plaintext => lx.inPlaintext c
  | .tagOpen => lx.inTagOpen c rest
  | .endTagOpen => lx.inEndTagOpen c
  | .tagName => lx.inTagName c
  | .rawData kind => lx.inRawData kind c rest
  | .rawLessThan kind => lx.inRawLessThan kind c rest
  | .rawEndTagOpen kind => lx.inRawEndTagOpen kind c rest
  | .rawEndTagName kind => lx.inRawEndTagName kind c rest
  | .scriptEscapeStart .escaped => lx.inEscapeStart .scriptEscapeStartDash c rest
  | .scriptEscapeStart .doubleEscaped => lx.inEscapeWord .doubleEscaped .escaped c rest
  | .scriptEscapeStartDash => lx.inEscapeStart (.scriptEscapedDashDash .escaped) c rest
  | .scriptEscapedDash e => lx.inEscapedDash false e c
  | .scriptEscapedDashDash e => lx.inEscapedDash true e c
  | .scriptDoubleEscapeEnd => lx.inEscapeWord .escaped .doubleEscaped c rest
  | .beforeAttributeName => lx.inBeforeAttributeName oddNameStarts c
  | .attributeName => lx.inAttributeName c
  | .afterAttributeName => lx.inAfterAttributeName c
  | .beforeAttributeValue => lx.inBeforeAttributeValue c rest
  | .attributeValue quote => lx.inAttributeValue quote c rest
  | .afterAttributeValueQuoted => lx.inAfterAttributeValue c
  | .selfClosingStartTag => lx.inSelfClosing c
  | .bogusComment => lx.inBogusComment c
  | .markupDeclarationOpen => lx.inMarkupDeclaration foreign c rest
  | .commentStart => lx.inCommentStart false c
  | .commentStartDash => lx.inCommentStart true c
  | .comment => lx.inComment c
  | .commentLessThan =>
    if c = '!' then lx.enter .commentLessThanBang
    else if c = '<' then lx
    else (lx.enter .comment).inComment c
  | .commentLessThanBang =>
    if c = '-' then lx.enter .commentLessThanBangDash else (lx.enter .comment).inComment c
  | .commentLessThanBangDash =>
    if c = '-' then lx.enter .commentLessThanBangDashDash
    else (lx.enter .commentEndDash).inCommentEndDash c
  | .commentLessThanBangDashDash =>
    ((if c = '>' then lx else lx.saw c).enter .commentEnd).inCommentEnd c
  | .commentEndDash => lx.inCommentEndDash c
  | .commentEnd => lx.inCommentEnd c
  | .commentEndBang => lx.inCommentEndBang c
  | .doctype =>
    if isTagSpace c then lx.enter .beforeDoctypeName
    else ((if c = '>' then lx else lx.saw c).enter .beforeDoctypeName).inBeforeDoctypeName c
  | .beforeDoctypeName => lx.inBeforeDoctypeName c
  | .doctypeName => lx.inDoctypeName c
  | .afterDoctypeName => lx.inAfterDoctypeName c rest
  | .afterDoctypeKeyword id => lx.inBeforeDoctypeId true id c
  | .beforeDoctypeId id => lx.inBeforeDoctypeId false id c
  | .doctypeIdDouble id => lx.inDoctypeId '"' id c
  | .doctypeIdSingle id => lx.inDoctypeId '\'' id c
  | .afterDoctypeId .publicId => lx.inAfterPublicId true c
  | .afterDoctypeId .systemId => lx.inAfterSystemId c
  | .betweenDoctypeIds => lx.inAfterPublicId false c
  | .bogusDoctype => lx.inBogusDoctype c
  | .cdata => lx.inCdata c
  | .cdataBracket =>
    if c = ']' then lx.enter .cdataEnd else ((lx.hold ']').enter .cdata).inCdata c
  | .cdataEnd => lx.inCdataEnd c

/-! ## The end of the page -/

/-- Reports that the page ends here, and goes on in text. -/
def cutOff (lx : Lexer) : Lexer := (lx.report (.sawEnd lx.state)).enter .data

/-- Takes the end of the page where a comment is open. -/
def cutOffComment (lx : Lexer) (state : LexerState) : Lexer :=
  ((lx.enter state).report (.sawEnd state)).emitComment

/-- Takes the end of the page in raw content. -/
def endRaw (lx : Lexer) (kind : RawKind) : Lexer :=
  match kind with
  | .scriptEscaped _ => (lx.enter (.rawData kind)).cutOff
  | _ => lx

/-- Takes the end of the page. -/
def finish (lx : Lexer) : Lexer :=
  let lx :=
    match lx.state with
    | .data | .plaintext => lx
    | .rawData kind => lx.endRaw kind
    | .tagName | .beforeAttributeName | .attributeName | .afterAttributeName
    | .attributeValue _ | .afterAttributeValueQuoted | .selfClosingStartTag
    | .scriptEscapedDash _ | .scriptEscapedDashDash _ => lx.cutOff
    | .beforeAttributeValue => (lx.enter (.attributeValue .unquoted)).cutOff
    | .tagOpen => lx.cutOff.emitChar '<'
    | .endTagOpen => (lx.cutOff.emitChar '<').emitChar '/'
    | .rawLessThan (.scriptEscaped .doubleEscaped) => lx.endRaw (.scriptEscaped .doubleEscaped)
    | .rawLessThan kind => (lx.emitChar '<').endRaw kind
    | .rawEndTagOpen kind => ((lx.emitChar '<').emitChar '/').endRaw kind
    | .rawEndTagName kind => ((lx.emitChar '<').emitChar '/').emitHeld.endRaw kind
    | .scriptEscapeStart e => lx.endRaw (.scriptEscaped e)
    | .scriptEscapeStartDash => lx
    | .scriptDoubleEscapeEnd => lx.endRaw (.scriptEscaped .doubleEscaped)
    | .commentStart | .commentStartDash | .comment | .commentEndDash | .commentEnd
    | .commentEndBang => lx.cutOffComment lx.state
    | .commentLessThan | .commentLessThanBang => lx.cutOffComment .comment
    | .commentLessThanBangDash => lx.cutOffComment .commentEndDash
    | .commentLessThanBangDashDash => lx.cutOffComment .commentEnd
    | .doctype | .beforeDoctypeName =>
      { lx.report (.sawEnd lx.state) with doctype := { broken := true } }.emitDoctype
    | .doctypeName | .afterDoctypeName | .afterDoctypeKeyword _ | .beforeDoctypeId _
    | .doctypeIdDouble _ | .doctypeIdSingle _ | .afterDoctypeId _ | .betweenDoctypeIds =>
      (lx.report (.sawEnd lx.state)).breakDoctype.emitDoctype
    | .bogusDoctype => lx.emitDoctype
    | .bogusComment => lx.emitComment
    | .markupDeclarationOpen => (lx.saw '!').emitComment
    | .cdata => lx.emitHeld.cutOff
    | .cdataBracket => ((lx.hold ']').emitHeld.enter .cdata).cutOff
    | .cdataEnd => (((lx.hold ']').hold ']').emitHeld.enter .cdata).cutOff
  lx.emit .eof

end Lexer

end UsedCss.Html
