/-!
# States of the lexer

The lexer reads HTML one character at a time; its state says what the next character is
part of.
-/

namespace UsedCss.Html

/-- How far script text is inside an HTML comment. -/
inductive Escape
  | escaped
  | doubleEscaped
deriving DecidableEq, Repr

/-- Content in which tags other than the closing one mean nothing. -/
inductive RawKind
  | rcdata
  | rawtext
  | script
  | scriptEscaped (escape : Escape)
deriving DecidableEq, Repr

/-- How an attribute value is quoted. -/
inductive Quote
  | unquoted
  | single
  | double
deriving DecidableEq, Repr

/-- The two identifiers of a doctype. -/
inductive DoctypeId
  | publicId
  | systemId
deriving DecidableEq, Repr

/-- What the next character is part of. -/
inductive LexerState
  | data
  | plaintext
  | tagOpen
  | endTagOpen
  | tagName
  | rawData (kind : RawKind)
  | rawLessThan (kind : RawKind)
  | rawEndTagOpen (kind : RawKind)
  | rawEndTagName (kind : RawKind)
  | scriptEscapeStart (escape : Escape)
  | scriptEscapeStartDash
  | scriptEscapedDash (escape : Escape)
  | scriptEscapedDashDash (escape : Escape)
  | scriptDoubleEscapeEnd
  | beforeAttributeName
  | attributeName
  | afterAttributeName
  | beforeAttributeValue
  | attributeValue (quote : Quote)
  | afterAttributeValueQuoted
  | selfClosingStartTag
  | bogusComment
  | markupDeclarationOpen
  | commentStart
  | commentStartDash
  | comment
  | commentLessThan
  | commentLessThanBang
  | commentLessThanBangDash
  | commentLessThanBangDashDash
  | commentEndDash
  | commentEnd
  | commentEndBang
  | doctype
  | beforeDoctypeName
  | doctypeName
  | afterDoctypeName
  | afterDoctypeKeyword (id : DoctypeId)
  | beforeDoctypeId (id : DoctypeId)
  | doctypeIdDouble (id : DoctypeId)
  | doctypeIdSingle (id : DoctypeId)
  | afterDoctypeId (id : DoctypeId)
  | betweenDoctypeIds
  | bogusDoctype
  | cdata
  | cdataBracket
  | cdataEnd
deriving DecidableEq, Repr

/-- The name of an escape as error texts give it. -/
def Escape.name : Escape → String
  | .escaped => "Escaped"
  | .doubleEscaped => "DoubleEscaped"

/-- The name of raw content as error texts give it. -/
def RawKind.name : RawKind → String
  | .rcdata => "Rcdata"
  | .rawtext => "Rawtext"
  | .script => "ScriptData"
  | .scriptEscaped e => "ScriptDataEscaped(" ++ e.name ++ ")"

/-- The name of a quoting as error texts give it. -/
def Quote.name : Quote → String
  | .unquoted => "Unquoted"
  | .single => "SingleQuoted"
  | .double => "DoubleQuoted"

/-- The name of an identifier as error texts give it. -/
def DoctypeId.name : DoctypeId → String
  | .publicId => "Public"
  | .systemId => "System"

/-- The name of a state as error texts give it. -/
def LexerState.name : LexerState → String
  | .data => "Data"
  | .plaintext => "Plaintext"
  | .tagOpen => "TagOpen"
  | .endTagOpen => "EndTagOpen"
  | .tagName => "TagName"
  | .rawData k => "RawData(" ++ k.name ++ ")"
  | .rawLessThan k => "RawLessThanSign(" ++ k.name ++ ")"
  | .rawEndTagOpen k => "RawEndTagOpen(" ++ k.name ++ ")"
  | .rawEndTagName k => "RawEndTagName(" ++ k.name ++ ")"
  | .scriptEscapeStart e => "ScriptDataEscapeStart(" ++ e.name ++ ")"
  | .scriptEscapeStartDash => "ScriptDataEscapeStartDash"
  | .scriptEscapedDash e => "ScriptDataEscapedDash(" ++ e.name ++ ")"
  | .scriptEscapedDashDash e => "ScriptDataEscapedDashDash(" ++ e.name ++ ")"
  | .scriptDoubleEscapeEnd => "ScriptDataDoubleEscapeEnd"
  | .beforeAttributeName => "BeforeAttributeName"
  | .attributeName => "AttributeName"
  | .afterAttributeName => "AfterAttributeName"
  | .beforeAttributeValue => "BeforeAttributeValue"
  | .attributeValue q => "AttributeValue(" ++ q.name ++ ")"
  | .afterAttributeValueQuoted => "AfterAttributeValueQuoted"
  | .selfClosingStartTag => "SelfClosingStartTag"
  | .bogusComment => "BogusComment"
  | .markupDeclarationOpen => "MarkupDeclarationOpen"
  | .commentStart => "CommentStart"
  | .commentStartDash => "CommentStartDash"
  | .comment => "Comment"
  | .commentLessThan => "CommentLessThanSign"
  | .commentLessThanBang => "CommentLessThanSignBang"
  | .commentLessThanBangDash => "CommentLessThanSignBangDash"
  | .commentLessThanBangDashDash => "CommentLessThanSignBangDashDash"
  | .commentEndDash => "CommentEndDash"
  | .commentEnd => "CommentEnd"
  | .commentEndBang => "CommentEndBang"
  | .doctype => "Doctype"
  | .beforeDoctypeName => "BeforeDoctypeName"
  | .doctypeName => "DoctypeName"
  | .afterDoctypeName => "AfterDoctypeName"
  | .afterDoctypeKeyword i => "AfterDoctypeKeyword(" ++ i.name ++ ")"
  | .beforeDoctypeId i => "BeforeDoctypeIdentifier(" ++ i.name ++ ")"
  | .doctypeIdDouble i => "DoctypeIdentifierDoubleQuoted(" ++ i.name ++ ")"
  | .doctypeIdSingle i => "DoctypeIdentifierSingleQuoted(" ++ i.name ++ ")"
  | .afterDoctypeId i => "AfterDoctypeIdentifier(" ++ i.name ++ ")"
  | .betweenDoctypeIds => "BetweenDoctypePublicAndSystemIdentifiers"
  | .bogusDoctype => "BogusDoctype"
  | .cdata => "CdataSection"
  | .cdataBracket => "CdataSectionBracket"
  | .cdataEnd => "CdataSectionEnd"

end UsedCss.Html
