import UsedCss.Html.Document
import UsedCss.Html.ParseError
/-!
# Tokens

What the lexer makes of the characters of a page, and the tree builder takes one by one.
-/

namespace UsedCss.Html

/-- Whether a tag opens or closes an element. -/
inductive TagKind
  | start
  | close
deriving DecidableEq, Repr

/-- A tag. -/
structure Tag where
  kind : TagKind
  name : String
  selfClosing : Bool := false
  attributes : List Attribute := []
deriving DecidableEq, Repr

/-- A doctype: its name and identifiers, as far as it has them. -/
structure Doctype where
  name : Option String := none
  publicId : Option String := none
  systemId : Option String := none
  /-- Whether it is too broken to mean anything. -/
  broken : Bool := false
deriving DecidableEq, Repr

/-- A token. A comment's text is of no interest. -/
inductive Token
  | error (e : ParseError)
  | doctype (d : Doctype)
  | tag (t : Tag)
  | comment
  | null
  | text (cs : List Char)
  | eof
deriving DecidableEq, Repr

/-- The value of a tag's attribute of that name. -/
def Tag.valueOf (t : Tag) (name : String) : Option String :=
  (t.attributes.find? (·.name == name)).map Attribute.value

/-- Whether two tags open elements alike: the same name and the same attributes, in whatever
order. A tag has no two attributes of one name. -/
def Tag.alike (s t : Tag) : Bool :=
  s.kind = t.kind && s.name == t.name && s.attributes.length == t.attributes.length &&
    s.attributes.all t.attributes.contains

/-- The white space of HTML. -/
def isHtmlSpace (c : Char) : Bool :=
  c == ' ' || c == '\t' || c == '\n' || c == '\x0c' || c == '\r'

namespace Doctype

/-- Public identifiers, in lower case, that ask for the oldest rules. -/
def oldPublicIds : List String :=
  ["-//w3o//dtd w3 html strict 3.0//en//", "-/w3c/dtd html 4.0 transitional/en", "html"]

/-- System identifiers, in lower case, that ask for the oldest rules. -/
def oldSystemIds : List String :=
  ["http://www.ibm.com/data/dtd/v11/ibmxhtml1-transitional.dtd"]

/-- Starts of public identifiers, in lower case, that ask for the oldest rules. -/
def oldPublicStarts : List String :=
  ["-//advasoft ltd//dtd html 3.0 aswedit + extensions//",
    "-//as//dtd html 3.0 aswedit + extensions//",
    "+//silmaril//dtd html pro v0r11 19970101//", "-//ietf//dtd html 2.0 level 1//",
    "-//ietf//dtd html 2.0 level 2//", "-//ietf//dtd html 2.0 strict level 1//",
    "-//ietf//dtd html 2.0 strict level 2//", "-//ietf//dtd html 2.0 strict//",
    "-//ietf//dtd html 2.0//", "-//ietf//dtd html 2.1e//", "-//ietf//dtd html 3.0//",
    "-//ietf//dtd html 3.2 final//", "-//ietf//dtd html 3.2//", "-//ietf//dtd html 3//",
    "-//ietf//dtd html level 0//", "-//ietf//dtd html level 1//", "-//ietf//dtd html level 2//",
    "-//ietf//dtd html level 3//", "-//ietf//dtd html strict level 0//",
    "-//ietf//dtd html strict level 1//", "-//ietf//dtd html strict level 2//",
    "-//ietf//dtd html strict level 3//", "-//ietf//dtd html strict//", "-//ietf//dtd html//",
    "-//metrius//dtd metrius presentational//",
    "-//microsoft//dtd internet explorer 2.0 html strict//",
    "-//microsoft//dtd internet explorer 2.0 html//",
    "-//microsoft//dtd internet explorer 2.0 tables//",
    "-//microsoft//dtd internet explorer 3.0 html strict//",
    "-//microsoft//dtd internet explorer 3.0 html//",
    "-//microsoft//dtd internet explorer 3.0 tables//", "-//netscape comm. corp.//dtd html//",
    "-//netscape comm. corp.//dtd strict html//", "-//o'reilly and associates//dtd html 2.0//",
    "-//o'reilly and associates//dtd html extended 1.0//",
    "-//o'reilly and associates//dtd html extended relaxed 1.0//",
    "-//softquad software//dtd hotmetal pro 6.0::19990601::extensions to html 4.0//",
    "-//softquad//dtd hotmetal pro 4.0::19971010::extensions to html 4.0//",
    "-//spyglass//dtd html 2.0 extended//", "-//sq//dtd html 2.0 hotmetal + extensions//",
    "-//sun microsystems corp.//dtd hotjava html//",
    "-//sun microsystems corp.//dtd hotjava strict html//", "-//w3c//dtd html 3 1995-03-24//",
    "-//w3c//dtd html 3.2 draft//", "-//w3c//dtd html 3.2 final//", "-//w3c//dtd html 3.2//",
    "-//w3c//dtd html 3.2s draft//", "-//w3c//dtd html 4.0 frameset//",
    "-//w3c//dtd html 4.0 transitional//", "-//w3c//dtd html experimental 19960712//",
    "-//w3c//dtd html experimental 970421//", "-//w3c//dtd w3 html//", "-//w3o//dtd w3 html 3.0//",
    "-//webtechs//dtd mozilla html 2.0//", "-//webtechs//dtd mozilla html//"]

/-- Starts of public identifiers that ask for the oldest rules if there is no system
identifier. -/
def oldPublicStartsAlone : List String :=
  ["-//w3c//dtd html 4.01 frameset//", "-//w3c//dtd html 4.01 transitional//"]

/-- Whether a page with this doctype is laid out by the oldest rules, under which a table may
stand inside a paragraph. -/
def asksForOldRules (d : Doctype) : Bool :=
  let publicId := d.publicId.map String.toLower
  let systemId := d.systemId.map String.toLower
  let publicStartsIn (starts : List String) :=
    publicId.any fun p => starts.any fun s => p.startsWith s
  d.broken || d.name != some "html" || publicId.any oldPublicIds.contains ||
    systemId.any oldSystemIds.contains || publicStartsIn oldPublicStarts ||
    (publicStartsIn oldPublicStartsAlone && systemId.isNone)

end Doctype

end UsedCss.Html
