/-!
# Names of elements

An element's name has a namespace and a local part. The parsing rules treat groups of names
alike; the groups that several rules share are listed here.
-/

namespace UsedCss.Html

/-- The namespace of an element. -/
inductive Namespace
  | html
  | svg
  | mathml
  | other (uri : String)
deriving DecidableEq, Repr

/-- The identifier of a namespace. -/
def Namespace.uri : Namespace → String
  | .html => "http://www.w3.org/1999/xhtml"
  | .svg => "http://www.w3.org/2000/svg"
  | .mathml => "http://www.w3.org/1998/Math/MathML"
  | .other uri => uri

/-- A name in a namespace. -/
structure QName where
  space : Namespace
  name : String
deriving DecidableEq, Repr

namespace QName

/-- A name of HTML itself. -/
def html (name : String) : QName := ⟨.html, name⟩

/-- Whether the name is that HTML name. -/
def isHtml (q : QName) (name : String) : Bool := q.space = .html && q.name == name

/-- Whether the name is one of those HTML names. -/
def isHtmlIn (q : QName) (names : List String) : Bool := q.space = .html && names.contains q.name

/-- Elements of MathML whose text content is HTML. -/
def isMathTextPoint (q : QName) : Bool :=
  q.space = .mathml && ["mi", "mo", "mn", "ms", "mtext"].contains q.name

/-- Elements of SVG whose content is HTML. -/
def isSvgHtmlPoint (q : QName) : Bool :=
  q.space = .svg && ["foreignObject", "desc", "title"].contains q.name

/-- Elements that no end tag for an ordinary element closes on its way. -/
def isSpecial (q : QName) : Bool :=
  q.isHtmlIn ["address", "applet", "area", "article", "aside", "base", "basefont", "bgsound",
    "blockquote", "body", "br", "button", "caption", "center", "col", "colgroup", "dd",
    "details", "dir", "div", "dl", "dt", "embed", "fieldset", "figcaption", "figure",
    "footer", "form", "frame", "frameset", "h1", "h2", "h3", "h4", "h5", "h6", "head",
    "header", "hgroup", "hr", "html", "iframe", "img", "input", "isindex", "li", "link",
    "listing", "main", "marquee", "menu", "meta", "nav", "noembed", "noframes", "noscript",
    "object", "ol", "p", "param", "plaintext", "pre", "script", "section", "select", "source",
    "style", "summary", "table", "tbody", "td", "template", "textarea", "tfoot", "th",
    "thead", "title", "tr", "track", "ul", "wbr", "xmp"]

/-- Headings of any level. -/
def isHeading (q : QName) : Bool := q.isHtmlIn ["h1", "h2", "h3", "h4", "h5", "h6"]

/-- Cells of a table. -/
def isCell (q : QName) : Bool := q.isHtmlIn ["td", "th"]

/-- Parts of a table that hold no text of their own. -/
def isTablePart (q : QName) : Bool := q.isHtmlIn ["table", "tbody", "tfoot", "thead", "tr"]

/-- Elements whose end tag may be left out. -/
def isImpliedEnd (q : QName) : Bool :=
  q.isHtmlIn ["dd", "dt", "li", "option", "optgroup", "p", "rb", "rp", "rt", "rtc"]

/-- Elements whose end tag may be left out, and the parts of a table. -/
def isImpliedEndThoroughly (q : QName) : Bool :=
  q.isImpliedEnd || q.isHtmlIn ["caption", "colgroup", "tbody", "td", "tfoot", "th", "thead", "tr"]

/-- Elements that end the usual scope. -/
def endsScope (q : QName) : Bool :=
  q.isHtmlIn ["applet", "caption", "html", "table", "td", "th", "marquee", "object", "template"] ||
    q.isMathTextPoint || q.isSvgHtmlPoint

/-- Elements that end the scope of a list item. -/
def endsListItemScope (q : QName) : Bool := q.endsScope || q.isHtmlIn ["ol", "ul"]

/-- Elements that end the scope of a paragraph. -/
def endsButtonScope (q : QName) : Bool := q.endsScope || q.isHtml "button"

/-- Elements that end the scope of a part of a table. -/
def endsTableScope (q : QName) : Bool := q.isHtmlIn ["html", "table", "template"]

/-- Elements that end the scope of a select box: all but its groups and options. -/
def endsSelectScope (q : QName) : Bool := !q.isHtmlIn ["optgroup", "option"]

/-- Elements that may still be open at the end of the body. -/
def mayStayOpen (q : QName) : Bool :=
  q.isHtmlIn ["dd", "dt", "li", "optgroup", "option", "p", "rp", "rt", "tbody", "td", "tfoot",
    "th", "thead", "tr", "body", "html"]

end QName

end UsedCss.Html
