import UsedCss.Html.Tree.Head
/-!
# Names in foreign content

SVG and MathML have names with capital letters and prefixed attribute names, which HTML
text does not tell apart. Here is how such names are put right, and how foreign elements
are opened.
-/

namespace UsedCss.Html

/-- Names of SVG elements with capital letters. -/
def svgElementNames : List String :=
  ["altGlyph", "altGlyphDef", "altGlyphItem", "animateColor", "animateMotion",
    "animateTransform", "clipPath", "feBlend", "feColorMatrix", "feComponentTransfer",
    "feComposite", "feConvolveMatrix", "feDiffuseLighting", "feDisplacementMap",
    "feDistantLight", "feDropShadow", "feFlood", "feFuncA", "feFuncB", "feFuncG", "feFuncR",
    "feGaussianBlur", "feImage", "feMerge", "feMergeNode", "feMorphology", "feOffset",
    "fePointLight", "feSpecularLighting", "feSpotLight", "feTile", "feTurbulence",
    "foreignObject", "glyphRef", "linearGradient", "radialGradient", "textPath"]

/-- Names of SVG attributes with capital letters. -/
def svgAttributeNames : List String :=
  ["attributeName", "attributeType", "baseFrequency", "baseProfile", "calcMode",
    "clipPathUnits", "diffuseConstant", "edgeMode", "filterUnits", "glyphRef",
    "gradientTransform", "gradientUnits", "kernelMatrix", "kernelUnitLength", "keyPoints",
    "keySplines", "keyTimes", "lengthAdjust", "limitingConeAngle", "markerHeight",
    "markerUnits", "markerWidth", "maskContentUnits", "maskUnits", "numOctaves", "pathLength",
    "patternContentUnits", "patternTransform", "patternUnits", "pointsAtX", "pointsAtY",
    "pointsAtZ", "preserveAlpha", "preserveAspectRatio", "primitiveUnits", "refX", "refY",
    "repeatCount", "repeatDur", "requiredExtensions", "requiredFeatures", "specularConstant",
    "specularExponent", "spreadMethod", "startOffset", "stdDeviation", "stitchTiles",
    "surfaceScale", "systemLanguage", "tableValues", "targetX", "targetY", "textLength",
    "viewBox", "viewTarget", "xChannelSelector", "yChannelSelector", "zoomAndPan"]

/-- Names of MathML attributes with capital letters. -/
def mathAttributeNames : List String := ["definitionURL"]

/-- Attribute names that mean a name in another namespace, with that name. -/
def foreignAttributeNames : List (String × String) :=
  [("xlink:actuate", "actuate"), ("xlink:arcrole", "arcrole"), ("xlink:href", "href"),
    ("xlink:role", "role"), ("xlink:show", "show"), ("xlink:title", "title"),
    ("xlink:type", "type"), ("xml:lang", "lang"), ("xml:space", "space"), ("xmlns", "xmlns"),
    ("xmlns:xlink", "xlink")]

/-- The name of a list that is the same in lower case, or the name itself. -/
def spell (names : List String) (name : String) : String :=
  (names.find? (·.toLower == name)).getD name

/-- An attribute under its local name in that namespace. -/
def localAttribute (space : Namespace) (a : Attribute) : Attribute :=
  let name :=
    match space with
    | .svg => spell svgAttributeNames a.name
    | .mathml => spell mathAttributeNames a.name
    | _ => a.name
  { a with name := (foreignAttributeNames.lookup name).getD name }

namespace Builder

/-- Inserts the element of a tag in that namespace, and opens it unless the tag ends in a
slash. -/
def openForeign (b : Builder) (space : Namespace) (t : Tag) : Step :=
  let (b, e) := b.insert ⟨space, t.name⟩ (t.attributes.map (localAttribute space))
  if t.selfClosing then b.closed else (b.push e).done

end Builder

end UsedCss.Html
