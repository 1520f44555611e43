import BookCensus.Document.Node
import BookCensus.Html.Token

/-!
# Names in SVG and MathML

HTML text writes all names in lower case.  Elements and attributes of the two
other vocabularies get back the capitals that those vocabularies give them, and
a few attributes move into a namespace.
-/

namespace BookCensus.Html

open Document

/-- Names with capitals of SVG elements, by their names in lower case. -/
def svgElementNames : List (String × String) :=
  ["altGlyph", "altGlyphDef", "altGlyphItem", "animateColor", "animateMotion",
   "animateTransform", "clipPath", "feBlend", "feColorMatrix", "feComponentTransfer",
   "feComposite", "feConvolveMatrix", "feDiffuseLighting", "feDisplacementMap",
   "feDistantLight", "feDropShadow", "feFlood", "feFuncA", "feFuncB", "feFuncG", "feFuncR",
   "feGaussianBlur", "feImage", "feMerge", "feMergeNode", "feMorphology", "feOffset",
   "fePointLight", "feSpecularLighting", "feSpotLight", "feTile", "feTurbulence",
   "foreignObject", "glyphRef", "linearGradient", "radialGradient", "textPath"].map
    fun name => (name.toLower, name)

/-- Names with capitals of SVG attributes, by their names in lower case. -/
def svgAttributeNames : List (String × String) :=
  ["attributeName", "attributeType", "baseFrequency", "baseProfile", "calcMode",
   "clipPathUnits", "diffuseConstant", "edgeMode", "filterUnits", "glyphRef",
   "gradientTransform", "gradientUnits", "kernelMatrix", "kernelUnitLength", "keyPoints",
   "keySplines", "keyTimes", "lengthAdjust", "limitingConeAngle", "markerHeight",
   "markerUnits", "markerWidth", "maskContentUnits", "maskUnits", "numOctaves", "pathLength",
   "patternContentUnits", "patternTransform", "patternUnits", "pointsAtX", "pointsAtY",
   "pointsAtZ", "preserveAlpha", "preserveAspectRatio", "primitiveUnits", "refX", "refY",
   "repeatCount", "repeatDur", "requiredExtensions", "requiredFeatures", "specularConstant",
   "specularExponent", "spreadMethod", "startOffset", "stdDeviation", "stitchTiles",
   "surfaceScale", "systemLanguage", "tableValues", "targetX", "targetY", "textLength",
   "viewBox", "viewTarget", "xChannelSelector", "yChannelSelector", "zoomAndPan"].map
    fun name => (name.toLower, name)

/-- The attributes that move into a namespace, with their names there. -/
def namespacedAttributes : List (String × AttributeNamespace × String) :=
  [("xlink:actuate", .xlink, "actuate"), ("xlink:arcrole", .xlink, "arcrole"),
   ("xlink:href", .xlink, "href"), ("xlink:role", .xlink, "role"),
   ("xlink:show", .xlink, "show"), ("xlink:title", .xlink, "title"),
   ("xlink:type", .xlink, "type"), ("xml:lang", .xml, "lang"), ("xml:space", .xml, "space"),
   ("xmlns", .xmlns, "xmlns"), ("xmlns:xlink", .xmlns, "xlink")]

/-- An attribute as it stands on an element of a vocabulary. -/
def adjustAttribute (space : Namespace) (name value : String) : Attribute :=
  match space with
  | .html => ⟨.none, name, value⟩
  | _ =>
      match namespacedAttributes.lookup name with
      | some (attributeSpace, localName) => ⟨attributeSpace, localName, value⟩
      | none =>
          let name := match space with
            | .svg => (svgAttributeNames.lookup name).getD name
            | _ => if name == "definitionurl" then "definitionURL" else name
          ⟨.none, name, value⟩

/-- The name of an element of a vocabulary. -/
def adjustName (space : Namespace) (name : String) : String :=
  if space == .svg then (svgElementNames.lookup name).getD name else name

/-- A MathML element whose text is ordinary content. -/
def isMathText (e : Element) : Bool :=
  e.space == .mathml && ["mi", "mo", "mn", "ms", "mtext"].contains e.name

/-- An SVG element whose contents are HTML. -/
def isSvgHolder (e : Element) : Bool :=
  e.space == .svg && ["foreignObject", "desc", "title"].contains e.name

/-- The HTML elements whose start tags end SVG and MathML content. -/
def endsForeignContent : List String :=
  ["b", "big", "blockquote", "body", "br", "center", "code", "dd", "div", "dl", "dt", "em",
   "embed", "h1", "h2", "h3", "h4", "h5", "h6", "head", "hr", "i", "img", "li", "listing",
   "menu", "meta", "nobr", "ol", "p", "pre", "ruby", "s", "small", "span", "strong", "strike",
   "sub", "sup", "table", "tt", "u", "ul", "var"]

end BookCensus.Html
