import CubeClient.Xml.Element

/-!
# Outlines

An outline shows an element for a person to read: one line for each tag and each text, indented by
tabs. It is not XML, since nothing in it is escaped.
-/

namespace CubeClient.Xml

namespace Node

/-- The opening line of an element. -/
def openingLine (indent : String) (tag : Tag) : String :=
  let attributes := tag.attributes.map fun a => " " ++ a.name ++ "=\"" ++ a.value ++ "\""
  indent ++ "<" ++ tag.name ++ String.join attributes ++ ">\n"

mutual

/-- The outline of a node. -/
def outline (indent : String) : Node → String
  | .text content => indent ++ Text.trim content ++ "\n"
  | .element tag children =>
    openingLine indent tag ++ outlines (indent ++ "\t") children ++
      indent ++ "</" ++ tag.name ++ ">\n"

/-- The outlines of some nodes, one after the other. -/
def outlines (indent : String) : List Node → String
  | [] => ""
  | node :: rest => outline indent node ++ outlines indent rest

end

end Node

/-- The outline of an element. -/
def Element.outline (e : Element) : String :=
  Node.outline "" e.toNode

end CubeClient.Xml
