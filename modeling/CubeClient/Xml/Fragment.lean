import CubeClient.Xml.Reference

/-!
# Fragments

A fragment is XML to be written: text that gets escaped, elements with names and attributes as they
are given, and raw XML that is passed through. An element is always written with a start tag and an
end tag, also when it is empty.
-/

namespace CubeClient.Xml

/-- XML to be written. -/
inductive Fragment where
  | text (content : String)
  | raw (content : String)
  | element (name : String) (attributes : List (String × String)) (children : List Fragment)
  deriving Repr

namespace Fragment

/-- A start tag. -/
def startTag (name : String) (attributes : List (String × String)) : String :=
  "<" ++ name ++
    String.join (attributes.map fun (key, value) => " " ++ key ++ "=\"" ++ escape value ++ "\"") ++
    ">"

/-- An end tag. -/
def endTag (name : String) : String :=
  "</" ++ name ++ ">"

mutual

/-- A fragment as text. -/
def render : Fragment → String
  | .text content => escape content
  | .raw content => content
  | .element name attributes children =>
    startTag name attributes ++ renderAll children ++ endTag name

/-- Some fragments as text, one after the other. -/
def renderAll : List Fragment → String
  | [] => ""
  | fragment :: rest => render fragment ++ renderAll rest

end

/-- An element that holds nothing but text. -/
def ofText (name content : String) : Fragment :=
  .element name [] [.text content]

/-- One element for each pair, holding its value. -/
def ofPairs (pairs : List (String × String)) : List Fragment :=
  pairs.map fun (name, value) => ofText name value

end Fragment

end CubeClient.Xml
