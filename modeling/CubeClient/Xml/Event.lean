import CubeClient.Xml.Attributes
import CubeClient.Xml.Element
import CubeClient.Xml.Reference

/-!
# Events

A document as a sequence of events: tags with their names, namespaces and attributes decoded, ends,
texts without references. Events still come one after the other as they are written; making a tree
of them is the business of `Tree`.

Reading events checks what concerns one tag at a time and the names of end tags. Names, namespaces
and CDATA sections are decoded with replacement of what is not UTF-8; texts and attribute values
must be well formed.
-/

namespace CubeClient.Xml

open CubeClient.Text

/-- An event of a document. An end tag needs no name, because it is checked when it is read. -/
inductive Event where
  | start (tag : Tag)
  | empty (tag : Tag)
  | stop
  | text (content : String)
  | cdata (content : String)
  | ignored
  deriving DecidableEq, Repr

namespace Event

/-- Text that must be UTF-8 and may hold references. -/
def decodeText (raw : Bytes) : Except MarkupFault String :=
  match Utf8.decode? raw with
  | none => .error .notUtf8
  | some s =>
    match unescape? s with
    | none => .error .badReference
    | some t => .ok t

/-- The attributes of a tag that are not namespace declarations. -/
def decodeAttributes (attributes : List (QName × Bytes)) : Except MarkupFault (List Attribute) :=
  (attributes.filter fun (name, _) => (Declared.ofName? name).isNone).mapM fun (name, value) =>
    (decodeText value).map fun v => ⟨Utf8.decodeLossy name.localPart, v⟩

/-- Decodes a tag in the scope it stands in, and answers it with the scope of its content. -/
def readTag (scope : Bindings) (content : Bytes) :
    Except MarkupFault (QName × Tag × Bindings) := do
  let parts ← TagContent.read content
  let inner ← scope.declareAll parts.attributes
  let attributes ← decodeAttributes parts.attributes
  let namespaceUri := (inner.resolve? parts.name).map Utf8.decodeLossy
  return (parts.name, ⟨namespaceUri, Utf8.decodeLossy parts.name.localPart, attributes⟩, inner)

/-- The elements that are open: the name each was opened under, and the scope outside it. -/
abbrev OpenTags := List (QName × Bindings)

/-- Reads the events of some markup, up to the first that is malformed. -/
def ofMarkup : Bindings → OpenTags → List Markup → List Event × Option MarkupFault
  | _, _, [] => ([], none)
  | scope, tags, piece :: rest =>
    match piece with
    | .text raw =>
      match decodeText raw with
      | .error fault => ([], some fault)
      | .ok content =>
        let (events, fault) := ofMarkup scope tags rest
        (.text content :: events, fault)
    | .cdata raw =>
      let (events, fault) := ofMarkup scope tags rest
      (.cdata (Utf8.decodeLossy raw) :: events, fault)
    | .skipped =>
      let (events, fault) := ofMarkup scope tags rest
      (.ignored :: events, fault)
    | .startTag content =>
      match readTag scope content with
      | .error fault => ([], some fault)
      | .ok (name, tag, inner) =>
        let (events, fault) := ofMarkup inner ((name, scope) :: tags) rest
        (.start tag :: events, fault)
    | .emptyTag content =>
      match readTag scope content with
      | .error fault => ([], some fault)
      | .ok (_, tag, _) =>
        let (events, fault) := ofMarkup scope tags rest
        (.empty tag :: events, fault)
    | .endTag name =>
      match tags with
      | [] => ([], some .mismatchedEndTag)
      | (expected, outer) :: tags =>
        if name == expected then
          let (events, fault) := ofMarkup outer tags rest
          (.stop :: events, fault)
        else ([], some .mismatchedEndTag)

/-- The mark that may stand at the front of UTF-8 text. -/
def byteOrderMark : Bytes := [0xEF, 0xBB, 0xBF]

/-- The events of a document, up to the first malformed piece of it. -/
def ofBytes (bytes : Bytes) : List Event × Option MarkupFault :=
  let bytes := if byteOrderMark.isPrefixOf bytes then bytes.drop 3 else bytes
  let (pieces, scanFault) := Markup.scan bytes
  let (events, fault) := ofMarkup .initial [] pieces
  (events, fault.or scanFault)

end Event

end CubeClient.Xml
