import CubeClient.Envelope.Vocabulary
import CubeClient.Request.Catalogue
import CubeClient.Text.Utf8
import CubeClient.Xml.Fragment

/-!
# Request envelopes

A request is an envelope on a single line:

```text
SOAP-ENV:Envelope
  SOAP-ENV:Body
    Discover                                   Execute
      RequestType                                Command / Statement
      Restrictions / RestrictionList / *         Properties / PropertyList / *
      Properties / PropertyList / *
```

Names and values are the caller's; values are escaped, so none of them can add an element.
-/

namespace CubeClient.Envelope

open CubeClient.Xml

/-- The declaration at the front of a request. -/
def declaration : String := "<?xml version=\"1.0\" encoding=\"UTF-8\"?>"

/-- Pairs inside an outer and an inner list element. -/
def pairList (outer inner : String) (pairs : Pairs) : Fragment :=
  .element outer [] [.element inner [] (Fragment.ofPairs pairs.entries)]

/-- The envelope around the content of an action. -/
def wrap (action : Action) (content : List Fragment) : Fragment :=
  .element "SOAP-ENV:Envelope"
    [("xmlns:SOAP-ENV", soapNamespace), ("SOAP-ENV:encodingStyle", encodingStyle)]
    [.element "SOAP-ENV:Body" []
      [.element action.element [("xmlns", methodNamespace)] content]]

/-- A Discover request as a fragment. -/
def discoverFragment (request : RequestType) (restrictions : Restrictions)
    (properties : Properties) : Fragment :=
  wrap .discover
    [Fragment.ofText "RequestType" request.name,
      pairList "Restrictions" "RestrictionList" restrictions,
      pairList "Properties" "PropertyList" properties]

/-- An Execute request as a fragment. -/
def executeFragment (statement : String) (properties : Properties) : Fragment :=
  wrap .execute
    [.element "Command" [] [Fragment.ofText "Statement" statement],
      pairList "Properties" "PropertyList" properties]

/-- The text of a request. -/
def requestText (fragment : Fragment) : String :=
  declaration ++ fragment.render

/-- The text of a Discover request. -/
def discoverText (request : RequestType) (restrictions : Restrictions)
    (properties : Properties) : String :=
  requestText (discoverFragment request restrictions properties)

/-- The text of an Execute request. -/
def executeText (statement : String) (properties : Properties) : String :=
  requestText (executeFragment statement properties)

/-- A Discover request as bytes. -/
def discoverRequest (request : RequestType) (restrictions : Restrictions)
    (properties : Properties) : Text.Bytes :=
  Text.Utf8.encode (discoverText request restrictions properties)

/-- An Execute request as bytes. -/
def executeRequest (statement : String) (properties : Properties) : Text.Bytes :=
  Text.Utf8.encode (executeText statement properties)

end CubeClient.Envelope
