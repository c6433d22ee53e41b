import CubeClient.Envelope.Vocabulary
import CubeClient.Error
import CubeClient.Xml.Fragment

/-!
# Response envelopes

A response is one of three things: a payload, a fault in its place, or a payload that carries an
exception. `parseResponse` answers the payload's root only if the response is neither of the other
two, so an empty rowset always means that there are no rows.

`rowset`, `dataset` and `fault` write the responses a server gives.
-/

namespace CubeClient.Envelope

open CubeClient.Xml

/-- The detail of a fault: the description of the first error that has one, or else all its text. -/
def faultDetail (detail : Element) : String :=
  (detail.elements.findSome? (·.attribute? "Description")).getD detail.text

/-- Reads a fault. -/
def readFault (element : Element) : SoapFault :=
  let text? (name : String) := (element.child? none name).map (·.text)
  { code := (text? "faultcode").getD ""
    reason := (text? "faultstring").getD ""
    actor := text? "faultactor"
    detail := (element.child? none "detail").map faultDetail }

/-- The exception that a payload carries, if it carries one: the first error of its messages. -/
def readException? (root : Element) : Option ClientError :=
  (root.child? none "Exception").map fun _ =>
    let error? := (root.child? none "Messages").bind (·.child? none "Error")
    .serverException ((error?.bind (·.attribute? "ErrorCode")).getD "")
      ((error?.bind (·.attribute? "Description")).getD "server reported an exception")

/-- The payload of a body: the root of what the first element of the body returns. -/
def payload (body : Element) : Except ProtocolFault Element := do
  let response ← body.elements.head?.elim (.error .emptyBody) .ok
  let result ← (response.child? none "return").elim (.error (.noReturn response.name)) .ok
  (result.child? none "root").elim (.error .noRoot) .ok

/-- Classifies a document as a payload, a fault or neither. -/
def readResponse (envelope : Element) : Except ClientError Element :=
  if !envelope.isNamed (some soapNamespace) "Envelope" then
    .error (.protocol (.notAnEnvelope envelope.name))
  else
    match envelope.child? (some soapNamespace) "Body" with
    | none => .error (.protocol .noBody)
    | some body =>
      match body.child? (some soapNamespace) "Fault" with
      | some fault => .error (.fault (readFault fault))
      | none =>
        match payload body with
        | .error fault => .error (.protocol fault)
        | .ok root =>
          match readException? root with
          | some error => .error error
          | none => .ok root

/-- Reads a response and answers its payload's root. -/
def parseResponse (bytes : Text.Bytes) : Except ClientError Element :=
  match Element.parse bytes with
  | .error fault => .error (.parse (.document fault))
  | .ok envelope => readResponse envelope

/-- A response envelope around some content. -/
def response (content : Fragment) : String :=
  (Fragment.element "SOAP-ENV:Envelope" [("xmlns:SOAP-ENV", soapNamespace)]
    [.element "SOAP-ENV:Body" [] [content]]).render

/-- The elements around a payload's root. -/
def resultFragment (method namespaceUri : String) (content : List Fragment) : Fragment :=
  .element ("cxmla:" ++ method) [("xmlns:cxmla", methodNamespace)]
    [.element "cxmla:return" [] [.element "root" [("xmlns", namespaceUri)] content]]

/-- The response to a Discover request: one row for each list of fields. -/
def rowset (rows : List (List (String × String))) : String :=
  response (resultFragment "DiscoverResponse" rowsetNamespace
    (rows.map fun fields => .element "row" [] (Fragment.ofPairs fields)))

/-- The response to an Execute request, around the XML of its dataset. -/
def dataset (content : String) : String :=
  response (resultFragment "ExecuteResponse" datasetNamespace [.raw content])

/-- The response that reports a fault. -/
def fault (code reason : String) : String :=
  response (.element "SOAP-ENV:Fault" []
    [Fragment.ofText "faultcode" code, Fragment.ofText "faultstring" reason])

end CubeClient.Envelope
