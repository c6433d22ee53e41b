import CubeClient.Number.Integer
import CubeClient.Xml.Document

/-!
# Errors

Everything that can go wrong between a caller and an analysis server, one cause per constructor.
The wording of a cause is in one place, `ClientError.message?`; a cause whose wording belongs to
somebody else (a network library, an XML reader) has none.

Causes fall into groups that a caller treats alike: the exchange itself failed, the server refused,
the answer was not XML, or the rows of the answer could not be made into objects.
-/

namespace CubeClient

/-- What is wrong with a connect string. -/
inductive ConnectStringFault where
  | missingScheme (expected : String)
  | unterminatedQuote (key : String)
  | missingServer
  deriving DecidableEq, Repr

/-- The wording of a connect string fault. -/
def ConnectStringFault.message : ConnectStringFault → String
  | .missingScheme expected => "expected prefix '" ++ expected ++ "'"
  | .unterminatedQuote key => "unterminated quote in value of '" ++ key ++ "'"
  | .missingServer => "missing 'Server'"

/-- Why a text is not a URL. -/
inductive UrlFault where
  | relativeWithoutBase
  | emptyHost
  | invalidPort
  | invalidIpv4
  | invalidIpv6
  | invalidDomain
  | invalidCharacter
  deriving DecidableEq, Repr

/-- The wording of a URL fault. -/
def UrlFault.message : UrlFault → String
  | .relativeWithoutBase => "relative URL without a base"
  | .emptyHost => "empty host"
  | .invalidPort => "invalid port number"
  | .invalidIpv4 => "invalid IPv4 address"
  | .invalidIpv6 => "invalid IPv6 address"
  | .invalidDomain => "invalid international domain name"
  | .invalidCharacter => "invalid domain character"

/-- A setting that is there but cannot be used. -/
inductive SettingFault where
  | url (raw : String) (fault : UrlFault)
  | timeout (raw : String)
  | other (text : String)
  deriving DecidableEq, Repr

/-- The wording of a setting fault. -/
def SettingFault.message : SettingFault → String
  | .url raw fault => "invalid server url '" ++ raw ++ "': " ++ fault.message
  | .timeout raw => "Timeout must be whole seconds: " ++ raw
  | .other text => text

/-- Why there are no settings. -/
inductive SettingsError where
  | fileNotFound
  | unreadable
  | malformed
  | missingVariable (name : String)
  | invalidConnectString (fault : ConnectStringFault)
  | invalidSetting (fault : SettingFault)
  deriving DecidableEq, Repr

/-- The wording of a settings error. What is wrong with a file is told by the system or by the
reader of its format. -/
def SettingsError.message? : SettingsError → Option String
  | .fileNotFound => none
  | .unreadable => none
  | .malformed => none
  | .missingVariable name => some ("Missing environment variable: " ++ name)
  | .invalidConnectString fault => some ("Invalid connect string: " ++ fault.message)
  | .invalidSetting fault => some ("Invalid configuration: " ++ fault.message)

/-- A fault the server reports in place of an answer. -/
structure SoapFault where
  code : String
  reason : String
  actor : Option String
  detail : Option String
  deriving DecidableEq, Repr

/-- An envelope that is not of the expected shape. -/
inductive ProtocolFault where
  | notAnEnvelope (found : String)
  | noBody
  | emptyBody
  | noReturn (response : String)
  | noRoot
  | other (text : String)
  deriving DecidableEq, Repr

/-- The wording of a protocol fault. -/
def ProtocolFault.message : ProtocolFault → String
  | .notAnEnvelope found => "expected SOAP Envelope, found <" ++ found ++ ">"
  | .noBody => "envelope has no Body"
  | .emptyBody => "empty SOAP Body"
  | .noReturn response => "<" ++ response ++ "> has no return"
  | .noRoot => "return has no root"
  | .other text => text

/-- Why an answer is not XML. -/
inductive ParseFault where
  | document (fault : Xml.DocumentFault)
  | unreadable (text : String)
  | other (text : String)
  deriving DecidableEq, Repr

/-- The wording of a parse fault; malformed markup has none of its own. -/
def ParseFault.message? : ParseFault → Option String
  | .document (.malformed _) => none
  | .document (.tree fault) => some fault.message
  | .unreadable text => some ("I/O error: " ++ text)
  | .other text => some text

/-- Why a field does not hold a number. -/
inductive NumberFault where
  | integer (fault : Number.IntegerFault)
  | binary
  | decimal
  | unknownDimensionType
  | other (text : String)
  deriving DecidableEq, Repr

/-- The wording of a number fault; a decimal's has none of its own. -/
def NumberFault.message? : NumberFault → Option String
  | .integer fault => some fault.message
  | .binary => some "invalid float literal"
  | .decimal => none
  | .unknownDimensionType => some "unknown dimension type"
  | .other text => some text

/-- An operation that this client does not offer. -/
inductive Unsupported where
  | batch
  | update
  | stream
  | symbolParameter
  | other (text : String)
  deriving DecidableEq, Repr

/-- The wording of an unsupported operation. -/
def Unsupported.message : Unsupported → String
  | .batch => "batch execution"
  | .update => "updates"
  | .stream => "stream parameters"
  | .symbolParameter => "SYMBOL cannot be used as a parameter type"
  | .other text => text

/-- What can go wrong between a caller and a server. -/
inductive ClientError where
  /-- No complete response arrived. -/
  | exchange
  | httpStatus (status : Nat) (body : String)
  | timeout (seconds : Nat)
  /-- The request was handed over, but its result is lost. -/
  | submissionLost (reason : Option String)
  | fault (fault : SoapFault)
  | serverException (code description : String)
  | protocol (fault : ProtocolFault)
  | parse (fault : ParseFault)
  | encode (text : String)
  | duplicateName (collection name : String)
  | reentrantPopulation (collection : String)
  | missingField (field : String)
  | invalidField (field value : String) (fault : NumberFault)
  | ownerDropped (owner : String)
  | parameterOutOfRange (ordinal count : Nat)
  | unsupportedRestriction (request key : String)
  | missingRestriction (request key : String)
  | unknownRequestType (name : String)
  | unsupported (operation : Unsupported)
  | settings (cause : SettingsError)
  deriving DecidableEq, Repr

namespace ClientError

/-- The wording of an error, unless it is not this library's own. -/
def message? : ClientError → Option String
  | .exchange => none
  | .httpStatus status body => some ("server returned HTTP " ++ toString status ++ ": " ++ body)
  | .timeout seconds => some ("request timed out after " ++ toString seconds ++ " seconds")
  | .submissionLost reason => reason.map ("submitted request did not complete: " ++ ·)
  | .fault report => some ("SOAP fault " ++ report.code ++ ": " ++ report.reason)
  | .serverException code description => some ("XML/A error " ++ code ++ ": " ++ description)
  | .protocol cause => some ("unexpected response structure: " ++ cause.message)
  | .parse cause => cause.message?.map ("malformed XML response: " ++ ·)
  | .encode text => some ("failed to encode request: " ++ text)
  | .duplicateName collection name =>
    some ("duplicate name '" ++ name ++ "' while populating " ++ collection)
  | .reentrantPopulation collection =>
    some ("collection " ++ collection ++ " observed during its own population")
  | .missingField field => some ("required field '" ++ field ++ "' missing from row")
  | .invalidField field value cause =>
    let head := "field '" ++ field ++ "' has invalid value '" ++ value ++ "'"
    some (match cause.message? with
      | some reason => head ++ ": " ++ reason
      | none => head)
  | .ownerDropped owner => some ("owner of " ++ owner ++ " has been dropped")
  | .parameterOutOfRange ordinal count =>
    some ("parameter ordinal " ++ toString ordinal ++ " out of range (statement has " ++
      toString count ++ ")")
  | .unsupportedRestriction request key =>
    some ("restriction '" ++ key ++ "' is not supported by " ++ request)
  | .missingRestriction request key => some (request ++ " requires restriction '" ++ key ++ "'")
  | .unknownRequestType name => some ("unknown metadata request type: " ++ name)
  | .unsupported operation => some ("unsupported operation: " ++ operation.message)
  | .settings cause => cause.message?.map ("configuration error: " ++ ·)

/-- The exchange with the server failed. -/
def isTransport : ClientError → Bool
  | .exchange | .httpStatus _ _ | .timeout _ | .submissionLost _ => true
  | _ => false

/-- The server refused the request. -/
def isFault : ClientError → Bool
  | .fault _ | .serverException _ _ => true
  | _ => false

/-- The answer was not XML. -/
def isParse : ClientError → Bool
  | .parse _ => true
  | _ => false

/-- The rows of an answer could not be made into objects. -/
def isPopulation : ClientError → Bool
  | .duplicateName _ _ | .reentrantPopulation _ | .missingField _ | .invalidField _ _ _
  | .ownerDropped _ => true
  | _ => false

end ClientError

end CubeClient
