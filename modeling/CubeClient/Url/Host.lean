import CubeClient.Url.Address
import CubeClient.Url.Percent

/-!
# Hosts

The host of a URL is a name or a numeric address. URLs of the web's own schemes name a host by the
rules of domain names; the host of any other URL is opaque, and only characters with a meaning are
refused in it.
-/

namespace CubeClient

open CubeClient.Text CubeClient.Url

/-- The host of a URL. -/
inductive Host where
  | domain (name : String)
  | ipv4 (address : Nat)
  | ipv6 (groups : List Nat)
  deriving DecidableEq, Repr

namespace Host

/-- The written form. -/
def render : Host → String
  | .domain name => name
  | .ipv4 address => renderIpv4 address
  | .ipv6 groups => "[" ++ renderIpv6 groups ++ "]"

/-- The name of a host that is no numeric address. -/
def name? : Host → Option String
  | .domain name => some name
  | _ => none

/-- Reads an address in brackets, of which the opening one is read. -/
def readBracketed (text : List Char) : Except UrlFault Host :=
  match text.reverse with
  | ']' :: address => (readIpv6? address.reverse).elim (.error .invalidIpv6) (.ok ∘ .ipv6)
  | _ => .error .invalidIpv6

/-- Reads a name, or the address that it stands for. -/
def readName (text : List Char) : Except UrlFault Host :=
  match (Utf8.decodeList? (percentDecode (Utf8.encodeList text))).bind foldName? with
  | none => .error .invalidDomain
  | some [] => .error .emptyHost
  | some name =>
    if endsInNumber name then (readIpv4? name).elim (.error .invalidIpv4) (.ok ∘ .ipv4)
    else .ok (.domain (String.ofList name))

/-- Reads a host by the rules of domain names. -/
def read : List Char → Except UrlFault Host
  | '[' :: rest => readBracketed rest
  | text => readName text

/-- What no opaque host holds. -/
def isForbidden (c : Char) : Bool :=
  ['\x00', '\t', '\n', '\r', ' ', '#', '/', ':', '<', '>', '?', '@', '[', '\\', ']', '^',
    '|'].contains c

/-- Reads an opaque host. -/
def readOpaque : List Char → Except UrlFault Host
  | '[' :: rest => readBracketed rest
  | text =>
    if text.any isForbidden then .error .invalidCharacter
    else .ok (.domain (String.ofList (percentEncode isControl text)))

end Host

end CubeClient
