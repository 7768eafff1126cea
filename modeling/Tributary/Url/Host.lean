import Tributary.Text.Percent
import Tributary.Url.Domain.Basic
import Tributary.Url.Ipv4
import Tributary.Url.Ipv6

/-!
# Hosts

The part of a URL that names a peer. Under the schemes that are special it is an address or a
domain; under all others it is any text without delimiters, or an address in brackets.
-/

namespace Tributary.Url

open Text

inductive Fault where
  | relative
  | emptyHost
  | invalidPort
  | invalidIpv4
  | invalidIpv6
  | invalidDomain
  | invalidHostCharacter
  deriving DecidableEq, Repr

def Fault.message : Fault → String
  | .relative => "relative URL without a base"
  | .emptyHost => "empty host"
  | .invalidPort => "invalid port number"
  | .invalidIpv4 => "invalid IPv4 address"
  | .invalidIpv6 => "invalid IPv6 address"
  | .invalidDomain => "invalid international domain name"
  | .invalidHostCharacter => "invalid domain character"

/-- A host. An empty one stands where a URL has the slashes of a host and nothing after them. -/
inductive Host where
  | empty
  | domain (name : List Char)
  | ipv4 (address : Ipv4)
  | ipv6 (address : Ipv6)
  deriving DecidableEq

namespace Host

def text : Host → List Char
  | .empty => []
  | .domain name => name
  | .ipv4 address => address.text
  | .ipv6 address => '[' :: address.text ++ [']']

def readBracketed (cs : List Char) : Except Fault Host :=
  if cs.getLast? = some ']' then
    match Ipv6.read? cs.dropLast with
    | some address => .ok (.ipv6 address)
    | none => .error .invalidIpv6
  else .error .invalidIpv6

/-- Reads a domain or an address that is written like one. -/
def readDomain (cs : List Char) : Except Fault Host :=
  match (Utf8.decode? (percentDecode cs)).bind Domain.toAscii? with
  | none => .error .invalidDomain
  | some [] => .error .emptyHost
  | some name =>
    if Ipv4.endsInNumber name then
      match Ipv4.read? name with
      | some address => .ok (.ipv4 address)
      | none => .error .invalidIpv4
    else .ok (.domain name)

/-- Reads the host of a special scheme. -/
def read : List Char → Except Fault Host
  | '[' :: rest => readBracketed rest
  | cs => readDomain cs

/-- The characters that a host of another scheme must not hold. -/
def isDelimiter (c : Char) : Bool :=
  [Char.ofNat 0, '\t', '\n', '\r', ' ', '#', '/', ':', '<', '>', '?', '@', '[', '\\', ']', '^',
    '|'].contains c

/-- Reads the host of a scheme that is not special. -/
def readPlain : List Char → Except Fault Host
  | [] => .ok .empty
  | '[' :: rest => readBracketed rest
  | cs =>
    if cs.any isDelimiter then .error .invalidHostCharacter
    else .ok (.domain (percentEncode (fun c => 0x20 ≤ c.toNat && c.toNat != 0x7F) cs))

end Host

end Tributary.Url
