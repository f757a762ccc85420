import SilentAuth.Url.Domain
import SilentAuth.Url.Percent

/-!
# Hosts

A host is a domain name, an internet address, or a name that no rule of domain names applies to.
What a text says as a host depends on the scheme of the URL: special schemes have domain names and
addresses, the others have names.
-/

namespace SilentAuth

/-- Why a text is no URL. -/
inductive UrlError where
  | relativeWithoutBase
  | emptyHost
  | invalidPort
  | invalidIpv4Address
  | invalidIpv6Address
  | invalidDomainName
  | invalidDomainCharacter
deriving DecidableEq

/-- The words for an error. -/
def UrlError.message : UrlError → String
  | .relativeWithoutBase => "relative URL without a base"
  | .emptyHost => "empty host"
  | .invalidPort => "invalid port number"
  | .invalidIpv4Address => "invalid IPv4 address"
  | .invalidIpv6Address => "invalid IPv6 address"
  | .invalidDomainName => "invalid international domain name"
  | .invalidDomainCharacter => "invalid domain character"

/-- The host of a URL. -/
inductive Host where
  /-- A domain name, in ASCII and lower case. -/
  | domain (name : List Char)
  /-- The four bytes of an address as one number. -/
  | ipv4 (address : Nat)
  /-- The eight pieces of an address. -/
  | ipv6 (pieces : List Nat)
  /-- A name of a scheme with rules of its own, which may be empty. -/
  | named (name : List Char)
deriving DecidableEq

namespace Host

/-- The text of a host. -/
def write : Host → List Char
  | .domain name => name
  | .ipv4 address => Ipv4.write address
  | .ipv6 pieces => '[' :: Ipv6.write pieces ++ [']']
  | .named name => name

/-- The address between brackets, if the text has a bracket at its start. -/
def bracketed? (cs : List Char) : Option (Except UrlError Host) :=
  if cs.head? = some '[' then
    some
      (if cs.getLast? = some ']' then
        match Ipv6.read? (cs.drop 1).dropLast with
        | some pieces => .ok (.ipv6 pieces)
        | none => .error .invalidIpv6Address
      else .error .invalidIpv6Address)
  else none

/-- The host that a text says in a URL of a special scheme. Percent-encoded bytes stand for
themselves. -/
def ofSpecial (cs : List Char) : Except UrlError Host :=
  match bracketed? cs with
  | some host => host
  | none =>
    match Domain.toAscii? (Utf8.lossy (Percent.decode (Utf8.encode cs))) with
    | none => .error .invalidDomainName
    | some name =>
      if name.isEmpty then .error .emptyHost
      else if Ipv4.isMeant name then
        match Ipv4.read? name with
        | some address => .ok (.ipv4 address)
        | none => .error .invalidIpv4Address
      else .ok (.domain name)

/-- The characters that the host of a URL of no special scheme does not hold. -/
def isForbidden (c : Char) : Bool := "\x00\t\n\r #/:<>?@[\\]^|".toList.contains c

/-- The host that a text says in a URL of no special scheme. -/
def ofNamed (cs : List Char) : Except UrlError Host :=
  match bracketed? cs with
  | some host => host
  | none =>
    if cs.any isForbidden then .error .invalidDomainCharacter
    else .ok (.named (Percent.encode Percent.controls cs))

end Host

end SilentAuth
