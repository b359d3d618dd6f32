import ObjectStorage.Url.Domain
import ObjectStorage.Url.Ipv6

/-!
# Hosts

A host is a name or an address. The services' schemes have names that are domains, where a name
that ends in a number is an IPv4 address; any other scheme takes a name as it is written.
-/
namespace ObjectStorage

inductive Host where
  | name (name : String)
  | v4 (address : Ipv4)
  | v6 (address : Ipv6)
deriving DecidableEq

namespace Host

def textChars : Host → List Char
  | name n => n.toList
  | v4 a => a.textChars
  | v6 a => '[' :: a.textChars ++ [']']

def text (h : Host) : String := String.ofList h.textChars

def bracketed? : List Char → Option (Except Url.Error Host)
  | '[' :: r =>
    if r.getLast? = some ']' then some ((Ipv6.read r.dropLast).map v6)
    else some (.error .invalidIpv6)
  | _ => none

def read (cs : List Char) : Except Url.Error Host :=
  match bracketed? cs with
  | some h => h
  | none => do
    let name ← Domain.read (Percent.decode (Utf8.encode cs))
    if name.isEmpty then throw .emptyHost
    else if Ipv4.endsInNumber name then (Ipv4.read name).map v4
    else return .name (String.ofList name)

def isControl (c : Char) : Bool := c.toNat < 0x20 || c.toNat ≥ 0x7F

def isForbiddenPlain (c : Char) : Bool :=
  c == '\x00' || c == '\t' || c == '\n' || c == '\r' || " #/:<>?@[\\]^|".toList.contains c

def readPlain (cs : List Char) : Except Url.Error Host :=
  match bracketed? cs with
  | some h => h
  | none =>
    if cs.any isForbiddenPlain then .error .invalidDomainCharacter
    else .ok (.name (String.ofList (Percent.encodeBy (fun c => !isControl c) cs)))

end Host

end ObjectStorage
